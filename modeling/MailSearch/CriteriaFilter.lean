import MailSearch.Criteria
import MailSearch.FilterDraft
import MailSearch.Scope
import MailSearch.TermCondition
import MailSearch.Text.Normal
import MailSearch.UidRange

/-! The filter over messages that says what the criteria of a search say. Each group of criteria adds
its conditions to a draft. -/

namespace MailSearch.Criteria

/-- A text that is given and not empty. -/
def nonEmpty (text : Option String) : Option String := text.filter (· != "")

/-- The normal form of a term that is given and not blank. -/
def term? (text : Option String) : Option String := nonEmpty ((nonEmpty text).map Text.normalized)

def flagCondition (field : String) (value : Bool) : Predicate := .eq field (.bool value)

/-- The condition that a message takes part in searches across mailboxes. -/
def inSearches : Predicate := flagCondition "searchable" true

/-- Adds the conditions that apply when a text is given. -/
def adding (text : Option String) (add : FilterDraft → String → FilterDraft) (draft : FilterDraft) :
    FilterDraft :=
  match text with
  | some s => add draft s
  | none => draft

def addingWhen (flag : Bool) (add : FilterDraft → FilterDraft) (draft : FilterDraft) : FilterDraft :=
  if flag then add draft else draft

/-- The full-text query; one among the alternatives counts only where there is no other. -/
def addQuery (criteria : Criteria) (draft : FilterDraft) : FilterDraft :=
  match nonEmpty criteria.query with
  | some query => (draft.set inSearches).set (.words query)
  | none => adding (nonEmpty criteria.alternatives.query) (fun draft query => draft.either (.words query)) draft

/-- The mailboxes and, within them, the message numbers. -/
def addScope (criteria : Criteria) (scope : Option MailboxScope) (draft : FilterDraft) :
    Except Failure FilterDraft :=
  match scope with
  | none => .ok draft
  | some scope =>
    let draft := draft.set (scope.predicate MailboxScope.standardField)
    (UidRange.predicate? criteria.uids "uid").map fun uids =>
      match uids with
      | some predicate => draft.set predicate
      | none => draft

/-- The flags; where both are asked for, unseen wins over seen. -/
def addFlags (criteria : Criteria) (draft : FilterDraft) : FilterDraft :=
  draft
    |> adding (nonEmpty criteria.thread) (fun draft thread => draft.set (.eq "thread" (.text thread)))
    |> addingWhen criteria.flagged (·.set (flagCondition "flagged" true))
    |> addingWhen criteria.seen (fun draft => (draft.set (flagCondition "unseen" false)).set inSearches)
    |> addingWhen criteria.unseen (fun draft => (draft.set (flagCondition "unseen" true)).set inSearches)
    |> addingWhen criteria.searchable (·.set inSearches)

/-- Adds a bound where one is given. -/
def addLeast (field : String) (bound : Option Value) (draft : FilterDraft) : FilterDraft :=
  if bound.isSome then draft.mergeRange field bound none else draft

def addMost (field : String) (bound : Option Value) (draft : FilterDraft) : FilterDraft :=
  if bound.isSome then draft.mergeRange field none bound else draft

def addDates (criteria : Criteria) (draft : FilterDraft) : FilterDraft :=
  draft |> addLeast "idate" (criteria.dateStart.map .time) |> addMost "idate" (criteria.dateEnd.map .time)

/-- A size that is given and not zero. -/
def sizeBound (size : Option Int) : Option Value := (size.filter (· != 0)).map .int

def addSizes (criteria : Criteria) (draft : FilterDraft) : FilterDraft :=
  draft |> addLeast "size" (sizeBound criteria.minSize) |> addMost "size" (sizeBound criteria.maxSize)

/-- The senders and the recipients. -/
def addAddresses (criteria : Criteria) (draft : FilterDraft) : FilterDraft :=
  let required (fields : RoleFields) (draft : FilterDraft) (term : String) : FilterDraft :=
    draft.require (fields.condition term)
  let alternative (fields : RoleFields) (draft : FilterDraft) (term : String) : FilterDraft :=
    draft.either (fields.condition term)
  draft
    |> adding (term? criteria.sender) (required .sender)
    |> adding (term? criteria.alternatives.sender) (alternative .sender)
    |> adding (term? criteria.recipient) (required .recipient)
    |> adding (term? criteria.alternatives.recipient) (alternative .recipient)

/-- Conditions that hold together as one alternative. -/
def addTogether (draft : FilterDraft) : List Predicate → FilterDraft
  | [] => draft
  | [condition] => draft.either condition
  | conditions => draft.either (.all conditions)

def addSubjects (criteria : Criteria) (draft : FilterDraft) : FilterDraft :=
  draft
    |> adding (term? criteria.subject) (fun draft term => (subjectConditions term).foldl .require draft)
    |> adding (term? criteria.alternatives.subject) (fun draft term => addTogether draft (subjectConditions term))

/-- The draft of the filter for messages of a user in a scope. -/
def draft (criteria : Criteria) (user : String) (scope : Option MailboxScope) :
    Except Failure FilterDraft :=
  (addScope criteria scope (addQuery criteria (({} : FilterDraft).set (.eq "user" (.text user))))).map fun draft =>
    draft
      |> addFlags criteria
      |> addDates criteria
      |> addAddresses criteria
      |> addSubjects criteria
      |> addingWhen criteria.attachments (·.set (flagCondition "ha" true))
      |> addSizes criteria

end MailSearch.Criteria

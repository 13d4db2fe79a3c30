import MailSearch.CriteriaFilter
import MailSearch.Proofs.DraftSlots

/-! What the groups of criteria leave in the draft of a filter: which condition stands in each slot at the
end, what is required, and what the alternatives are. Later groups write over slots that earlier ones
filled; the tables here tell what is left of that. -/

namespace MailSearch

/-- The condition that an expression for message numbers makes is one on the given field. -/
theorem UidRange.field?_predicate? {expression : Option String} {field : String} {condition : Predicate}
    (made : UidRange.predicate? expression field = .ok (some condition)) :
    condition.field? = some field := by
  cases expression with
  | none => simp [UidRange.predicate?] at made
  | some s =>
    simp only [UidRange.predicate?] at made
    split at made
    next range _ =>
      obtain ⟨range, rfl, rfl⟩ := Option.map_eq_some_iff.mp (Except.ok.inj made)
      cases range <;> rfl
    next => cases made

namespace Criteria

open FilterDraft

/-- The criteria restrict a search to the messages that take part in searches. -/
def amongSearches (criteria : Criteria) : Bool :=
  (nonEmpty criteria.query).isSome || criteria.seen || criteria.unseen || criteria.searchable

def unseenCondition? (criteria : Criteria) : Option Predicate :=
  if criteria.unseen then some (flagCondition "unseen" true)
  else if criteria.seen then some (flagCondition "unseen" false)
  else none

/-- The condition that a field lies within the bounds that are given, if any are. -/
def rangeCondition? (field : String) (least most : Option Value) : Option Predicate :=
  if least.isSome || most.isSome then some (.range field { gte := least, lte := most }) else none

/-- The condition on message numbers counts only within a scope. -/
def uidCondition? (criteria : Criteria) (scope : Option MailboxScope) :
    Except Failure (Option Predicate) :=
  match scope with
  | none => .ok none
  | some _ => UidRange.predicate? criteria.uids "uid"

def whenSet (flag : Bool) (condition : Predicate) : Option Predicate :=
  if flag then some condition else none

/-- The slots of the finished draft, each with the condition in it, if there is one. -/
def conditions (criteria : Criteria) (user : String) (scope : Option MailboxScope)
    (uids : Option Predicate) : Table (Option Predicate) :=
  [("user", some (.eq "user" (.text user))),
    ("searchable", whenSet criteria.amongSearches inSearches),
    ("text", (nonEmpty criteria.query).map .words),
    ("mailbox", scope.map (·.predicate MailboxScope.standardField)),
    ("uid", uids),
    ("thread", (nonEmpty criteria.thread).map fun thread => .eq "thread" (.text thread)),
    ("flagged", whenSet criteria.flagged (flagCondition "flagged" true)),
    ("unseen", criteria.unseenCondition?),
    ("idate", rangeCondition? "idate" (criteria.dateStart.map .time) (criteria.dateEnd.map .time)),
    ("ha", whenSet criteria.attachments (flagCondition "ha" true)),
    ("size", rangeCondition? "size" (sizeBound criteria.minSize) (sizeBound criteria.maxSize))]

/-- The alternative query, which counts only where there is no other query. -/
def alternativeQuery? (criteria : Criteria) : Option String :=
  match nonEmpty criteria.query with
  | some _ => none
  | none => nonEmpty criteria.alternatives.query

/-- Conditions that hold together as at most one. -/
def together : List Predicate → List Predicate
  | [] => []
  | [condition] => [condition]
  | conditions => [.all conditions]

def requiredConditions (criteria : Criteria) : List Predicate :=
  (term? criteria.sender).toList.map RoleFields.sender.condition ++
    (term? criteria.recipient).toList.map RoleFields.recipient.condition ++
    (term? criteria.subject).toList.flatMap subjectConditions

def alternativeConditions (criteria : Criteria) : List Predicate :=
  criteria.alternativeQuery?.toList.map .words ++
    (term? criteria.alternatives.sender).toList.map RoleFields.sender.condition ++
    (term? criteria.alternatives.recipient).toList.map RoleFields.recipient.condition ++
    (term? criteria.alternatives.subject).toList.flatMap fun term => together (subjectConditions term)

variable {criteria : Criteria} {draft : FilterDraft}

/-! A view of the draft that the addition of a condition does not touch. -/

private theorem adding_keeps {β : Sort _} (view : FilterDraft → β) {add : FilterDraft → String → FilterDraft}
    (keeps : ∀ draft s, view (add draft s) = view draft) (text : Option String) (draft : FilterDraft) :
    view (adding text add draft) = view draft := by
  cases text with
  | none => rfl
  | some s => exact keeps draft s

private theorem get?_addingWhen (flag : Bool) (add : FilterDraft → FilterDraft) (name : String) :
    (addingWhen flag add draft).get? name =
      if flag = true then (add draft).get? name else draft.get? name := by
  cases flag <;> rfl

private theorem foldl_require (conditions : List Predicate) (draft : FilterDraft) :
    conditions.foldl FilterDraft.require draft =
      { draft with required := draft.required ++ conditions } := by
  induction conditions generalizing draft with
  | nil => simp
  | cons condition rest ih => simp [ih, FilterDraft.require]

private theorem addTogether_eq (conditions : List Predicate) (draft : FilterDraft) :
    addTogether draft conditions =
      { draft with alternatives := draft.alternatives ++ together conditions } := by
  match conditions with
  | [] => simp [addTogether, together]
  | [_] => rfl
  | _ :: _ :: _ => rfl

/-! The groups that fill slots. -/

private theorem slot_flagCondition {field : String} (named : field ≠ "") (value : Bool) :
    slot (flagCondition field value) = field :=
  slot_of_field rfl named

private theorem slot_inSearches : slot inSearches = "searchable" := slot_flagCondition (by decide) true

private theorem get?_addQuery (name : String) :
    (addQuery criteria draft).get? name =
      match nonEmpty criteria.query with
      | some query => if "text" = name then some (.words query)
        else if "searchable" = name then some inSearches else draft.get? name
      | none => draft.get? name := by
  unfold addQuery
  cases nonEmpty criteria.query with
  | none => exact adding_keeps (FilterDraft.get? · name) (fun _ _ => get?_either name) _ draft
  | some query => simp only [get?_set, slot_words, slot_inSearches]

private theorem get?_addFlags (name : String) :
    (addFlags criteria draft).get? name =
      if "searchable" = name ∧ (criteria.seen || criteria.unseen || criteria.searchable) = true then
        some inSearches
      else if "unseen" = name ∧ criteria.unseenCondition?.isSome then criteria.unseenCondition?
      else if "flagged" = name ∧ criteria.flagged = true then some (flagCondition "flagged" true)
      else if "thread" = name ∧ (nonEmpty criteria.thread).isSome then
        (nonEmpty criteria.thread).map fun thread => .eq "thread" (.text thread)
      else draft.get? name := by
  have threads : (adding (nonEmpty criteria.thread)
      (fun draft thread => draft.set (.eq "thread" (.text thread))) draft).get? name =
      if "thread" = name ∧ (nonEmpty criteria.thread).isSome then
        (nonEmpty criteria.thread).map fun thread => .eq "thread" (.text thread)
      else draft.get? name := by
    cases nonEmpty criteria.thread with
    | none => simp [adding]
    | some thread =>
      have own : slot (.eq "thread" (.text thread)) = "thread" := slot_of_field rfl (by decide)
      simp [adding, get?_set, own]
  have named : slot (flagCondition "unseen" true) = "unseen" ∧ slot (flagCondition "unseen" false) = "unseen" ∧
      slot (flagCondition "flagged" true) = "flagged" :=
    ⟨slot_flagCondition (by decide) _, slot_flagCondition (by decide) _, slot_flagCondition (by decide) _⟩
  simp only [addFlags, get?_addingWhen, get?_set, threads, slot_inSearches, named]
  by_cases searches : "searchable" = name
  · subst searches
    cases criteria.seen <;> cases criteria.unseen <;> cases criteria.searchable <;> simp
  · by_cases unseen : "unseen" = name
    · subst unseen
      simp only [unseenCondition?]
      cases criteria.seen <;> cases criteria.unseen <;> simp
    · cases criteria.flagged <;> simp [searches, unseen]

private theorem get?_addBounds (field : String) (least most : Option Value) (vacant : draft.get? field = none)
    (name : String) :
    (addMost field most (addLeast field least draft)).get? name =
      if field = name ∧ (rangeCondition? field least most).isSome then rangeCondition? field least most
      else draft.get? name := by
  cases least <;> cases most <;>
    simp [addLeast, addMost, rangeCondition?, get?_mergeRange, mergedBounds, vacant]
  split <;> rfl

/-- A scope fills the slot of the mailbox and, where there is a condition on message numbers, their slot. -/
theorem get?_addScope {scope : Option MailboxScope} {filled : FilterDraft}
    (added : addScope criteria scope draft = .ok filled) :
    ∃ uids, criteria.uidCondition? scope = .ok uids ∧ filled.required = draft.required ∧
      filled.alternatives = draft.alternatives ∧ (draft.Distinct → filled.Distinct) ∧
      ∀ name, filled.get? name =
        if "uid" = name ∧ uids.isSome then uids
        else if "mailbox" = name ∧ scope.isSome then scope.map (·.predicate MailboxScope.standardField)
        else draft.get? name := by
  cases scope with
  | none =>
    cases added
    exact ⟨none, rfl, rfl, rfl, id, by simp⟩
  | some scope =>
    simp only [addScope] at added
    have own : slot (scope.predicate MailboxScope.standardField) = "mailbox" := by
      cases scope <;> exact slot_of_field rfl (by decide)
    cases read : UidRange.predicate? criteria.uids "uid" with
    | error failure => simp [read, Except.map] at added
    | ok uids =>
      cases uids with
      | none =>
        simp only [read, Except.map, Except.ok.injEq] at added
        subst added
        exact ⟨none, read, rfl, rfl, fun distinct => distinct.set _, by simp [get?_set, own]⟩
      | some condition =>
        simp only [read, Except.map, Except.ok.injEq] at added
        subst added
        have uid : slot condition = "uid" := slot_of_field (UidRange.field?_predicate? read) (by decide)
        exact ⟨some condition, read, rfl, rfl, fun distinct => (distinct.set _).set _,
          by simp [get?_set, own, uid]⟩

/-! The groups that add to the lists, and what each group leaves as it is. -/

private theorem required_addQuery : (addQuery criteria draft).required = draft.required := by
  unfold addQuery
  cases nonEmpty criteria.query with
  | none => exact adding_keeps FilterDraft.required (fun _ _ => required_either) _ draft
  | some query => rfl

private theorem alternatives_addQuery :
    (addQuery criteria draft).alternatives =
      draft.alternatives ++ criteria.alternativeQuery?.toList.map .words := by
  unfold addQuery alternativeQuery?
  cases nonEmpty criteria.query with
  | some query => simp
  | none => cases nonEmpty criteria.alternatives.query <;> simp [adding]

private theorem distinct_addQuery (criteria : Criteria) (distinct : draft.Distinct) :
    (addQuery criteria draft).Distinct := by
  unfold addQuery
  cases nonEmpty criteria.query with
  | none =>
    exact distinct.congr (adding_keeps FilterDraft.slots (fun _ _ => slots_either) _ draft)
  | some query => exact (distinct.set _).set _

/-- A group that only fills slots changes no list, and keeps the names of slots apart. -/
structure FillsSlots (add : FilterDraft → FilterDraft) : Prop where
  required : ∀ draft, (add draft).required = draft.required
  alternatives : ∀ draft, (add draft).alternatives = draft.alternatives
  distinct : ∀ draft, draft.Distinct → (add draft).Distinct

private theorem FillsSlots.set (condition : Predicate) : FillsSlots (·.set condition) :=
  ⟨fun _ => rfl, fun _ => rfl, fun _ distinct => distinct.set condition⟩

private theorem FillsSlots.comp {first second : FilterDraft → FilterDraft} (fills : FillsSlots first)
    (also : FillsSlots second) : FillsSlots fun draft => second (first draft) :=
  ⟨fun draft => (also.required _).trans (fills.required draft),
    fun draft => (also.alternatives _).trans (fills.alternatives draft),
    fun draft distinct => also.distinct _ (fills.distinct draft distinct)⟩

private theorem FillsSlots.addingWhen {add : FilterDraft → FilterDraft} (fills : FillsSlots add) (flag : Bool) :
    FillsSlots (Criteria.addingWhen flag add) := by
  cases flag with
  | true => exact fills
  | false => exact ⟨fun _ => rfl, fun _ => rfl, fun _ distinct => distinct⟩

private theorem FillsSlots.adding {add : FilterDraft → String → FilterDraft} (fills : ∀ s, FillsSlots (add · s))
    (text : Option String) : FillsSlots (Criteria.adding text add) := by
  cases text with
  | some s => exact fills s
  | none => exact ⟨fun _ => rfl, fun _ => rfl, fun _ distinct => distinct⟩

private theorem fillsSlots_addFlags (criteria : Criteria) : FillsSlots (addFlags criteria) :=
  (FillsSlots.adding (fun _ => .set _) _).comp
    (((FillsSlots.set _).addingWhen _).comp
      ((((FillsSlots.set _).comp (.set _)).addingWhen _).comp
        ((((FillsSlots.set _).comp (.set _)).addingWhen _).comp ((FillsSlots.set _).addingWhen _))))

private theorem fillsSlots_addBounds (field : String) (least most : Option Value) :
    FillsSlots fun draft => addMost field most (addLeast field least draft) := by
  have merging (gte lte : Option Value) : FillsSlots (·.mergeRange field gte lte) :=
    ⟨fun _ => rfl, fun _ => rfl, fun _ distinct => distinct.mergeRange field gte lte⟩
  exact ((merging least none).addingWhen least.isSome).comp ((merging none most).addingWhen most.isSome)

private theorem slots_addAddresses : (addAddresses criteria draft).slots = draft.slots := by
  have keeps (text : Option String) (add : FilterDraft → String → FilterDraft)
      (kept : ∀ draft s, (add draft s).slots = draft.slots) (draft : FilterDraft) :
      (adding text add draft).slots = draft.slots := adding_keeps FilterDraft.slots kept text draft
  simp only [addAddresses]
  rw [keeps, keeps, keeps, keeps] <;> exact fun _ _ => rfl

private theorem required_addAddresses :
    (addAddresses criteria draft).required =
      draft.required ++ (term? criteria.sender).toList.map RoleFields.sender.condition ++
        (term? criteria.recipient).toList.map RoleFields.recipient.condition := by
  simp only [addAddresses]
  cases term? criteria.sender <;> cases term? criteria.recipient <;>
    cases term? criteria.alternatives.sender <;> cases term? criteria.alternatives.recipient <;>
    simp [adding]

private theorem alternatives_addAddresses :
    (addAddresses criteria draft).alternatives =
      draft.alternatives ++ (term? criteria.alternatives.sender).toList.map RoleFields.sender.condition ++
        (term? criteria.alternatives.recipient).toList.map RoleFields.recipient.condition := by
  simp only [addAddresses]
  cases term? criteria.sender <;> cases term? criteria.recipient <;>
    cases term? criteria.alternatives.sender <;> cases term? criteria.alternatives.recipient <;>
    simp [adding]

private theorem addSubjects_eq :
    addSubjects criteria draft =
      { draft with
        required := draft.required ++ (term? criteria.subject).toList.flatMap subjectConditions
        alternatives := draft.alternatives ++
          (term? criteria.alternatives.subject).toList.flatMap fun term => together (subjectConditions term) } := by
  simp only [addSubjects]
  cases term? criteria.subject <;> cases term? criteria.alternatives.subject <;>
    simp [adding, foldl_require, addTogether_eq]

/-- The parts of the finished draft. -/
structure Parts (criteria : Criteria) (user : String) (scope : Option MailboxScope)
    (uids : Option Predicate) (draft : FilterDraft) : Prop where
  distinct : draft.Distinct
  slots : ∀ name, draft.get? name = ((criteria.conditions user scope uids).get? name).join
  required : draft.required = criteria.requiredConditions
  alternatives : draft.alternatives = criteria.alternativeConditions

private theorem get?_opening {user : String} (name : String) :
    (addQuery criteria (({} : FilterDraft).set (.eq "user" (.text user)))).get? name =
      if "text" = name then (nonEmpty criteria.query).map .words
      else if "searchable" = name then whenSet (nonEmpty criteria.query).isSome inSearches
      else if "user" = name then some (.eq "user" (.text user)) else none := by
  have own : slot (.eq "user" (.text user)) = "user" := slot_of_field rfl (by decide)
  rw [get?_addQuery, get?_set, own]
  cases nonEmpty criteria.query with
  | some query => simp [whenSet]
  | none =>
    by_cases words : "text" = name
    · subst words; simp
    · by_cases searches : "searchable" = name
      · subst searches; simp [whenSet]
      · simp [words, searches]

/-- What the groups after the scope leave in the slots. -/
theorem get?_closing (vacant : ∀ name, name ∈ ["idate", "size"] → draft.get? name = none) (name : String) :
    (draft |> addFlags criteria |> addDates criteria |> addAddresses criteria |> addSubjects criteria
      |> addingWhen criteria.attachments (·.set (flagCondition "ha" true))
      |> addSizes criteria).get? name =
      if "size" = name then rangeCondition? "size" (sizeBound criteria.minSize) (sizeBound criteria.maxSize)
      else if "ha" = name ∧ criteria.attachments = true then some (flagCondition "ha" true)
      else if "idate" = name then
        rangeCondition? "idate" (criteria.dateStart.map .time) (criteria.dateEnd.map .time)
      else (addFlags criteria draft).get? name := by
  have own : slot (flagCondition "ha" true) = "ha" := slot_flagCondition (by decide) true
  have flags (field : String) (member : field ∈ ["idate", "size"]) :
      (addFlags criteria draft).get? field = none := by
    rw [get?_addFlags, vacant field member]
    rcases List.mem_cons.mp member with rfl | rest
    · simp
    · rw [List.mem_singleton.mp rest]; simp
  have dates (name : String) := get?_addBounds "idate" (criteria.dateStart.map .time)
    (criteria.dateEnd.map .time) (flags "idate" (by simp)) name
  have middle (name : String) :
      (addSubjects criteria (addAddresses criteria (addDates criteria (addFlags criteria draft)))).get? name =
        (addDates criteria (addFlags criteria draft)).get? name := by
    rw [addSubjects_eq]
    exact get?_congr slots_addAddresses name
  have inner (name : String) :
      (addingWhen criteria.attachments (·.set (flagCondition "ha" true))
        (addSubjects criteria (addAddresses criteria (addDates criteria (addFlags criteria draft))))).get? name =
        if "ha" = name ∧ criteria.attachments = true then some (flagCondition "ha" true)
        else if "idate" = name then
          rangeCondition? "idate" (criteria.dateStart.map .time) (criteria.dateEnd.map .time)
        else (addFlags criteria draft).get? name := by
    rw [get?_addingWhen, get?_set, own, middle]
    simp only [addDates, dates]
    by_cases idate : "idate" = name
    · subst idate
      rw [flags _ (by simp)]
      cases rangeCondition? "idate" (criteria.dateStart.map .time) (criteria.dateEnd.map .time) <;> simp
    · cases criteria.attachments <;> simp [idate]
  refine (get?_addBounds "size" _ _ ((inner "size").trans ?_) name).trans ?_
  · simpa using flags "size" (by simp)
  · rw [inner]
    by_cases size : "size" = name
    · subst size
      rw [flags _ (by simp)]
      cases rangeCondition? "size" (sizeBound criteria.minSize) (sizeBound criteria.maxSize) <;> simp
    · simp [size]

theorem parts_of_draft {user : String} {scope : Option MailboxScope}
    (made : criteria.draft user scope = .ok draft) :
    ∃ uids, criteria.uidCondition? scope = .ok uids ∧ criteria.Parts user scope uids draft := by
  unfold Criteria.draft at made
  cases added : addScope criteria scope (addQuery criteria (({} : FilterDraft).set (.eq "user" (.text user)))) with
  | error failure => simp [added, Except.map] at made
  | ok filled =>
    simp only [added, Except.map, Except.ok.injEq] at made
    obtain ⟨uids, read, required, alternatives, distinct, found⟩ := get?_addScope added
    refine ⟨uids, read, ?_⟩
    subst made
    have filling := (fillsSlots_addFlags criteria).comp
      (fillsSlots_addBounds "idate" (criteria.dateStart.map .time) (criteria.dateEnd.map .time))
    have closing := ((FillsSlots.set (flagCondition "ha" true)).addingWhen criteria.attachments).comp
      (fillsSlots_addBounds "size" (sizeBound criteria.minSize) (sizeBound criteria.maxSize))
    have opened := (distinct_addQuery criteria
      ((distinct_empty).set (.eq "user" (.text user))))
    constructor
    · apply closing.distinct
      rw [addSubjects_eq]
      exact (filling.distinct _ (distinct opened)).congr slots_addAddresses
    · intro name
      have vacant (field : String) (member : field ∈ ["idate", "size"]) : filled.get? field = none := by
        rw [found, get?_opening]
        rcases List.mem_cons.mp member with rfl | rest
        · simp
        · rw [List.mem_singleton.mp rest]; simp
      refine (get?_closing vacant name).trans ?_
      rw [get?_addFlags, found, get?_opening]
      simp only [conditions, Table.get?]
      by_cases known : name ∈ ["user", "searchable", "text", "mailbox", "uid", "thread", "flagged", "unseen",
        "idate", "ha", "size"]
      · simp only [List.mem_cons, List.not_mem_nil, or_false] at known
        rcases known with rfl | rfl | rfl | rfl | rfl | rfl | rfl | rfl | rfl | rfl | rfl
        · simp
        · cases given : nonEmpty criteria.query <;> simp [amongSearches, whenSet, given]
        · simp
        · cases scope <;> simp
        · cases uids <;> simp
        · cases nonEmpty criteria.thread <;> simp
        · simp [whenSet]
        · cases criteria.unseenCondition? <;> simp
        · simp
        · simp [whenSet]
        · simp
      · simp only [List.mem_cons, List.not_mem_nil, or_false, not_or, eq_comm (a := name)] at known
        simp [known]
    · refine (closing.required _).trans ?_
      rw [addSubjects_eq]
      simp only [required_addAddresses]
      rw [show (addDates criteria (addFlags criteria filled)).required = filled.required from
        filling.required filled, required, required_addQuery]
      simp [requiredConditions]
    · refine (closing.alternatives _).trans ?_
      rw [addSubjects_eq]
      simp only [alternatives_addAddresses]
      rw [show (addDates criteria (addFlags criteria filled)).alternatives = filled.alternatives from
        filling.alternatives filled, alternatives, alternatives_addQuery]
      simp [alternativeConditions]

end Criteria

end MailSearch

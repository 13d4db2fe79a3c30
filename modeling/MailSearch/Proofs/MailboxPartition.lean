import Mathlib.Data.List.Nodup
import MailSearch.Proofs.SearchRuns

/-! Listing the mailboxes covered and listing those left out come to the same. The two lists part the
mailboxes of a user, so whichever of them a resolution ends with, whatever its threshold and whichever of
its calls fail, the scope admits the messages of the same mailboxes; and filters compiled for one search
select the same of them. -/

namespace MailSearch

/-- Each mailbox has a text for its id, and no two have the same. -/
def Memory.NamesMailboxes (memory : Memory) : Prop :=
  ∃ names : List String, names.Nodup ∧
    (memory.collection Collections.mailboxes).documents.map (·.get? "id") =
      names.map fun name => some (.text name)

/-- The message is in the mailbox, and in no other. -/
def LiesIn (mailbox : Fields) (record : Value) : Prop :=
  ∃ name, mailbox.get? "id" = some (.text name) ∧
    record.candidatesAt MailboxScope.standardField = [.text name]

private theorem Value.text_agrees_iff {s : String} {value : Value} :
    (Value.text s).agrees value = true ↔ value = .text s := by
  cases value with
  | text t =>
    simp only [Value.agrees, beq_iff_eq, Value.text.injEq]
    exact eq_comm
  | float x => cases x <;> simp [Value.agrees, Value.quantity?]
  | _ => simp [Value.agrees, Value.quantity?]

private theorem Predicate.isListed_text_iff {values : List Value} {s : String} :
    Predicate.isListed values (.text s) = true ↔ .text s ∈ values := by
  simp [Predicate.isListed, Value.text_agrees_iff]

private theorem Predicate.holds?_eq_of_settled {first second : Predicate} {record : Value}
    (one : first.Settled record) (other : second.Settled record)
    (alike : first.Holds record ↔ second.Holds record) : first.holds? record = second.holds? record := by
  obtain ⟨answer, evaluated⟩ := settled_iff.mp other
  rw [evaluated]
  exact one.holds?_eq (alike.trans (by simp [Holds, evaluated]))

namespace Memory

variable {memory : Memory} {mailbox : Fields} {user : Value} {record : Value}

/-- A mailbox is among those listed for a filter when the filter chooses it. -/
theorem text_mem_mailboxIds_iff (named : memory.NamesMailboxes) {filter : Predicate}
    (settled : ∀ record, filter.Settled record) {ids : List Value} (listed : memory.mailboxIds filter = .ok ids)
    (kept : mailbox ∈ (memory.collection Collections.mailboxes).documents) {name : String}
    (identity : mailbox.get? "id" = some (.text name)) : .text name ∈ ids ↔ filter.chooses mailbox = true := by
  obtain ⟨names, distinct, same⟩ := named
  have unlike : ((memory.collection Collections.mailboxes).documents.map (·.get? "id")).Nodup := by
    rw [same]
    exact distinct.map (by intro a b equal; simpa using equal)
  have member : .text name ∈ ids ↔ some (.text name) ∈ ids.map some := by simp
  rw [member, ← (mailboxIds_eq_ok_iff settled).mp listed, List.mem_map]
  constructor
  · intro holds
    obtain ⟨other, chosen, equal⟩ := holds
    obtain ⟨kept', chooses⟩ := List.mem_filter.mp chosen
    rwa [List.inj_on_of_nodup_map unlike kept kept' (identity.trans equal.symm)]
  · intro chooses
    exact ⟨mailbox, List.mem_filter.mpr ⟨kept, chooses⟩, identity⟩

/-- Either list tells the mailboxes of a user that are of no excluded use. -/
theorem Scopes.holds_iff {scope : MailboxScope} (scopes : memory.Scopes user scope) (named : memory.NamesMailboxes)
    (kept : mailbox ∈ (memory.collection Collections.mailboxes).documents)
    (owned : MailboxScope.Owned user mailbox) (lies : LiesIn mailbox record) :
    (scope.predicate MailboxScope.standardField).Holds record ↔ ¬MailboxScope.Excluded mailbox := by
  obtain ⟨name, identity, only⟩ := lies
  cases scopes with
  | including listed =>
    simp only [MailboxScope.predicate, Predicate.holds_memberOf_iff, only, List.mem_singleton, exists_eq_left,
      Predicate.isListed_text_iff]
    rw [text_mem_mailboxIds_iff named (fun _ => MailboxScope.settled_covered user) listed kept identity,
      MailboxScope.covered_chooses_iff, and_iff_right owned]
  | excluding listed =>
    simp only [MailboxScope.predicate, Predicate.holds_notMemberOf_iff, only, List.mem_singleton, forall_eq,
      ← Bool.not_eq_true, Predicate.isListed_text_iff]
    rw [text_mem_mailboxIds_iff named (fun _ => MailboxScope.settled_leftOut user) listed kept identity,
      MailboxScope.leftOut_chooses_iff, and_iff_right owned]

private theorem Scopes.settled {scope : MailboxScope} (field : String) : (scope.predicate field).Settled record := by
  cases scope <;> simp [MailboxScope.predicate, Predicate.Settled]

end Memory

namespace Criteria

variable {criteria : Criteria} {record : Value} {resolved other : MailboxScope}

/-- Satisfaction depends on the scope only through its answer. -/
theorem Satisfied.of_alike {user : String} (satisfied : criteria.Satisfied user resolved record)
    (alike : criteria.searchable = true → ¬criteria.NamesMailbox →
      ((resolved.predicate "mailbox").Holds record ↔ (other.predicate "mailbox").Holds record)) :
    criteria.Satisfied user other record :=
  { satisfied with
    scope := fun searchable unnamed => (alike searchable unnamed).mp (satisfied.scope searchable unnamed) }

private theorem holds_drafts_iff {user : String} {first second : FilterDraft}
    (made : criteria.draft user (criteria.scopeWithin resolved) = .ok first)
    (made' : criteria.draft user (criteria.scopeWithin other) = .ok second)
    (alike : criteria.searchable = true → ¬criteria.NamesMailbox →
      ((resolved.predicate "mailbox").Holds record ↔ (other.predicate "mailbox").Holds record)) :
    first.filter.Holds record ↔ second.filter.Holds record := by
  rw [holds_draft_iff made, holds_draft_iff made']
  refine and_congr_left fun _ => ⟨fun satisfied => ?_, fun satisfied => ?_⟩
  · exact satisfied.of_alike alike
  · exact satisfied.of_alike fun searchable unnamed => (alike searchable unnamed).symm

end Criteria

open PlannedStore MailboxScope in
/-- Two resolutions for a user may differ in their thresholds and in the calls that fail. The scopes they
return give the same answer for a message in one of the user's mailboxes, and it is yes just where the
mailbox is of no excluded use. Filters compiled for one search across all mailboxes answer alike for it. -/
theorem strategies_select_alike {memory : Memory} (named : memory.NamesMailboxes) {first second : PlannedStore}
    (quiet : Quiet memory first) (quiet' : Quiet memory second) (threshold threshold' : Int) :
    (∀ user scope scope', (resolve user threshold first).outcome = .ok scope →
      (resolve user threshold' second).outcome = .ok scope' →
      ∀ mailbox ∈ (memory.collection Collections.mailboxes).documents, Owned user mailbox →
      ∀ record, LiesIn mailbox record →
        (scope.predicate standardField).holds? record = (scope'.predicate standardField).holds? record ∧
        ((scope.predicate standardField).holds? record = some true ↔ ¬Excluded mailbox)) ∧
    (∀ (criteria : Criteria) user identity compiled compiled', criteria.searchable = true →
      memory.Knows user identity → (criteria.compile user threshold first).outcome = .ok compiled →
      (criteria.compile user threshold' second).outcome = .ok compiled' →
      ∀ mailbox ∈ (memory.collection Collections.mailboxes).documents, Owned (.text identity.id) mailbox →
      ∀ record, LiesIn mailbox record → compiled.filter.holds? record = compiled'.filter.holds? record) := by
  constructor
  · intro user scope scope' returned returned' mailbox kept owned record lies
    have scopes : memory.Scopes user scope := (leaves_resolve quiet).2 scope returned
    have scopes' : memory.Scopes user scope' := (leaves_resolve quiet').2 scope' returned'
    have admits := scopes.holds_iff named kept owned lies
    have admits' := scopes'.holds_iff named kept owned lies
    exact ⟨Predicate.holds?_eq_of_settled (Memory.Scopes.settled _) (Memory.Scopes.settled _)
      (admits.trans admits'.symm), admits⟩
  · intro criteria user identity compiled compiled' searchable known returned returned' mailbox kept owned
      record lies
    obtain ⟨identity₁, resolved, draft, known₁, scopes, made, same⟩ := Criteria.leaves_compile quiet _ returned
    obtain ⟨identity₂, resolved', draft', known₂, scopes', made', same'⟩ :=
      Criteria.leaves_compile quiet' _ returned'
    cases known₁.unique known
    cases known₂.unique known
    rw [same, same']
    refine Predicate.holds?_eq_of_settled (Criteria.settled_drafted_filter made)
      (Criteria.settled_drafted_filter made') (Criteria.holds_drafts_iff made made' ?_)
    intro searchable unnamed
    have admits := (scopes searchable unnamed).holds_iff named kept owned lies
    have admits' := (scopes' searchable unnamed).holds_iff named kept owned lies
    exact admits.trans admits'.symm

section TwoMailboxes

open PlannedStore MailboxScope

def inboxMailbox : Fields := [("id", .text "m"), ("user", .text "u"), ("path", .text "INBOX")]

def junkMailbox : Fields :=
  [("id", .text "j"), ("user", .text "u"), ("path", .text "Junk"), ("special_use", .list [.text "\\Junk"])]

/-- A user with two mailboxes, one of them for junk. -/
def twoMailboxes : PlannedStore :=
  { memory := ⟨[(Collections.users, [⟨.text "u", [("id", .text "u"), ("username", .text "u")]⟩]),
      (Collections.mailboxes, [⟨.text "m", inboxMailbox⟩, ⟨.text "j", junkMailbox⟩])]⟩ }

/-- The same, where the mailboxes cannot be counted. -/
def uncountedMailboxes : PlannedStore := twoMailboxes.plan [⟨.count, 1, none⟩] []

def junkMessage : Value :=
  .object [("user", .text "u"), ("mailbox", .text "j"), ("searchable", .bool true)]

theorem strategies_select_alike_in_two_mailboxes :
    (resolve (.text "u") 200 twoMailboxes).outcome = .ok (.including [.text "m"]) ∧
    (resolve (.text "u") 5 uncountedMailboxes).outcome = .ok (.excluding [.text "j"]) ∧
    ((including [.text "m"]).predicate standardField).holds? junkMessage =
      ((excluding [.text "j"]).predicate standardField).holds? junkMessage ∧
    ∃ compiled compiled', (Criteria.compile { searchable := true } (.text "u") 200 twoMailboxes).outcome = .ok compiled ∧
      (Criteria.compile { searchable := true } (.text "u") 5 uncountedMailboxes).outcome = .ok compiled' ∧
      compiled.filter.holds? junkMessage = compiled'.filter.holds? junkMessage := by
  have named : twoMailboxes.memory.NamesMailboxes := ⟨["m", "j"], by decide, rfl⟩
  have kept : junkMailbox ∈ (twoMailboxes.memory.collection Collections.mailboxes).documents :=
    .tail _ (.head _)
  have owned : Owned (.text "u") junkMailbox := ⟨.text "u", .head _, rfl⟩
  have lies : LiesIn junkMailbox junkMessage := ⟨"j", rfl, rfl⟩
  obtain ⟨scopes, filters⟩ := strategies_select_alike named (show Quiet twoMailboxes.memory twoMailboxes from ⟨rfl, rfl⟩)
    (show Quiet twoMailboxes.memory uncountedMailboxes from ⟨rfl, rfl⟩) 200 5
  refine ⟨rfl, rfl, (scopes (.text "u") _ _ rfl rfl _ kept owned _ lies).1, _, _, rfl, rfl, ?_⟩
  exact filters { searchable := true } (.text "u") ⟨"u", "u", none, none, []⟩ _ _ rfl ⟨_, rfl, rfl⟩ rfl rfl _ kept
    owned _ lies

end TwoMailboxes

end MailSearch

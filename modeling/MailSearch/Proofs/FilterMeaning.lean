import MailSearch.Proofs.SearchRuns

/-! Compiled filters mean what the criteria say. Where the store answers and every numeral can be read, a
filter is compiled, answers for every message, and selects the messages that satisfy the criteria. It selects
others in one case only: a size that is an undefined number passes every bound on it, since it is neither
below nor above. Texts are those whose characters are known, here as everywhere: a message with half a pair of code
units in a text counts as one without that text. -/

namespace MailSearch.Criteria

open PlannedStore

/-- The message satisfies all criteria but the bounds on the size, none of its sizes lies within them, and
one of its sizes is an undefined number. -/
structure Strays (criteria : Criteria) (user : String) (resolved : MailboxScope) (record : Value) : Prop where
  others : criteria.withoutSizes.Satisfied user resolved record
  outside : ¬record.OffersWithin "size" (sizeBound criteria.minSize) (sizeBound criteria.maxSize)
  undefined : ∃ found ∈ record.candidatesAt "size", found.isUndefined = true

variable {criteria : Criteria} {user : String} {resolved : MailboxScope} {record : Value}

private theorem Strays.not_satisfied (strays : criteria.Strays user resolved record) :
    ¬criteria.Satisfied user resolved record :=
  fun satisfied => strays.outside satisfied.sizes

private theorem satisfied_or_strays_iff :
    criteria.Satisfied user resolved record ∨ criteria.Strays user resolved record ↔
      criteria.withoutSizes.Satisfied user resolved record ∧
        (record.OffersWithin "size" (sizeBound criteria.minSize) (sizeBound criteria.maxSize) ∨
          ∃ found ∈ record.candidatesAt "size", found.isUndefined = true) := by
  rw [satisfied_iff]
  constructor
  · intro holds
    rcases holds with ⟨others, within⟩ | strays
    · exact ⟨others, .inl within⟩
    · exact ⟨strays.others, .inr strays.undefined⟩
  · intro holds
    obtain ⟨others, sizes⟩ := holds
    by_cases within : record.OffersWithin "size" (sizeBound criteria.minSize) (sizeBound criteria.maxSize)
    · exact .inl ⟨others, within⟩
    · exact .inr ⟨others, within, sizes.resolve_left within⟩

/-- What is drafted selects the messages that satisfy the criteria, and those that stray. -/
theorem holds_drafted_filter_iff {draft : FilterDraft}
    (made : criteria.draft user (criteria.scopeWithin resolved) = .ok draft) :
    draft.filter.Holds record ↔
      criteria.Satisfied user resolved record ∨ criteria.Strays user resolved record :=
  (holds_draft_iff made).trans satisfied_or_strays_iff.symm

/-- For a user with a well-formed record, a store that answers and a numeral that can be read, the scope is
resolved and the filter compiled. The filter answers for every message. It selects those that satisfy the
criteria and those that stray, and so just the former wherever none strays. -/
theorem compiled_filter_selects {memory : Memory} (reachable : memory.Reachable) {store : PlannedStore}
    (quiet : Quiet memory store) (faultless : store.faults = []) {user : Value} {identity : Identity}
    (known : memory.Knows user identity) (criteria : Criteria)
    (readable : ∀ s, criteria.uids = some s → Numeral.Readable s) (threshold : Int) :
    ∃ resolved compiled,
      (MailboxScope.resolve (.text identity.id) threshold store).outcome = .ok resolved ∧
      (criteria.compile user threshold store).outcome = .ok compiled ∧
      ∀ record, compiled.filter.Settled record ∧
        (compiled.filter.Holds record ↔
          criteria.Satisfied identity.id resolved record ∨ criteria.Strays identity.id resolved record) ∧
        ((compiled.filter.Holds record ↔ criteria.Satisfied identity.id resolved record) ↔
          ¬criteria.Strays identity.id resolved record) := by
  have identified := reachable.identified
  have resolves := MailboxScope.leaves_resolve_of_faultless quiet faultless identified (.text identity.id) threshold
  obtain ⟨draft, made⟩ := draft_of_readable readable identity.id
    (criteria.scopeWithin (memory.mailboxScope (.text identity.id) threshold))
  have compiles := leaves_compile_of_faultless quiet faultless identified known made
  refine ⟨_, _, resolves.2.2, compiles, fun record => ?_⟩
  have selects : draft.filter.Holds record ↔ criteria.Satisfied identity.id _ record ∨
      criteria.Strays identity.id _ record := holds_drafted_filter_iff made
  refine ⟨settled_drafted_filter made, selects, ?_⟩
  constructor
  · intro exactly strays
    exact strays.not_satisfied (exactly.mp (selects.mpr (.inr strays)))
  · intro none
    exact selects.trans (or_iff_left none)

section SoleUser

def soleRecord : Fields := [("id", .text "u"), ("username", .text "u")]

/-- A store that keeps a record of one user, and nothing else. -/
def soleUser : PlannedStore := { memory := (({} : Memory).insert Collections.users [.object soleRecord]).2 }

def soleIdentity : Identity := ⟨"u", "u", none, none, []⟩

def sizedCriteria : Criteria := { mailbox := some "m", uids := some "2:1", minSize := some 5 }

/-- A message of the user whose size is an undefined number. -/
def sizelessMessage : Value :=
  .object [("user", .text "u"), ("mailbox", .text "m"), ("uid", .int 1), ("size", .float (.undefined 0))]

theorem compiled_filter_selects_for_sole_user :
    soleUser.faults = [] ∧ soleUser.memory.Knows (.text "u") soleIdentity ∧ Numeral.Readable "2:1" ∧
    ∃ resolved compiled,
      (MailboxScope.resolve (.text "u") 200 soleUser).outcome = .ok resolved ∧
      (sizedCriteria.compile (.text "u") 200 soleUser).outcome = .ok compiled ∧
      ∀ record, compiled.filter.Settled record ∧
        (compiled.filter.Holds record ↔
          sizedCriteria.Satisfied "u" resolved record ∨ sizedCriteria.Strays "u" resolved record) ∧
        ((compiled.filter.Holds record ↔ sizedCriteria.Satisfied "u" resolved record) ↔
          ¬sizedCriteria.Strays "u" resolved record) := by
  have known : soleUser.memory.Knows (.text "u") soleIdentity := ⟨soleRecord, rfl, rfl⟩
  have readable : Numeral.Readable "2:1" := Numeral.readable_of_length_le (by decide)
  refine ⟨rfl, known, readable, ?_⟩
  exact compiled_filter_selects (.insert .empty _ _) ⟨rfl, rfl⟩ rfl known sizedCriteria
    (by rintro _ ⟨⟩; exact readable) 200

/-- The filter for messages of some least size selects one whose size is an undefined number. -/
theorem undefined_size_is_selected :
    ∃ compiled, (sizedCriteria.compile (.text "u") 200 soleUser).outcome = .ok compiled ∧
      compiled.filter.Holds sizelessMessage ∧
      ∀ resolved, ¬sizedCriteria.Satisfied "u" resolved sizelessMessage := by
  refine ⟨_, rfl, rfl, ?_⟩
  intro resolved satisfied
  obtain ⟨found, offered, least, -⟩ := satisfied.sizes (.inl rfl)
  have undefined : found = .float (.undefined 0) := List.mem_singleton.mp offered
  subst undefined
  rcases least (.int 5) rfl with equal | greater
  · cases equal
  · cases greater

end SoleUser

end MailSearch.Criteria

import MailSearch.Proofs.FilterMeaning

/-! The searches that an expression for message numbers breaks. A numeral may be too long, and then an expression of a
known form fails where one of no form would pass. -/

namespace MailSearch

namespace Criteria

open PlannedStore UidExpression

variable {criteria : Criteria}

private theorem compiles_iff {memory : Memory} {store : PlannedStore} (quiet : Quiet memory store)
    (faultless : store.faults = []) (identified : memory.Identified) {user : Value} {identity : Identity}
    (known : memory.Knows user identity) (threshold : Int) :
    (∃ compiled, (criteria.compile user threshold store).outcome = .ok compiled) ↔
      ¬((criteria.NamesMailbox ∨ criteria.searchable = true) ∧ Overlong criteria.uids) := by
  have drafted : (criteria.compile user threshold store).outcome = _ :=
    leaves_compile_as_drafted quiet faultless identified known
  rw [drafted, ← isSome_scopeWithin_iff, ← exists_draft_iff]
  cases criteria.draft identity.id (criteria.scopeWithin (memory.mailboxScope (.text identity.id) threshold)) <;>
    simp [Except.map]

/-- Reading an expression gives a condition or none unless the expression is of one of the forms and has a numeral
that is too long. A filter for a user whom the store knows is compiled unless the search has a scope and such an
expression. -/
theorem only_long_numerals_are_not_read {memory : Memory} (reachable : memory.Reachable) {store : PlannedStore}
    (quiet : Quiet memory store) (faultless : store.faults = []) {user : Value} {identity : Identity}
    (known : memory.Knows user identity) (criteria : Criteria) (threshold : Int) :
    (∀ expression field, ((∃ condition, UidRange.predicate? expression field = .ok condition) ↔ ¬Overlong expression) ∧
      (Overlong expression → ∃ digits, Numeral.digitLimit < digits ∧
        UidRange.predicate? expression field = .error (.badValue (.longNumeral digits)))) ∧
    ((∃ compiled, (criteria.compile user threshold store).outcome = .ok compiled) ↔
      ¬((criteria.NamesMailbox ∨ criteria.searchable = true) ∧ Overlong criteria.uids)) := by
  refine ⟨fun expression field => ⟨exists_predicate?_iff field, fun overlong => ?_⟩, ?_⟩
  · exact predicate?_of_overlong overlong field
  · exact compiles_iff quiet faultless reachable.identified known threshold

/-- A numeral with one digit more than the limit. -/
def longOnes : DigitRun where
  chars := List.replicate (Numeral.digitLimit + 1) '1'
  nonempty := by simp
  digits := by
    intro c member
    rw [List.eq_of_mem_replicate member]
    decide

def longCriteria : Criteria := { mailbox := some "m", uids := some (UidExpression.single longOnes).text }

private theorem overlong_longCriteria : Overlong longCriteria.uids :=
  ⟨.single longOnes, rfl, longOnes, List.mem_singleton_self _, by simp [DigitRun.IsLong, longOnes]⟩

theorem only_long_numerals_are_not_read_for_sole_user :
    soleUser.memory.Reachable ∧ Quiet soleUser.memory soleUser ∧ soleUser.faults = [] ∧
    soleUser.memory.Knows (.text "u") soleIdentity ∧
    (∀ expression field, ((∃ condition, UidRange.predicate? expression field = .ok condition) ↔ ¬Overlong expression) ∧
      (Overlong expression → ∃ digits, Numeral.digitLimit < digits ∧
        UidRange.predicate? expression field = .error (.badValue (.longNumeral digits)))) ∧
    ((∃ compiled, (longCriteria.compile (.text "u") 200 soleUser).outcome = .ok compiled) ↔
      ¬((longCriteria.NamesMailbox ∨ longCriteria.searchable = true) ∧ Overlong longCriteria.uids)) := by
  have reachable : soleUser.memory.Reachable := .insert .empty _ _
  have known : soleUser.memory.Knows (.text "u") soleIdentity := ⟨soleRecord, rfl, rfl⟩
  refine ⟨reachable, ⟨rfl, rfl⟩, rfl, known, ?_⟩
  exact only_long_numerals_are_not_read reachable ⟨rfl, rfl⟩ rfl known longCriteria 200

/-- A text of ones that is one digit too long is neither read as a number nor passed over, and a search for it in a
mailbox of a user whom the store knows is not compiled. -/
theorem long_numeral_is_not_read :
    soleUser.memory.Knows (.text "u") soleIdentity ∧
    (∀ condition, UidRange.predicate? longCriteria.uids "uid" ≠ .ok condition) ∧
    ∀ compiled, (longCriteria.compile (.text "u") 200 soleUser).outcome ≠ .ok compiled := by
  have known : soleUser.memory.Knows (.text "u") soleIdentity := ⟨soleRecord, rfl, rfl⟩
  have identified : soleUser.memory.Identified := Memory.Reachable.identified (.insert .empty _ _)
  have named : longCriteria.NamesMailbox := ⟨"m", rfl, by decide⟩
  refine ⟨known, ?_, ?_⟩
  · intro condition read
    exact (exists_predicate?_iff "uid").mp ⟨condition, read⟩ overlong_longCriteria
  · intro compiled made
    exact (compiles_iff ⟨rfl, rfl⟩ rfl identified known 200).mp ⟨compiled, made⟩ ⟨.inl named, overlong_longCriteria⟩

end Criteria

end MailSearch

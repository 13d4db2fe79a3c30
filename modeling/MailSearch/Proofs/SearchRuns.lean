import MailSearch.Proofs.CriteriaMeaning
import MailSearch.Proofs.ScopeResolution
import MailSearch.Proofs.UidReading
import MailSearch.Search

/-! How the filter of a search comes about: the owner is found, the scope is settled and the criteria are
drafted. Where no call fails and every numeral can be read, each of these steps returns a result. -/

namespace MailSearch

/-- The store keeps a record of the user, and it is well-formed. -/
def Memory.Knows (memory : Memory) (user : Value) (identity : Identity) : Prop :=
  ∃ document, memory.get Collections.users user = .ok (some document) ∧
    Identity.read (.object document) = .valid identity

theorem Memory.Knows.unique {memory : Memory} {user : Value} {identity other : Identity}
    (known : memory.Knows user identity) (known' : memory.Knows user other) : identity = other := by
  obtain ⟨document, found, read⟩ := known
  obtain ⟨document', found', read'⟩ := known'
  cases found.symm.trans found'
  exact Checked.valid.inj (read.symm.trans read')

namespace Criteria

open PlannedStore

variable {memory : Memory} {store : PlannedStore} {criteria : Criteria} {user : Value} {threshold : Int}
  {identity : Identity}

theorem leaves_get (quiet : Quiet memory store) {collection : String} {id : Value}
    {post : Except Failure (Option Fields) → PlannedStore → Prop} :
    (DocumentStore.get collection id : Action PlannedStore _).Leaves store post ↔
      post (store.answer .get (memory.get collection id)) (store.counting .get) :=
  Quiet.leaves_called quiet

/-- An owner who is found is one whose record the store keeps. -/
theorem leaves_owner (quiet : Quiet memory store) :
    (owner user : Action PlannedStore _).Leaves store fun outcome final =>
      Quiet memory final ∧ ∀ identity, outcome = .ok identity → memory.Knows user identity := by
  have next := quiet.counting .get
  simp only [owner, DocumentStore.user, Action.leaves_bind, Action.leaves_orElseOnStorage, leaves_get quiet]
  rcases answer_eq_or (memory.get Collections.users user) with given | ⟨message, failed⟩
  · rw [given]
    rcases found : memory.get Collections.users user with failure | _ | document
    · simp only [Action.resumes_error, Action.recovers_error]
      split <;> exact ⟨next, by rintro _ ⟨⟩⟩
    · exact ⟨next, by rintro _ ⟨⟩⟩
    · simp only [Action.resumes_ok]
      cases read : Identity.read (.object document) with
      | valid identity => exact ⟨next, by rintro _ ⟨⟩; exact ⟨document, found, read⟩⟩
      | invalid issues =>
        simp only [Action.leaves_fail, Action.recovers_error]
        split <;> exact ⟨next, by rintro _ ⟨⟩⟩
  · rw [failed]
    exact ⟨next, by rintro _ ⟨⟩⟩

private theorem leaves_owner_of_known (quiet : Quiet memory store) (faultless : store.faults = [])
    (known : memory.Knows user identity) :
    (owner user : Action PlannedStore _).Leaves store fun outcome final =>
      Quiet memory final ∧ final.faults = [] ∧ outcome = .ok identity := by
  obtain ⟨document, found, read⟩ := known
  simp only [owner, DocumentStore.user, Action.leaves_bind, Action.leaves_orElseOnStorage, leaves_get quiet,
    answer_of_faultless faultless, found, Action.resumes_ok, read]
  exact ⟨quiet.counting .get, faultless, rfl⟩

/-- The scope that a search settles on is the one within which its criteria are drafted. -/
theorem leaves_scope (quiet : Quiet memory store) {owner : String} :
    (criteria.scope owner threshold : Action PlannedStore _).Leaves store fun outcome final =>
      Quiet memory final ∧ ∀ scope, outcome = .ok scope → ∃ resolved,
        (criteria.searchable = true → ¬criteria.NamesMailbox → memory.Scopes (.text owner) resolved) ∧
        scope = criteria.scopeWithin resolved := by
  unfold scope
  cases named : nonEmpty criteria.mailbox with
  | some mailbox =>
    have names : criteria.NamesMailbox := ⟨mailbox, nonEmpty_eq_some_iff.mp named⟩
    refine ⟨quiet, ?_⟩
    intro _ same
    cases same
    exact ⟨.including [], fun _ unnamed => absurd names unnamed, by simp [scopeWithin, named]⟩
  | none =>
    simp only
    split
    next searchable =>
      rw [Action.leaves_map]
      refine (MailboxScope.leaves_resolve quiet).mono ?_
      intro outcome final reached
      obtain ⟨quiet, resolves⟩ := reached
      refine ⟨quiet, fun scope made => ?_⟩
      match outcome, made with
      | .ok resolved, rfl => exact ⟨resolved, fun _ _ => resolves _ rfl, by simp [scopeWithin, named, searchable]⟩
    next general =>
      refine ⟨quiet, ?_⟩
      intro _ same
      cases same
      exact ⟨.including [], fun searchable => absurd searchable general, by simp [scopeWithin, named, general]⟩

private theorem leaves_scope_of_faultless (quiet : Quiet memory store) (faultless : store.faults = [])
    (identified : memory.Identified) {owner : String} :
    (criteria.scope owner threshold : Action PlannedStore _).Leaves store fun outcome final =>
      Quiet memory final ∧ final.faults = [] ∧
        outcome = .ok (criteria.scopeWithin (memory.mailboxScope (.text owner) threshold)) := by
  unfold scope scopeWithin
  cases nonEmpty criteria.mailbox with
  | some mailbox => exact ⟨quiet, faultless, rfl⟩
  | none =>
    simp only
    split
    · rw [Action.leaves_map]
      refine (MailboxScope.leaves_resolve_of_faultless quiet faultless identified _ _).mono ?_
      intro _ final reached
      obtain ⟨quiet, faultless, rfl⟩ := reached
      exact ⟨quiet, faultless, rfl⟩
    · exact ⟨quiet, faultless, rfl⟩

/-- A filter that is compiled is one drafted for an owner whose record the store keeps, in a scope that lists
what it is to list. -/
theorem leaves_compile (quiet : Quiet memory store) :
    (criteria.compile user threshold : Action PlannedStore _).Leaves store fun outcome _ =>
      ∀ compiled, outcome = .ok compiled → ∃ identity resolved draft, memory.Knows user identity ∧
        (criteria.searchable = true → ¬criteria.NamesMailbox → memory.Scopes (.text identity.id) resolved) ∧
        criteria.draft identity.id (criteria.scopeWithin resolved) = .ok draft ∧
        compiled.filter = draft.filter := by
  simp only [compile, Action.leaves_bind]
  refine (leaves_owner quiet).mono ?_
  intro outcome middle reached
  obtain ⟨quiet, known⟩ := reached
  cases outcome with
  | error failure => rintro _ ⟨⟩
  | ok identity =>
    simp only [Action.resumes_ok, Action.leaves_bind]
    refine (leaves_scope quiet).mono ?_
    intro outcome final reached
    obtain ⟨quiet, settled⟩ := reached
    cases outcome with
    | error failure => rintro _ ⟨⟩
    | ok scope =>
      obtain ⟨resolved, scopes, rfl⟩ := settled _ rfl
      simp only [Action.resumes_ok, Action.leaves_bind, Action.leaves_ofExcept]
      cases made : criteria.draft identity.id (criteria.scopeWithin resolved) with
      | error failure => rintro _ ⟨⟩
      | ok draft =>
        intro _ same
        cases same
        exact ⟨identity, resolved, draft, known _ rfl, scopes, made, rfl⟩

/-- Where no call fails, compiling for a user whom the store knows comes to what drafting comes to. -/
theorem leaves_compile_as_drafted (quiet : Quiet memory store) (faultless : store.faults = [])
    (identified : memory.Identified) (known : memory.Knows user identity) :
    (criteria.compile user threshold : Action PlannedStore _).Leaves store fun outcome _ =>
      outcome = (criteria.draft identity.id (criteria.scopeWithin
        (memory.mailboxScope (.text identity.id) threshold))).map fun draft => ⟨draft.clauses, criteria.query⟩ := by
  simp only [compile, Action.leaves_bind]
  refine (leaves_owner_of_known quiet faultless known).mono ?_
  intro _ middle reached
  obtain ⟨quiet, faultless, rfl⟩ := reached
  simp only [Action.resumes_ok, Action.leaves_bind]
  refine (leaves_scope_of_faultless quiet faultless identified).mono ?_
  intro _ final reached
  obtain ⟨quiet, faultless, rfl⟩ := reached
  simp only [Action.resumes_ok, Action.leaves_bind, Action.leaves_ofExcept]
  cases criteria.draft identity.id (criteria.scopeWithin (memory.mailboxScope (.text identity.id) threshold)) <;> rfl

theorem leaves_compile_of_faultless (quiet : Quiet memory store) (faultless : store.faults = [])
    (identified : memory.Identified) (known : memory.Knows user identity) {draft : FilterDraft}
    (made : criteria.draft identity.id
      (criteria.scopeWithin (memory.mailboxScope (.text identity.id) threshold)) = .ok draft) :
    (criteria.compile user threshold : Action PlannedStore _).Leaves store fun outcome _ =>
      outcome = .ok ⟨draft.clauses, criteria.query⟩ := by
  refine (leaves_compile_as_drafted quiet faultless identified known).mono ?_
  intro _ _ drafted
  rw [drafted, made]
  rfl

end Criteria

end MailSearch

import MailSearch.Proofs.PlannedCalls
import MailSearch.Proofs.StoredDocuments
import MailSearch.Scope

/-! What the resolution of a mailbox scope ends in. Whatever calls fail on the way, a scope that is
returned lists either the mailboxes covered or those left out; and where no call fails, one is returned. -/

namespace MailSearch

namespace MailboxScope

/-- What a mailbox has to be for a search across all mailboxes of a user to cover it or leave it out:
one of the user's. -/
def Owned (user : Value) (mailbox : Fields) : Prop := (Value.object mailbox).Offers "user" user

/-- The mailbox is of a special use that a search across all mailboxes leaves out. -/
def Excluded (mailbox : Fields) : Prop :=
  ∃ use ∈ Mailbox.excludedUses, .text use ∈ (Value.object mailbox).candidatesAt "special_use"

variable {user : Value} {mailbox : Fields}

private theorem isListed_excludedUses_iff {found : Value} :
    Predicate.isListed excludedUses found = true ↔ ∃ use ∈ Mailbox.excludedUses, found = .text use := by
  simp [Predicate.isListed, excludedUses, Value.agrees_text_iff]

theorem covered_chooses_iff : (covered user).chooses mailbox = true ↔ Owned user mailbox ∧ ¬Excluded mailbox := by
  rw [Predicate.chooses_iff, covered, Predicate.holds_all_iff]
  simp only [List.forall_mem_cons, Predicate.holds_eq_iff, Predicate.holds_notMemberOf_iff,
    ← Bool.not_eq_true, isListed_excludedUses_iff]
  refine ⟨fun ⟨owned, no, _⟩ => ⟨owned, ?_⟩, fun ⟨owned, others⟩ => ⟨owned, ?_, by simp⟩⟩
  · intro holds
    obtain ⟨use, excluded, offered⟩ := holds
    exact no _ offered ⟨use, excluded, rfl⟩
  · intro _ offered reached
    obtain ⟨use, excluded, rfl⟩ := reached
    exact others ⟨use, excluded, offered⟩

theorem leftOut_chooses_iff : (leftOut user).chooses mailbox = true ↔ Owned user mailbox ∧ Excluded mailbox := by
  rw [Predicate.chooses_iff, leftOut, Predicate.holds_all_iff]
  simp only [List.forall_mem_cons, Predicate.holds_eq_iff, Predicate.holds_memberOf_iff,
    isListed_excludedUses_iff]
  refine ⟨fun ⟨owned, ⟨found, offered, use, excluded, same⟩, _⟩ => ⟨owned, use, excluded, same ▸ offered⟩,
    fun ⟨owned, use, excluded, offered⟩ => ⟨owned, ⟨_, offered, use, excluded, rfl⟩, by simp⟩⟩

theorem settled_covered (user : Value) {record : Value} : (covered user).Settled record :=
  Predicate.settled_all (by simp [Predicate.Settled])

theorem settled_leftOut (user : Value) {record : Value} : (leftOut user).Settled record :=
  Predicate.settled_all (by simp [Predicate.Settled])

end MailboxScope

namespace Memory

variable {memory : Memory} {filter : Predicate}

/-- The ids of the mailboxes that satisfy a filter, as the store lists them. -/
def mailboxIds (memory : Memory) (filter : Predicate) : Except Failure (List Value) :=
  memory.find Collections.mailboxes { filter, names := some ["id"] } >>= (·.mapM DocumentStore.idOf)

theorem mailboxIds_eq_ok_iff (settled : ∀ record, filter.Settled record) {ids : List Value} :
    memory.mailboxIds filter = .ok ids ↔
      ((memory.collection Collections.mailboxes).documents.filter filter.chooses).map (·.get? "id") =
        ids.map some := by
  unfold mailboxIds Memory.find
  rw [Documents.selected_of_settled fun _ _ => settled _]
  simp only [bind, Except.bind, pure, Except.pure, Documents.limited, DocumentStore.mapM_idOf_eq_ok_iff,
    List.map_map]
  exact iff_of_eq (congrArg (· = _) (List.map_congr_left fun document _ => Fields.get?_id_projected))

theorem mailboxIds_of_identified (identified : memory.Identified) (settled : ∀ record, filter.Settled record) :
    ∃ ids, memory.mailboxIds filter = .ok ids := by
  simp only [mailboxIds_eq_ok_iff settled]
  have named : ∀ mailbox ∈ (memory.collection Collections.mailboxes).documents.filter filter.chooses,
      mailbox.get? "id" = some ((mailbox.get? "id").getD .null) := by
    intro mailbox member
    obtain ⟨id, found⟩ := Option.isSome_iff_exists.mp (identified _ _ (List.mem_filter.mp member).1)
    simp [found]
  exact ⟨_, (List.map_congr_left named).trans (List.map_map (g := some)).symm⟩

/-- The scope of a search across all mailboxes of a user, as the documents alone have it: those covered
where they are few enough to be listed, and else all but those left out. -/
def mailboxScope (memory : Memory) (user : Value) (threshold : Int) : MailboxScope :=
  let listed (filter : Predicate) : List Value := (memory.mailboxIds filter).toOption.getD []
  if MailboxScope.isListable threshold (memory.count Collections.mailboxes (MailboxScope.covered user)).toOption
  then .including (listed (MailboxScope.covered user))
  else .excluding (listed (MailboxScope.leftOut user))

/-- A scope that lists, for a search across all mailboxes of a user, those covered or those left out. -/
inductive Scopes (memory : Memory) (user : Value) : MailboxScope → Prop where
  | including {ids : List Value} (listed : memory.mailboxIds (MailboxScope.covered user) = .ok ids) :
      Scopes memory user (.including ids)
  | excluding {ids : List Value} (listed : memory.mailboxIds (MailboxScope.leftOut user) = .ok ids) :
      Scopes memory user (.excluding ids)

end Memory

namespace MailboxScope

open PlannedStore

variable {memory : Memory} {store : PlannedStore} {user : Value} {threshold : Int}

theorem leaves_list (quiet : Quiet memory store) {filter : Predicate}
    {post : Except Failure (List Value) → PlannedStore → Prop} :
    (list filter : Action PlannedStore _).Leaves store post ↔
      post (store.answer .find (memory.mailboxIds filter)) (store.counting .find) := by
  unfold list Memory.mailboxIds
  rw [Action.leaves_bind]
  refine (quiet.leaves_called).trans ?_
  unfold answer
  cases store.nextFault? .find with
  | some fault => exact .rfl
  | none => cases memory.find Collections.mailboxes { filter, names := some ["id"] } <;> exact .rfl

theorem leaves_count (quiet : Quiet memory store) {collection : String} {filter : Option Predicate}
    {post : Except Failure Int → PlannedStore → Prop} :
    (DocumentStore.count collection filter : Action PlannedStore _).Leaves store post ↔
      post (store.answer .count (memory.count collection filter)) (store.counting .count) :=
  Quiet.leaves_called quiet

private theorem count_covered (memory : Memory) (user : Value) :
    ∃ count, memory.count Collections.mailboxes (covered user) = .ok count := by
  unfold Memory.count
  rw [Documents.selected_of_settled fun _ _ => settled_covered user]
  exact ⟨_, rfl⟩

private theorem leaves_countCovered (quiet : Quiet memory store) :
    (countCovered user : Action PlannedStore _).Leaves store fun outcome final =>
      Quiet memory final ∧ ∃ count, outcome = .ok count := by
  have next := quiet.counting .count
  simp only [countCovered, Action.leaves_orElseOnStorage, Action.leaves_map, leaves_count quiet]
  rcases answer_eq_or (memory.count Collections.mailboxes (covered user)) with given | ⟨message, failed⟩
  · obtain ⟨count, found⟩ := count_covered memory user
    rw [given, found]
    exact ⟨next, _, rfl⟩
  · rw [failed]
    exact ⟨next, _, rfl⟩

private theorem leaves_listCovered (quiet : Quiet memory store) {count : Option Int} :
    (listCovered user threshold count : Action PlannedStore _).Leaves store fun outcome final =>
      Quiet memory final ∧ ∀ ids, outcome = .ok (some ids) → memory.mailboxIds (covered user) = .ok ids := by
  have next := quiet.counting .find
  unfold listCovered
  split
  · simp only [Action.leaves_orElseOnStorage, Action.leaves_map, leaves_list quiet]
    rcases answer_eq_or (memory.mailboxIds (covered user)) with given | ⟨message, failed⟩
    · rw [given]
      cases memory.mailboxIds (covered user) with
      | ok ids => exact ⟨next, by rintro _ ⟨⟩; rfl⟩
      | error failure =>
        simp only [Except.map, Action.recovers_error]
        split <;> exact ⟨next, by rintro _ ⟨⟩⟩
    · rw [failed]
      exact ⟨next, by rintro _ ⟨⟩⟩
  · exact ⟨quiet, by rintro _ ⟨⟩⟩

/-- A resolution reads the store, and whatever fails on the way, a scope that it returns lists what it is
to list. -/
theorem leaves_resolve (quiet : Quiet memory store) :
    (resolve user threshold : Action PlannedStore _).Leaves store fun outcome final =>
      Quiet memory final ∧ ∀ scope, outcome = .ok scope → memory.Scopes user scope := by
  simp only [resolve, Action.leaves_bind]
  refine (leaves_countCovered quiet).mono ?_
  intro _ middle reached
  obtain ⟨quiet, count, rfl⟩ := reached
  simp only [Action.resumes_ok, Action.leaves_bind]
  refine (leaves_listCovered quiet).mono ?_
  intro outcome later reached
  obtain ⟨quiet, listed⟩ := reached
  rcases outcome with failure | _ | ids
  · exact ⟨quiet, by rintro _ ⟨⟩⟩
  · have next := quiet.counting .find
    simp only [Action.resumes_ok, Action.leaves_bind, Action.leaves_orElseOnStorage, leaves_list quiet]
    cases answered : later.answer .find (memory.mailboxIds (leftOut user)) with
    | ok ids =>
      have listed : memory.mailboxIds (leftOut user) = .ok ids := by
        rcases answer_eq_or (memory.mailboxIds (leftOut user)) with given | ⟨message, failed⟩
        · exact given.symm.trans answered
        · cases failed.symm.trans answered
      exact ⟨next, by rintro _ ⟨⟩; exact .excluding listed⟩
    | error failure =>
      simp only [Action.recovers_error]
      split <;> exact ⟨next, by rintro _ ⟨⟩⟩
  · exact ⟨quiet, by rintro _ ⟨⟩; exact .including (listed ids rfl)⟩

/-- Where no call is planned to fail and every mailbox has an id, the scope that is returned depends on
the documents alone. -/
theorem leaves_resolve_of_faultless (quiet : Quiet memory store) (faultless : store.faults = [])
    (identified : memory.Identified) (user : Value) (threshold : Int) :
    (resolve user threshold : Action PlannedStore _).Leaves store fun outcome final =>
      Quiet memory final ∧ final.faults = [] ∧ outcome = .ok (memory.mailboxScope user threshold) := by
  obtain ⟨count, counted⟩ := count_covered memory user
  obtain ⟨few, listed⟩ := Memory.mailboxIds_of_identified identified fun _ => settled_covered user
  obtain ⟨others, omitted⟩ := Memory.mailboxIds_of_identified identified fun _ => settled_leftOut user
  have clear : (store.counting .count).faults = [] := faultless
  have next := quiet.counting .count
  simp only [resolve, countCovered, Action.leaves_bind, Action.leaves_orElseOnStorage, Action.leaves_map,
    leaves_count quiet, answer_of_faultless faultless, counted, Except.map, Action.recovers_ok,
    Action.resumes_ok, listCovered, Memory.mailboxScope, Except.toOption]
  by_cases listable : isListable threshold (some count)
  · simp only [listable, ↓reduceIte, Action.leaves_orElseOnStorage, Action.leaves_map, leaves_list next,
      answer_of_faultless clear, listed, Except.map, Action.recovers_ok, Action.resumes_ok]
    exact ⟨next.counting .find, faultless, rfl⟩
  · simp only [listable, Bool.false_eq_true, ↓reduceIte, Action.leaves_pure, Action.resumes_ok,
      Action.leaves_bind, Action.leaves_orElseOnStorage, leaves_list next,
      answer_of_faultless clear, omitted, Action.recovers_ok]
    exact ⟨next.counting .find, faultless, rfl⟩

end MailboxScope

end MailSearch

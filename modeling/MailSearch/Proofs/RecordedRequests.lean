import MailSearch.Backfill
import MailSearch.Proofs.ActionLogic
import MailSearch.Search

/-! A store that records what is asked of it: each call with all that it is given, and what the store was then.
Searches and runs over messages cannot tell it from the store that it keeps its records for: they end the same way, log
the same and leave the same store. -/

namespace MailSearch

/-- A call to a store, with what it is given. -/
inductive StoreRequest where
  | get (collection : String) (id : Value)
  | count (collection : String) (filter : Option Predicate)
  | find (collection : String) (selection : Selection)
  | bulkUpdate (collection : String) (updates : List (Value × Fields))
  | maxId (collection : String)

/-- A call, and the store that it was made to, as it was then. -/
structure Asked (σ : Type) where
  request : StoreRequest
  store : σ

/-- A store, and what was asked of it. -/
structure Recording (σ : Type) where
  store : σ
  asked : List (Asked σ)

namespace Recording

variable {σ α β : Type}

def of (store : σ) : Recording σ := ⟨store, []⟩

def requests (recording : Recording σ) : List StoreRequest := recording.asked.map Asked.request

/-- The recording once a call was made that left this store. -/
def asking (recording : Recording σ) (request : StoreRequest) (store : σ) : Recording σ :=
  ⟨store, recording.asked ++ [⟨request, recording.store⟩]⟩

@[simp] theorem store_asking (recording : Recording σ) (request : StoreRequest) (store : σ) :
    (recording.asking request store).store = store := rfl

@[simp] theorem requests_asking (recording : Recording σ) (request : StoreRequest) (store : σ) :
    (recording.asking request store).requests = recording.requests ++ [request] :=
  List.map_append

def record (request : StoreRequest) (action : Action σ α) : Action (Recording σ) α := fun recording =>
  let done := action recording.store
  ⟨done.outcome, done.events, recording.asking request done.state⟩

instance [DocumentStore σ] : DocumentStore (Recording σ) where
  get collection id := record (.get collection id) (DocumentStore.get collection id)
  count collection filter := record (.count collection filter) (DocumentStore.count collection filter)
  find collection selection := record (.find collection selection) (DocumentStore.find collection selection)
  bulkUpdate collection updates :=
    record (.bulkUpdate collection updates) (DocumentStore.bulkUpdate collection updates)
  maxId collection := record (.maxId collection) (DocumentStore.maxId collection)
  pageBound recording := DocumentStore.pageBound recording.store

theorem leaves_record {request : StoreRequest} {action : Action σ α} {recording : Recording σ}
    {post : Except Failure α → Recording σ → Prop} :
    (record request action).Leaves recording post ↔
      action.Leaves recording.store fun outcome final => post outcome (recording.asking request final) := .rfl

theorem record_bind_ofExcept (request : StoreRequest) (action : Action σ α) (read : α → Except Failure β) :
    record request (action >>= fun result => Action.ofExcept (read result)) =
      record request action >>= fun result => Action.ofExcept (read result) := by
  funext recording
  simp only [record, bind, Action.andThen]
  cases (action recording.store).outcome <;> rfl

/-- What is left of a run once its records are forgotten. -/
def forget (report : Report (Recording σ) α) : Report σ α := ⟨report.outcome, report.events, report.state.store⟩

/-- The recorded run is a run of the action, with records. -/
def Mirrors (recorded : Action (Recording σ) α) (action : Action σ α) : Prop :=
  ∀ recording, forget (recorded recording) = action recording.store

private theorem mirrors_record (request : StoreRequest) (action : Action σ α) :
    Mirrors (record request action) action :=
  fun _ => rfl

private theorem mirrors_ofExcept (outcome : Except Failure α) :
    Mirrors (Action.ofExcept outcome : Action (Recording σ) α) (Action.ofExcept outcome) := fun _ => rfl

private theorem mirrors_pure (result : α) : Mirrors (pure result : Action (Recording σ) α) (pure result) :=
  mirrors_ofExcept (.ok result)

private theorem mirrors_fail (failure : Failure) :
    Mirrors (Action.fail failure : Action (Recording σ) α) (Action.fail failure) :=
  mirrors_ofExcept (.error failure)

private theorem mirrors_emit (severity : Severity) (name : String) (values : Fields) :
    Mirrors (Action.emit severity name values : Action (Recording σ) Unit) (Action.emit severity name values) :=
  fun _ => rfl

private theorem Mirrors.bind {first : Action (Recording σ) α} {first' : Action σ α}
    {second : α → Action (Recording σ) β} {second' : α → Action σ β} (mirrors : Mirrors first first')
    (rest : ∀ result, Mirrors (second result) (second' result)) : Mirrors (first >>= second) (first' >>= second') := by
  intro recording
  have same := mirrors recording
  rcases ran : first recording with ⟨outcome, events, middle⟩
  rw [ran] at same
  cases outcome with
  | error failure =>
    rw [Action.bind_run_error ran, Action.bind_run_error same.symm]
    rfl
  | ok result =>
    rw [Action.bind_run_ok ran, Action.bind_run_ok same.symm, ← rest result middle]
    rfl

private theorem Mirrors.map {action : Action (Recording σ) α} {action' : Action σ α} (mirrors : Mirrors action action')
    (f : α → β) : Mirrors (f <$> action) (f <$> action') :=
  mirrors.bind fun result => mirrors_pure (f result)

private theorem Mirrors.attempt {action : Action (Recording σ) α} {action' : Action σ α}
    (mirrors : Mirrors action action') : Mirrors (Action.attempt action) (Action.attempt action') := by
  intro recording
  unfold Action.attempt
  rw [← mirrors recording]
  rfl

private theorem Mirrors.orElseOnStorage {action fallback : Action (Recording σ) α} {action' fallback' : Action σ α}
    (mirrors : Mirrors action action') (otherwise : Mirrors fallback fallback') :
    Mirrors (Action.orElseOnStorage action fallback) (Action.orElseOnStorage action' fallback') := by
  apply mirrors.attempt.bind
  intro outcome
  cases outcome with
  | ok result => exact mirrors_pure result
  | error failure =>
    simp only
    split
    · exact otherwise
    · exact mirrors_fail failure

section Searches

variable [DocumentStore σ]

private theorem mirrors_list (filter : Predicate) :
    Mirrors (MailboxScope.list filter : Action (Recording σ) _) (MailboxScope.list filter) := by
  apply (mirrors_record _ _).bind
  intro documents
  exact mirrors_ofExcept _

private theorem mirrors_countCovered (user : Value) :
    Mirrors (MailboxScope.countCovered user : Action (Recording σ) _) (MailboxScope.countCovered user) := by
  apply ((mirrors_record _ _).map some).orElseOnStorage
  exact (mirrors_emit _ _ _).bind fun _ => mirrors_pure none

private theorem mirrors_listCovered (user : Value) (threshold : Int) (count : Option Int) :
    Mirrors (MailboxScope.listCovered user threshold count : Action (Recording σ) _)
      (MailboxScope.listCovered user threshold count) := by
  unfold MailboxScope.listCovered
  split
  · apply ((mirrors_list _).map some).orElseOnStorage
    exact (mirrors_emit _ _ _).bind fun _ => mirrors_pure none
  · exact mirrors_pure none

private theorem mirrors_resolve (user : Value) (threshold : Int) :
    Mirrors (MailboxScope.resolve user threshold : Action (Recording σ) _) (MailboxScope.resolve user threshold) := by
  have mirrors_settle (count : Option Int) (scope : MailboxScope) :
      Mirrors (MailboxScope.settle user count scope : Action (Recording σ) _)
        (MailboxScope.settle user count scope) :=
    (mirrors_emit _ _ _).bind fun _ => mirrors_pure scope
  apply (mirrors_countCovered user).bind
  intro count
  apply (mirrors_listCovered user threshold count).bind
  intro listed
  cases listed with
  | some mailboxes => exact mirrors_settle count _
  | none =>
    apply ((mirrors_list _).orElseOnStorage (mirrors_fail .lookup)).bind
    intro mailboxes
    exact mirrors_settle count _

private theorem mirrors_owner (user : Value) :
    Mirrors (Criteria.owner user : Action (Recording σ) _) (Criteria.owner user) := by
  have mirrors_user : Mirrors (DocumentStore.user user : Action (Recording σ) _) (DocumentStore.user user) := by
    apply (mirrors_record _ _).bind
    intro found
    cases found with
    | none => exact mirrors_pure none
    | some document =>
      simp only
      split
      · exact mirrors_pure _
      · exact mirrors_fail _
  apply (mirrors_user.orElseOnStorage (mirrors_fail .lookup)).bind
  intro identity
  cases identity with
  | some identity => exact mirrors_pure identity
  | none => exact mirrors_fail .unknownUser

private theorem mirrors_scope (criteria : Criteria) (user : String) (threshold : Int) :
    Mirrors (criteria.scope user threshold : Action (Recording σ) _) (criteria.scope user threshold) := by
  unfold Criteria.scope
  split
  · exact mirrors_pure _
  · split
    · exact (mirrors_resolve _ threshold).map some
    · exact mirrors_pure none

theorem mirrors_compile (criteria : Criteria) (user : Value) (threshold : Int) :
    Mirrors (criteria.compile user threshold : Action (Recording σ) _) (criteria.compile user threshold) := by
  apply (mirrors_owner user).bind
  intro identity
  apply (mirrors_scope criteria identity.id threshold).bind
  intro scope
  apply (mirrors_ofExcept _).bind
  intro draft
  exact (mirrors_emit _ _ _).bind fun _ => mirrors_pure _

end Searches

section Runs

open Backfill

variable [DocumentStore σ] (settings : BackfillSettings) (collection : String)

private theorem mirrors_nextBatch (cursor : Cursor) :
    Mirrors (nextBatch settings collection cursor : Action (Recording σ) _) (nextBatch settings collection cursor) := by
  apply (mirrors_record _ _).bind
  intro batch
  cases batch.getLast? with
  | none => exact mirrors_pure none
  | some final =>
    apply (mirrors_ofExcept _).bind
    intro updates
    apply (mirrors_record _ _).bind
    intro modified
    exact (mirrors_ofExcept _).bind fun last => mirrors_pure _

private theorem mirrors_walk (bound : Nat) (cursor : Cursor) :
    Mirrors (walk settings collection bound cursor : Action (Recording σ) _)
      (walk settings collection bound cursor) := by
  have mirrors_report (cursor : Cursor) :
      Mirrors (report settings cursor : Action (Recording σ) _) (report settings cursor) := by
    unfold report
    split
    · exact mirrors_emit _ _ _
    · exact mirrors_pure ()
  induction bound generalizing cursor with
  | zero => exact mirrors_fail .unending
  | succ bound ih =>
    apply (mirrors_nextBatch settings collection cursor).bind
    intro next
    cases next with
    | none => exact mirrors_pure cursor
    | some next => exact (mirrors_report next).bind fun _ => ih next

private theorem mirrors_process (cursor : Cursor) :
    Mirrors (process settings collection cursor : Action (Recording σ) _) (process settings collection cursor) := by
  have mirrors_bound : Mirrors (fun state => ⟨.ok (DocumentStore.pageBound state), [], state⟩ : Action (Recording σ) Nat)
      fun state => ⟨.ok (DocumentStore.pageBound state), [], state⟩ := fun _ => rfl
  apply mirrors_bound.bind
  intro bound
  apply (mirrors_walk settings collection bound cursor).bind
  intro reached
  exact (mirrors_emit _ _ _).bind fun _ => mirrors_pure reached

private theorem mirrors_scan :
    Mirrors (scan settings collection : Action (Recording σ) _) (scan settings collection) := by
  have mirrors_skip (reason : String) (details : Fields) (cursor : Cursor) :
      Mirrors (skip reason details cursor : Action (Recording σ) _) (skip reason details cursor) :=
    (mirrors_emit _ _ _).bind fun _ => mirrors_pure _
  unfold scan
  split
  · apply (mirrors_emit _ _ _).bind
    intro _
    apply (mirrors_record _ _).bind
    intro greatest
    cases greatest with
    | none => exact mirrors_skip _ _ _
    | some greatest =>
      apply (mirrors_record (.count collection (some (eligible { greatest := some greatest }))) _).bind
      intro total
      simp only
      split
      · exact mirrors_skip _ _ _
      · exact (mirrors_emit _ _ _).bind fun _ => mirrors_pure _
  · exact (mirrors_emit _ _ _).bind fun _ => mirrors_pure _

theorem mirrors_run : Mirrors (run settings collection : Action (Recording σ) _) (run settings collection) := by
  apply (mirrors_scan settings collection).attempt.bind
  intro scanned
  match scanned with
  | .error failure => exact mirrors_pure _
  | .ok (cursor, false) => exact mirrors_pure _
  | .ok (cursor, true) =>
    apply (mirrors_process settings collection cursor).attempt.bind
    intro processed
    cases processed with
    | error failure => exact mirrors_pure _
    | ok reached => exact mirrors_pure _

end Runs

end Recording

end MailSearch

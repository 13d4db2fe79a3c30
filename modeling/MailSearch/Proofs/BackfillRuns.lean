import MailSearch.Proofs.BackfillWalks

/-! What a run comes to. Its scan fixes the greatest id of the documents that are there when it looks, and the
walk that follows handles documents up to it. The calls made tell which of the two a failure belongs to. -/

namespace MailSearch

open Backfill

variable {kind : IdKind} {name : String} {collection : Collection} {first second : Value}

theorem Collection.Greatest.unique (filed : collection.Filed kind) (one : collection.Greatest first)
    (other : collection.Greatest second) : first = second := by
  refine IdKind.eq_of_not_precedes (one.named filed) (other.named filed) ?_ ?_
  · obtain ⟨entry, member, rfl⟩ := other.kept
    exact one.most entry member
  · obtain ⟨entry, member, rfl⟩ := one.kept
    exact other.most entry member

theorem Memory.count_eligible {memory : Memory} (cursor : Cursor) :
    memory.count name (some (eligible cursor)) =
      .ok ((memory.collection name).countP fun entry => (eligible cursor).chooses entry.document) := by
  rw [Memory.count_of_settled fun _ _ => settled_eligible cursor _, Collection.documents, List.countP_map]
  rfl

namespace Backfill

open PlannedStore

variable {store middle final : PlannedStore} {settings : BackfillSettings} {cursor : Cursor} {entry : Entry}

/-- How a scan may end. -/
inductive ScanEnd (name : String) (store : PlannedStore) : Except Failure (Cursor × Bool) → PlannedStore → Prop where
  | failed {failure : Failure} {final : PlannedStore} {made : List StoreCall} {arrived : Collection}
      {missed : List PlannedDelivery} (failed : final.Failed failure) (calls : made <+: [.maxId, .find, .count])
      (moves : Advances name store final made arrived missed []) : ScanEnd name store (.error failure) final
  | empty {final : PlannedStore} {arrived : Collection} (absent : store.memory.collection name = [])
      (moves : Advances name store final [.maxId, .find] arrived [] []) : ScanEnd name store (.ok ({}, false)) final
  | settled {final : PlannedStore} {arrived : Collection} {cursor : Cursor} {id : Value}
      (greatest : (store.memory.collection name).Greatest id) (fixed : cursor.greatest = some id)
      (fresh : cursor.processed = 0)
      (nothing : ∀ entry ∈ store.memory.collection name, entry.unindexed = false)
      (moves : Advances name store final [.maxId, .find, .count] arrived [] []) :
      ScanEnd name store (.ok (cursor, false)) final
  | planned {final : PlannedStore} {arrived : Collection} {id : Value} {total : Int}
      (greatest : (store.memory.collection name).Greatest id)
      (waits : ∃ entry ∈ final.memory.collection name, Eligible { greatest := some id, total } entry)
      (moves : Advances name store final [.maxId, .find, .count] arrived [] []) :
      ScanEnd name store (.ok ({ greatest := some id, total }, true)) final

theorem bounded_start {id : Value} {total : Int} (named : kind.Has id) :
    ({ greatest := some id, total } : Cursor).Bounded kind := by
  refine ⟨fun most given => ?_, fun last given => ?_⟩
  · cases given
    exact named
  · cases given

/-- At its start a run reaches all documents up to the greatest. -/
theorem reaches_start {id : Value} {total : Int} (greatest : collection.Greatest id) (member : entry ∈ collection) :
    ({ greatest := some id, total } : Cursor).Reaches entry.key := by
  refine ⟨fun last given => ?_, fun most given => ?_⟩
  · cases given
  · cases given
    exact greatest.most entry member

private theorem leaves_scan (sound : Sound kind name store) (enabled : settings.enabled = true) :
    (scan settings name : Action PlannedStore (Cursor × Bool)).Leaves store (ScanEnd name store) := by
  have filed := sound.filed.append_left
  simp only [scan, enabled, ↓reduceIte, Action.leaves_bind, Action.leaves_emit, Action.resumes_ok]
  refine (leaves_maxId sound).mono ?_
  intro _ middle reached
  rcases reached with ⟨made, arrived, missed, moves, calls, ⟨failure, rfl, failed⟩ | ⟨answer, rfl, rfl, rfl, tells⟩⟩
  · exact .failed failed (calls.trans ⟨[.count], rfl⟩) moves
  · cases answer with
    | none => exact .empty tells moves
    | some id =>
      have greatest : (store.memory.collection name).Greatest id := tells
      simp only [Action.resumes_ok, Action.leaves_bind]
      refine (leaves_reading_call (moves.sound sound) (Memory.count_eligible { greatest := some id })).mono ?_
      intro outcome final reached
      cases reached with
      | failed failed planned moves' => exact .failed failed List.prefix_rfl (moves.trans sound moves')
      | answered moves' =>
        have bounded : ({ greatest := some id } : Cursor).Bounded kind := bounded_start (greatest.named filed)
        have present := (moves.sound sound).filed.append_left
        rw [Action.resumes_ok]
        split
        next zero =>
          refine .settled greatest rfl rfl (fun entry member => ?_) (moves.trans sound moves')
          have here : entry ∈ middle.memory.collection name := moves.held ▸ List.mem_append_left _ member
          have passed := List.countP_eq_zero.mp (Int.ofNat_eq_zero.mp zero) entry here
          rw [eligible_chooses_iff bounded (present.each entry here)] at passed
          rw [← Bool.not_eq_true]
          exact fun unindexed => passed ⟨unindexed, reaches_start greatest member⟩
        next more =>
          obtain ⟨entry, here, chosen⟩ := List.countP_pos_iff.mp (Nat.pos_of_ne_zero fun zero =>
            more (Int.ofNat_eq_zero.mpr zero))
          obtain ⟨unindexed, reaches⟩ := (eligible_chooses_iff bounded (present.each entry here)).mp chosen
          have still : entry ∈ final.memory.collection name := by
            rw [moves'.held]
            exact List.mem_append_left _ here
          exact .planned greatest ⟨entry, still, unindexed, reaches.after, reaches.within⟩ (moves.trans sound moves')

/-- The cursor and the store at each listing of a run. -/
def listings (settings : BackfillSettings) (name : String) (store : PlannedStore) : List (Cursor × PlannedStore) :=
  match scan settings name store with
  | ⟨.ok (cursor, true), _, middle⟩ => visits settings name (DocumentStore.pageBound middle) cursor middle
  | _ => []

theorem leaves_process {σ : Type} [DocumentStore σ] {state : σ} {post : Except Failure Cursor → σ → Prop} :
    (process settings name cursor : Action σ Cursor).Leaves state post ↔
      (walk settings name (DocumentStore.pageBound state) cursor).Leaves state post := by
  simp only [process, bind, Action.andThen, Action.Leaves]
  cases (walk settings name (DocumentStore.pageBound state) cursor state).outcome <;> rfl

/-- What a run did, whether or not it failed. -/
structure Ran (settings : BackfillSettings) (name : String) (store final : PlannedStore) (made : List StoreCall)
    (arrived : Collection) (missed : List PlannedDelivery) (done : List Value) : Prop where
  moves : Advances name store final made arrived missed done
  within : ∀ greatest, (store.memory.collection name).Greatest greatest → ∀ id ∈ done, ¬greatest.Precedes id
  ordered : ∀ entry ∈ store.memory.collection name, entry.unindexed = true →
    ∀ id ∈ done, entry.key.Precedes id → entry.key ∈ done
  fixed : ∀ listing ∈ listings settings name store,
    ∃ greatest, listing.1.greatest = some greatest ∧ (store.memory.collection name).Greatest greatest

/-- How a run may end: as its last call is planned to fail, in the part of the run that makes this call, or
with just what its listings met handled. -/
inductive RunEnd (settings : BackfillSettings) (name : String) (store : PlannedStore) (made : List StoreCall)
    (arrived : Collection) (missed : List PlannedDelivery) (done : List Value) : Run → PlannedStore → Prop where
  | scanning {failure : Failure} {final : PlannedStore} (failed : final.Failed failure)
      (calls : made <+: [.maxId, .find, .count]) :
      RunEnd settings name store made arrived missed done ⟨.scanning, .error failure⟩ final
  | processing {failure : Failure} {final : PlannedStore} (failed : final.Failed failure)
      (calls : [.maxId, .find, .count, .find] <+: made) :
      RunEnd settings name store made arrived missed done ⟨.processing, .error failure⟩ final
  | finished {result : Result} {final : PlannedStore} (nothing : missed = [])
      (greatest : TellsGreatest (store.memory.collection name) result.cursor.greatest)
      (processed : result.cursor.processed = done.length) (skipped : result.skipped = true ↔ done = [])
      (complete : ∀ entry ∈ store.memory.collection name, entry.unindexed = true → entry.key ∈ done)
      (exact : ∀ entry ∈ store.memory.collection name ++ arrived, entry.unindexed = true →
        (entry.key ∈ done ↔ Met name (listings settings name store) entry)) :
      RunEnd settings name store made arrived missed done ⟨.done, .ok result⟩ final

section Started

variable {made : List StoreCall} {arrived others : Collection} {missed : List PlannedDelivery} {done : List Value}
  {id : Value} {total : Int}

/-- Where nothing is listed, nothing is handled. -/
theorem Ran.of_unlisted (unlisted : listings settings name store = [])
    (moves : Advances name store final made arrived missed []) :
    Ran settings name store final made arrived missed [] := by
  constructor
  · exact moves
  · simp
  · simp
  · simp [unlisted]

private theorem Eligible.of_start (greatest : (store.memory.collection name).Greatest id)
    (moves : Advances name store middle made arrived [] []) (member : entry ∈ store.memory.collection name)
    (unindexed : entry.unindexed = true) :
    entry ∈ middle.memory.collection name ∧ Eligible { greatest := some id, total } entry := by
  refine ⟨?_, unindexed, reaches_start greatest member⟩
  rw [moves.held]
  exact List.mem_append_left _ member

private theorem Ran.of_walked (sound : Sound kind name store) (greatest : (store.memory.collection name).Greatest id)
    (moves : Advances name store middle [.maxId, .find, .count] arrived [] [])
    (walked : Walked name (listings settings name store) { greatest := some id, total } middle final made others
      missed done) :
    Ran settings name store final ([.maxId, .find, .count] ++ made) (arrived ++ others) missed done := by
  constructor
  · exact moves.trans sound walked.moves
  · intro most greatest' other member
    rw [greatest'.unique sound.filed.append_left greatest]
    exact (walked.reached other member).within id rfl
  · intro entry member unindexed
    obtain ⟨here, eligible⟩ := Eligible.of_start greatest moves member unindexed
    exact walked.ordered entry here eligible
  · intro listing member
    exact ⟨id, walked.fixed listing member, greatest⟩

/-- A walk from the start that came to its end ends the run. -/
theorem RunEnd.of_finished {reached : Cursor} (greatest : (store.memory.collection name).Greatest id)
    (moves : Advances name store middle [.maxId, .find, .count] arrived [] [])
    (waits : ∃ entry ∈ middle.memory.collection name, Eligible { greatest := some id, total } entry)
    (starts : ({ greatest := some id, total }, middle) ∈ listings settings name store)
    (nothing : missed = []) (same : reached.greatest = some id) (processed : reached.processed = done.length)
    (exact : ∀ entry ∈ middle.memory.collection name ++ others, entry.unindexed = true →
      (entry.key ∈ done ↔ Met name (listings settings name store) entry)) :
    RunEnd settings name store made (arrived ++ others) missed done ⟨.done, .ok ⟨reached, false⟩⟩ final := by
  have handled (entry : Entry) (here : entry ∈ middle.memory.collection name)
      (eligible : Eligible { greatest := some id, total } entry) : entry.key ∈ done :=
    (exact entry (List.mem_append_left _ here) eligible.1).mpr ⟨_, starts, here, eligible.2⟩
  have something : done ≠ [] := by
    obtain ⟨entry, here, eligible⟩ := waits
    exact List.ne_nil_of_mem (handled entry here eligible)
  rw [moves.held, List.append_assoc] at exact
  refine .finished nothing ?_ processed (by simp [something]) (fun entry member unindexed => ?_) exact
  · rw [same]
    exact greatest
  · obtain ⟨here, eligible⟩ := Eligible.of_start greatest moves member unindexed
    exact handled entry here eligible

end Started

theorem leaves_run (sound : Sound kind name store) (enabled : settings.enabled = true)
    (positive : 1 ≤ settings.batchSize) :
    (run settings name : Action PlannedStore Run).Leaves store fun outcome final => ∃ result made arrived missed done,
      outcome = .ok result ∧ Ran settings name store final made arrived missed done ∧
        RunEnd settings name store made arrived missed done result final := by
  have scanned := leaves_scan sound enabled
  rcases ran : (scan settings name : Action PlannedStore _) store with ⟨outcome, events, middle⟩
  rw [Action.leaves_of_run ran] at scanned
  rw [run, Action.leaves_bind, Action.leaves_attempt, Action.leaves_of_run ran, Action.resumes_ok]
  cases scanned with
  | failed failed calls moves =>
    have unlisted : listings settings name store = [] := by simp only [listings, ran]
    exact ⟨_, _, _, _, _, rfl, .of_unlisted unlisted moves, .scanning failed calls⟩
  | empty absent moves =>
    have unlisted : listings settings name store = [] := by simp only [listings, ran]
    refine ⟨_, _, _, _, _, rfl, .of_unlisted unlisted moves, .finished rfl absent rfl (by simp) ?_ fun entry _ _ => ?_⟩
    · simp [absent]
    · simp [unlisted, Met]
  | settled greatest fixed fresh nothing moves =>
    have unlisted : listings settings name store = [] := by simp only [listings, ran]
    refine ⟨_, _, _, _, _, rfl, .of_unlisted unlisted moves, .finished rfl ?_ fresh (by simp)
      (fun entry member unindexed => ?_) fun entry _ _ => ?_⟩
    · rw [fixed]
      exact greatest
    · simp [nothing entry member] at unindexed
    · simp [unlisted, Met]
  | @planned _ arrived id total greatest waits moves =>
    let start : Cursor := { greatest := some id, total }
    have bounded : start.Bounded kind := bounded_start (greatest.named sound.filed.append_left)
    have listed : listings settings name store = visits settings name (DocumentStore.pageBound middle) start middle := by
      simp only [listings, ran, start]
    have starts : (start, middle) ∈ listings settings name store := by
      rw [listed]
      exact List.mem_cons_self
    have walks := leaves_walk (moves.sound sound) bounded positive (remaining_lt_pageBound name start middle)
    rw [← listed] at walks
    simp only [Action.leaves_bind, Action.leaves_attempt, leaves_process]
    refine walks.mono ?_
    intro outcome final reached
    obtain ⟨made, others, missed, done, walked, ended⟩ := reached
    have ran := Ran.of_walked sound greatest moves walked
    cases ended with
    | failed failed =>
      refine ⟨_, _, _, _, _, rfl, ran, .processing failed ?_⟩
      exact (List.prefix_append_right_inj [.maxId, .find, .count]).mpr walked.begins
    | finished nothing same processed exact =>
      rw [Nat.zero_add] at processed
      exact ⟨_, _, _, _, _, rfl, ran, .of_finished greatest moves waits starts nothing same processed exact⟩

end Backfill

end MailSearch

import MailSearch.Proofs.ListedPages
import MailSearch.Proofs.PlannedDeliveries

/-! What each call that a run makes comes to. It fails as planned and changes nothing, or it answers for the
documents that are there and lets the deliveries after it in. -/

namespace MailSearch.PlannedStore

variable {kind : IdKind} {name : String} {store middle final : PlannedStore} {call : StoreCall}
  {made : List StoreCall} {arrived : Collection} {missed : List PlannedDelivery} {done : List Value}

/-- The last call made was planned to fail, and this is its failure. -/
def Failed (store : PlannedStore) (failure : Failure) : Prop :=
  ∃ earlier call fault, store.calls = earlier ++ [call] ∧
    store.faultAt? call (earlier.count call + 1) = some fault ∧ failure = .storage fault.message none

theorem Failed.faults_ne_nil {failure : Failure} (failed : store.Failed failure) : store.faults ≠ [] := by
  obtain ⟨earlier, call, fault, calls, planned, rfl⟩ := failed
  intro faultless
  simp [faultAt?, faultless] at planned

private theorem failed_counting {fault : PlannedFault} (planned : store.nextFault? call = some fault) :
    (store.counting call).Failed (.storage fault.message none) :=
  ⟨store.calls, call, fault, rfl, planned, rfl⟩

private theorem unanswered_counting {fault : PlannedFault} {delivery : PlannedDelivery}
    (planned : store.nextFault? call = some fault) (due : delivery ∈ store.due call) :
    (store.counting call).Unanswered delivery := by
  obtain ⟨-, chosen⟩ := List.mem_filter.mp due
  obtain ⟨rfl, number⟩ := of_decide_eq_true chosen
  refine ⟨store.calls, [], rfl, number, .inl ?_⟩
  rw [number]
  exact Option.isSome_of_eq_some planned

private theorem advances_counting (name : String) {fault : PlannedFault}
    (planned : store.nextFault? call = some fault) :
    Advances name store (store.counting call) [call] [] (store.due call) [] :=
  (Advances.refl name (store.counting call)).failing fun _ due => unanswered_counting planned due

/-- Counting a call takes what is due after it from what is still to come. -/
theorem Sound.counting (sound : Sound kind name store) (call : StoreCall) : Sound kind name (store.counting call) := by
  have perm : (store.memory.collection name ++ (store.counting call).incoming ++ store.arrivals call).Perm
      (store.memory.collection name ++ store.incoming) := by
    rw [List.append_assoc]
    exact (List.perm_append_comm.trans (store.incoming_perm call)).append_left _
  constructor
  · exact (sound.filed.of_perm perm).append_left
  · exact fun entry member => sound.writable entry (perm.mem_iff.mp (List.mem_append_left _ member))
  · exact sound.addressed

/-- What arrives with a call, and what is due after it, was still to come before. -/
theorem Advances.expected_perm (ran : Advances name (store.counting call) middle made arrived missed done) :
    (arrived ++ store.arrivals call ++ middle.incoming ++ entriesOf missed : Collection).Perm store.incoming := by
  refine List.Perm.trans ?_ ((ran.expected.append_left _).trans (store.incoming_perm call))
  simp only [List.append_assoc]
  rw [← List.append_assoc, ← List.append_assoc (store.arrivals call)]
  exact List.perm_append_comm.append_right _

/-- After a call that did its work the deliveries that are due come last. -/
theorem Advances.leaves_deliver (sound : Sound kind name store)
    (ran : Advances name (store.counting call) middle made arrived missed done) :
    (deliver (store.due call)).Leaves middle fun outcome final => outcome = .ok () ∧
      Advances name store final (call :: made) (arrived ++ store.arrivals call) missed done := by
  have coming := ran.expected_perm
  have before := sound.counting call
  have filed : (store.memory.collection name ++ arrived ++ store.arrivals call : Collection).Filed kind := by
    have all := sound.filed.of_perm (coming.append_left _)
    simp only [← List.append_assoc] at all
    exact all.append_left.append_left
  have absent : (store.arrivals call).indexing done = store.arrivals call := by
    refine Collection.indexing_of_absent fun entry member => ?_
    rw [← Bool.not_eq_true, IdKind.isListed_iff (ran.named before) (filed.append_right.each entry member).named]
    intro listed
    obtain ⟨old, inside, same, -⟩ := ran.fresh _ listed
    exact filed.apart inside member same
  have joined : middle.memory.collection name ++ entriesOf (store.due call) =
      (store.memory.collection name ++ (arrived ++ store.arrivals call) : Collection).indexing done := by
    rw [ran.contents, ← List.append_assoc, Collection.indexing_append _ (store.arrivals call), absent]
    rfl
  have last : (middle.memory.collection name ++ entriesOf (store.due call) : Collection).Filed kind := by
    rw [joined, ← List.append_assoc]
    exact filed.indexing done
  have due : ∀ delivery ∈ store.due call, delivery.collection = name := fun delivery member =>
    sound.addressed delivery (List.mem_filter.mp member).1
  refine (PlannedStore.leaves_deliver due last).mono ?_
  intro outcome final reached
  obtain ⟨delivered, same, contents, others⟩ := reached
  have calls : final.calls = middle.calls := by rw [same]
  have faults : final.faults = middle.faults := by rw [same]
  have deliveries : final.deliveries = middle.deliveries := by rw [same]
  have incoming : final.incoming = middle.incoming := by simp only [PlannedStore.incoming, pending, calls, deliveries]
  refine ⟨delivered, ?_⟩
  constructor
  · exact contents.trans joined
  · exact fun other different => (others other different).trans (ran.others other different)
  · simp [calls, ran.calls, counting]
  · exact faults.trans ran.faults
  · exact deliveries.trans ran.deliveries
  · rw [incoming]
    exact coming
  · intro delivery member
    exact (ran.unanswered delivery member).mono (by rw [calls, List.append_nil]) faults
  · intro id member
    obtain ⟨entry, inside, facts⟩ := ran.fresh id member
    refine ⟨entry, ?_, facts⟩
    rw [← List.append_assoc]
    exact List.mem_append_left _ inside
  · exact ran.once

/-- How a call may end: it fails as planned, or it answers and the deliveries after it come in. -/
inductive CallEnd {α : Type} (name : String) (store : PlannedStore) (call : StoreCall) (result : α)
    (done : List Value) : Except Failure α → PlannedStore → Prop where
  | failed {failure : Failure} {final : PlannedStore} (failed : final.Failed failure)
      (planned : (store.nextFault? call).isSome) (moves : Advances name store final [call] [] (store.due call) []) :
      CallEnd name store call result done (.error failure) final
  | answered {final : PlannedStore} (moves : Advances name store final [call] (store.arrivals call) [] done) :
      CallEnd name store call result done (.ok result) final

variable {α : Type} {result : α}

private theorem leaves_call (sound : Sound kind name store) {run : Action PlannedStore α}
    (ran : run.Leaves (store.counting call) fun outcome middle => outcome = .ok result ∧
      Advances name (store.counting call) middle [] [] [] done) :
    (called call run).Leaves store (CallEnd name store call result done) := by
  cases planned : store.nextFault? call with
  | some fault =>
    rw [leaves_called_of_fault planned]
    exact .failed (failed_counting planned) (Option.isSome_of_eq_some planned) (advances_counting name planned)
  | none =>
    rw [leaves_called_of_clear planned]
    refine ran.mono ?_
    intro _ middle reached
    obtain ⟨rfl, moves⟩ := reached
    rw [Action.resumes_ok, Action.leaves_bind]
    refine (moves.leaves_deliver sound).mono ?_
    intro _ final reached
    obtain ⟨rfl, moves⟩ := reached
    exact .answered moves

theorem leaves_reading_call (sound : Sound kind name store) {read : Memory → Except Failure α}
    (answers : read store.memory = .ok result) :
    (called call (reading read)).Leaves store (CallEnd name store call result []) :=
  leaves_call sound ⟨answers, Advances.refl name (store.counting call)⟩

theorem leaves_bulkUpdate (sound : Sound kind name store) {page : List Entry}
    (inside : ∀ entry ∈ page, entry ∈ store.memory.collection name ∧ entry.unindexed = true)
    (distinct : (page.map Entry.key).Nodup) :
    (DocumentStore.bulkUpdate name
      (page.map fun entry => (entry.key, [(Backfill.searchField, entry.index)])) : Action PlannedStore Nat).Leaves
      store (CallEnd name store .bulkUpdate page.length (page.map Entry.key)) := by
  let memory := store.memory.withCollection name ((store.memory.collection name).indexing (page.map Entry.key))
  have written : store.memory.bulkUpdate name
      (page.map fun entry => (entry.key, [(Backfill.searchField, entry.index)])) = (.ok page.length, memory) := by
    simp only [Memory.bulkUpdate, Memory.updateAll_unindexed sound.filed.append_left inside distinct, memory]
  refine leaves_call sound ?_
  simp only [Action.Leaves, counting, written, true_and]
  constructor
  · simp [memory, Memory.collection_withCollection]
  · intro other different
    simp [memory, Memory.collection_withCollection, different]
  · simp
  · rfl
  · rfl
  · simp [incoming, pending, entriesOf]
  · simp
  · intro id member
    obtain ⟨entry, listed, rfl⟩ := List.mem_map.mp member
    obtain ⟨there, unindexed⟩ := inside entry listed
    exact ⟨entry, by simpa [counting] using there, rfl, unindexed⟩
  · exact distinct

/-- The answer tells the greatest id of the collection, if there is any. -/
def TellsGreatest (collection : Collection) : Option Value → Prop
  | none => collection = []
  | some id => collection.Greatest id

private theorem leaves_greatestId (sound : Sound kind name store) :
    (DocumentStore.greatestId PlannedStore.find name).Leaves store fun outcome final =>
      (∃ failure, outcome = .error failure ∧ final.Failed failure ∧ (store.nextFault? .find).isSome ∧
        Advances name store final [.find] [] (store.due .find) []) ∨
      ∃ answer, outcome = .ok answer ∧ TellsGreatest (store.memory.collection name) answer ∧
        Advances name store final [.find] (store.arrivals .find) [] [] := by
  have filed := sound.filed.append_left
  rw [DocumentStore.greatestId, Action.leaves_bind]
  rcases Memory.find_greatest filed rfl with ⟨empty, found⟩ | ⟨document, id, found, named, greatest⟩
  · refine (leaves_reading_call sound found).mono ?_
    intro outcome final reached
    cases reached with
    | failed failed planned moves => exact .inl ⟨_, rfl, failed, planned, moves⟩
    | answered moves => exact .inr ⟨none, rfl, empty, moves⟩
  · refine (leaves_reading_call sound found).mono ?_
    intro outcome final reached
    cases reached with
    | failed failed planned moves => exact .inl ⟨_, rfl, failed, planned, moves⟩
    | answered moves =>
      simp only [Action.resumes_ok, DocumentStore.idOf_eq_ok_iff.mpr named, Action.leaves_bind,
        Action.leaves_ofExcept, Action.leaves_pure, (greatest.named filed).given?_eq]
      exact .inr ⟨some id, rfl, greatest, moves⟩

/-- The call that fixes the greatest id makes a listing of its own, which may fail too. -/
theorem leaves_maxId (sound : Sound kind name store) :
    (DocumentStore.maxId name : Action PlannedStore (Option Value)).Leaves store fun outcome final =>
      ∃ made arrived missed, Advances name store final made arrived missed [] ∧ made <+: [.maxId, .find] ∧
        ((∃ failure, outcome = .error failure ∧ final.Failed failure) ∨
          ∃ answer, outcome = .ok answer ∧ made = [.maxId, .find] ∧ missed = [] ∧
            TellsGreatest (store.memory.collection name) answer) := by
  change (called .maxId (DocumentStore.greatestId PlannedStore.find name)).Leaves store _
  cases planned : store.nextFault? .maxId with
  | some fault =>
    rw [leaves_called_of_fault planned]
    exact ⟨[.maxId], [], _, advances_counting name planned, ⟨[.find], rfl⟩, .inl ⟨_, rfl, failed_counting planned⟩⟩
  | none =>
    rw [leaves_called_of_clear planned]
    refine (leaves_greatestId (sound.counting .maxId)).mono ?_
    intro _ middle reached
    rcases reached with ⟨failure, rfl, failed, listing, moves⟩ | ⟨answer, rfl, tells, moves⟩
    · have unanswered : ∀ delivery ∈ store.due .maxId, middle.Unanswered delivery := by
        intro delivery due
        obtain ⟨-, chosen⟩ := List.mem_filter.mp due
        obtain ⟨call, number⟩ := of_decide_eq_true chosen
        refine ⟨store.calls, [.find], ?_, by rw [call]; exact number, .inr ⟨call, rfl, ?_⟩⟩
        · rw [moves.calls, call]
          simp [counting]
        · simpa [nextFault?, faultAt?, moves.faults, counting] using listing
      exact ⟨_, _, _, moves.failing unanswered, List.prefix_rfl, .inl ⟨failure, rfl, failed⟩⟩
    · rw [Action.resumes_ok, Action.leaves_bind]
      refine (moves.leaves_deliver sound).mono ?_
      intro _ final reached
      obtain ⟨rfl, moves⟩ := reached
      exact ⟨_, _, _, moves, List.prefix_rfl, .inr ⟨answer, rfl, rfl, rfl, tells⟩⟩

end MailSearch.PlannedStore

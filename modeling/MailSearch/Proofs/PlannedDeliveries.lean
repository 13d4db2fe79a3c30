import MailSearch.Proofs.FiledUpdates
import MailSearch.Proofs.PlannedCalls
import Mathlib.Data.List.Flatten

/-! How a store under a plan moves on with the calls made to it. Documents are delivered after calls, each
under an id of its own; search fields are added to documents without them; nothing else changes. Such moves
compose, and they leave a store in which the same can happen again. -/

namespace MailSearch

namespace Collection

variable {kind : IdKind} {collection more : Collection} {done : List Value} {entry : Entry}

theorem Filed.of_perm (filed : collection.Filed kind) (perm : more.Perm collection) : more.Filed kind :=
  ⟨fun entry member => filed.each entry (perm.mem_iff.mp member),
    (perm.map Entry.key).nodup_iff.mpr filed.distinct⟩

theorem Filed.append_right (filed : (collection ++ more : Collection).Filed kind) : more.Filed kind :=
  (filed.of_perm List.perm_append_comm).append_left

theorem Filed.apart (filed : (collection ++ more : Collection).Filed kind) {other : Entry}
    (first : entry ∈ collection) (second : other ∈ more) : entry.key ≠ other.key := by
  have distinct := filed.distinct
  rw [List.map_append] at distinct
  exact (List.nodup_append.mp distinct).2.2 _ (List.mem_map_of_mem first) _ (List.mem_map_of_mem second)

private theorem Filed.indexing_left (filed : (collection ++ more : Collection).Filed kind) (done : List Value) :
    (collection.indexing done ++ more : Collection).Filed kind := by
  constructor
  · intro entry member
    rcases List.mem_append.mp member with first | second
    · exact (filed.append_left.indexing done).each entry first
    · exact filed.append_right.each entry second
  · have distinct := filed.distinct
    rw [List.map_append] at distinct ⊢
    rw [keys_indexing]
    exact distinct

/-- A document without search fields is one that none were added to. -/
theorem mem_of_mem_indexing (member : entry ∈ collection.indexing done) (unindexed : entry.unindexed = true) :
    entry ∈ collection ∧ Predicate.isListed done entry.key = false := by
  obtain ⟨old, before, rfl⟩ := List.mem_map.mp member
  by_cases listed : Predicate.isListed done old.key = true
  · simp [listed, Entry.unindexed_indexed] at unindexed
  · simpa [listed] using before

theorem mem_indexing_of_not_listed (member : entry ∈ collection)
    (passed : Predicate.isListed done entry.key = false) : entry ∈ collection.indexing done :=
  List.mem_map.mpr ⟨entry, member, by simp [passed]⟩

end Collection

theorem IdKind.isListed_iff {kind : IdKind} {ids : List Value} {id : Value} (all : ∀ other ∈ ids, kind.Has other)
    (named : kind.Has id) : Predicate.isListed ids id = true ↔ id ∈ ids := by
  simp only [Predicate.isListed, List.any_eq_true]
  constructor
  · intro holds
    obtain ⟨other, member, agrees⟩ := holds
    rwa [(IdKind.agrees_iff named (all other member)).mp agrees]
  · intro member
    exact ⟨id, member, (IdKind.agrees_iff named named).mpr rfl⟩

namespace PlannedStore

variable {kind : IdKind} {name : String} {store middle final : PlannedStore} {call : StoreCall}

/-- The entries that deliveries bring. -/
def entriesOf (deliveries : List PlannedDelivery) : Collection :=
  deliveries.flatMap fun delivery => delivery.documents.map Entry.ofDocument

/-- The deliveries whose call is still to come. -/
def pending (store : PlannedStore) : List PlannedDelivery :=
  store.deliveries.filter fun delivery => store.calls.count delivery.call < delivery.number

/-- What is delivered after the next call of a kind, and what is still to be delivered. -/
def arrivals (store : PlannedStore) (call : StoreCall) : Collection := entriesOf (store.due call)

def incoming (store : PlannedStore) : Collection := entriesOf store.pending

private theorem entriesOf_perm {deliveries others : List PlannedDelivery} (perm : deliveries.Perm others) :
    (entriesOf deliveries).Perm (entriesOf others) := perm.flatMap_right _

private theorem entriesOf_append (deliveries others : List PlannedDelivery) :
    entriesOf (deliveries ++ others) = entriesOf deliveries ++ entriesOf others := List.flatMap_append

theorem incoming_sublist (store : PlannedStore) : store.incoming.Sublist (entriesOf store.deliveries) :=
  List.filter_sublist.flatMap _

/-- A call makes the deliveries after it due; the others stay pending. -/
theorem pending_perm (store : PlannedStore) (call : StoreCall) :
    (store.due call ++ (store.counting call).pending).Perm store.pending := by
  let isDue (delivery : PlannedDelivery) : Bool :=
    delivery.call = call ∧ delivery.number = store.calls.count call + 1
  have due : store.pending.filter isDue = store.due call := by
    rw [pending, due, deliveriesAt, List.filter_filter]
    refine List.filter_congr fun delivery _ => ?_
    by_cases same : delivery.call = call
    · subst same
      by_cases now : delivery.number = store.calls.count delivery.call + 1 <;> simp [isDue, now]
    · simp [isDue, same]
  have rest : (store.pending.filter fun delivery => !isDue delivery) = (store.counting call).pending := by
    rw [pending, pending, List.filter_filter]
    refine List.filter_congr fun delivery _ => ?_
    by_cases same : delivery.call = call
    · subst same
      have count : (store.calls ++ [delivery.call]).count delivery.call = store.calls.count delivery.call + 1 := by simp
      rw [Bool.eq_iff_iff]
      simp [isDue, counting, count]
      omega
    · have count : (store.calls ++ [call]).count delivery.call = store.calls.count delivery.call := by
        simp [List.count_append, Ne.symm same]
      simp [isDue, same, counting, count]
  rw [← due, ← rest]
  exact List.filter_append_perm isDue store.pending

theorem incoming_perm (store : PlannedStore) (call : StoreCall) :
    (store.arrivals call ++ (store.counting call).incoming).Perm store.incoming := by
  refine List.Perm.trans ?_ (entriesOf_perm (store.pending_perm call))
  exact .of_eq (entriesOf_append _ _).symm

/-- The call that a delivery is to follow was made and did not answer: it was planned to fail, or it is the one
that fixes the greatest id, and the listing that it makes was. -/
def Unanswered (store : PlannedStore) (delivery : PlannedDelivery) : Prop :=
  ∃ earlier later, store.calls = earlier ++ delivery.call :: later ∧
    delivery.number = earlier.count delivery.call + 1 ∧
    ((store.faultAt? delivery.call delivery.number).isSome ∨
      delivery.call = .maxId ∧ later.head? = some .find ∧ (store.faultAt? .find (earlier.count .find + 1)).isSome)

theorem Unanswered.mono {delivery : PlannedDelivery} {made : List StoreCall} (unanswered : middle.Unanswered delivery)
    (calls : final.calls = middle.calls ++ made) (faults : final.faults = middle.faults) :
    final.Unanswered delivery := by
  obtain ⟨earlier, later, before, number, planned⟩ := unanswered
  refine ⟨earlier, later ++ made, by rw [calls, before, List.append_assoc]; rfl, number, ?_⟩
  simp only [faultAt?, faults, List.head?_append]
  rcases planned with own | ⟨scan, listing, planned⟩
  · exact .inl own
  · exact .inr ⟨scan, by rw [listing]; rfl, planned⟩

/-- Documents are filed under ids of one kind, with search fields that can be derived. What is delivered
comes to the same collection, under ids that no other document has. -/
structure Sound (kind : IdKind) (name : String) (store : PlannedStore) : Prop where
  filed : (store.memory.collection name ++ store.incoming : Collection).Filed kind
  writable : ∀ entry ∈ store.memory.collection name ++ store.incoming, entry.Writable
  addressed : ∀ delivery ∈ store.deliveries, delivery.collection = name

/-- With the calls made the documents that arrived came last, and those done got search fields. What was to be
delivered has arrived, is still to come, or was missed as the call before it did not answer. -/
structure Advances (name : String) (before after : PlannedStore) (made : List StoreCall) (arrived : Collection)
    (missed : List PlannedDelivery) (done : List Value) : Prop where
  contents : after.memory.collection name = (before.memory.collection name ++ arrived : Collection).indexing done
  others : ∀ other, other ≠ name → after.memory.collection other = before.memory.collection other
  calls : after.calls = before.calls ++ made
  faults : after.faults = before.faults
  deliveries : after.deliveries = before.deliveries
  expected : (arrived ++ after.incoming ++ entriesOf missed : Collection).Perm before.incoming
  unanswered : ∀ delivery ∈ missed, after.Unanswered delivery
  fresh : ∀ id ∈ done, ∃ entry ∈ before.memory.collection name ++ arrived, entry.key = id ∧ entry.unindexed = true
  once : done.Nodup

variable {made more : List StoreCall} {arrived others : Collection} {missed lost : List PlannedDelivery}
  {done later : List Value}

theorem Advances.refl (name : String) (store : PlannedStore) : Advances name store store [] [] [] [] where
  contents := by simp
  others := fun _ _ => rfl
  calls := by simp
  faults := rfl
  deliveries := rfl
  expected := by simp [entriesOf]
  unanswered := by simp
  fresh := by simp
  once := List.nodup_nil

/-- A call that fails is counted, and the deliveries after it are not made. -/
theorem Advances.failing (ran : Advances name (store.counting call) final made arrived missed done)
    (unanswered : ∀ delivery ∈ store.due call, final.Unanswered delivery) :
    Advances name store final (call :: made) arrived (missed ++ store.due call) done where
  contents := ran.contents
  others := ran.others
  calls := by simp [ran.calls, counting]
  faults := ran.faults
  deliveries := ran.deliveries
  expected := by
    rw [entriesOf_append, ← List.append_assoc]
    exact (List.perm_append_comm.trans (ran.expected.append_left _)).trans (store.incoming_perm call)
  unanswered := List.forall_mem_append.mpr ⟨ran.unanswered, unanswered⟩
  fresh := ran.fresh
  once := ran.once

theorem Advances.held (moves : Advances name store final made arrived missed []) :
    final.memory.collection name = store.memory.collection name ++ arrived := by
  rw [moves.contents, Collection.indexing_nil]

theorem Advances.arrived_eq_nil (moves : Advances name store final made arrived missed done)
    (still : store.incoming = []) : arrived = [] := by
  have perm := moves.expected
  rw [still] at perm
  exact (List.append_eq_nil_iff.mp (List.append_eq_nil_iff.mp perm.eq_nil).1).1

/-- All that is there, that has arrived and that is still to come is filed under ids of its own. -/
theorem Advances.filed (sound : Sound kind name store) (moves : Advances name store final made arrived missed done) :
    (store.memory.collection name ++ arrived ++ final.incoming : Collection).Filed kind := by
  have all := sound.filed.of_perm (moves.expected.append_left _)
  rw [← List.append_assoc, ← List.append_assoc] at all
  exact all.append_left

theorem Advances.sound (sound : Sound kind name store) (moves : Advances name store final made arrived missed done) :
    Sound kind name final where
  filed := by
    rw [moves.contents]
    exact (moves.filed sound).indexing_left done
  writable := by
    have old (entry : Entry) (member : entry ∈ store.memory.collection name ++ arrived ++ final.incoming) :
        entry.Writable := by
      refine sound.writable entry ?_
      rw [List.append_assoc] at member
      rcases List.mem_append.mp member with there | coming
      · exact List.mem_append_left _ there
      · exact List.mem_append_right _ (moves.expected.mem_iff.mp (List.mem_append_left _ coming))
    intro entry member
    rw [moves.contents] at member
    rcases List.mem_append.mp member with there | coming
    · have before (entry : Entry) (inside : entry ∈ store.memory.collection name ++ arrived) : entry.Writable :=
        old entry (List.mem_append_left _ inside)
      exact Collection.forall_indexing before (fun _ => Entry.Writable.indexed) done entry there
    · exact old entry (List.mem_append_right _ coming)
  addressed := by
    rw [moves.deliveries]
    exact sound.addressed

theorem Advances.named (sound : Sound kind name store) (moves : Advances name store final made arrived missed done) :
    ∀ id ∈ done, kind.Has id := by
  intro id member
  obtain ⟨entry, inside, rfl, -⟩ := moves.fresh id member
  exact ((moves.filed sound).append_left.each entry inside).named

/-- Nothing that is still to come is among the documents done. -/
theorem Advances.not_listed (sound : Sound kind name store) (moves : Advances name store final made arrived missed done)
    {entry : Entry} (coming : entry ∈ final.incoming) : Predicate.isListed done entry.key = false := by
  have filed := moves.filed sound
  rw [← Bool.not_eq_true, IdKind.isListed_iff (moves.named sound) (filed.append_right.each entry coming).named]
  intro listed
  obtain ⟨old, inside, same, -⟩ := moves.fresh _ listed
  exact filed.apart inside coming same

/-- What has no search fields afterwards was there or arrived without them, and is not among those done. -/
theorem Advances.unindexed (moves : Advances name store final made arrived missed done) {entry : Entry}
    (member : entry ∈ final.memory.collection name) (unindexed : entry.unindexed = true) :
    entry ∈ store.memory.collection name ++ arrived ∧ Predicate.isListed done entry.key = false := by
  rw [moves.contents] at member
  exact Collection.mem_of_mem_indexing member unindexed

theorem Advances.trans (sound : Sound kind name store) (first : Advances name store middle made arrived missed done)
    (second : Advances name middle final more others lost later) :
    Advances name store final (made ++ more) (arrived ++ others) (missed ++ lost) (done ++ later) := by
  have coming : ∀ entry ∈ others, entry ∈ middle.incoming := fun entry member =>
    second.expected.mem_iff.mp (List.mem_append_left _ (List.mem_append_left _ member))
  have joined : (store.memory.collection name ++ arrived ++ others : Collection).indexing done =
      (store.memory.collection name ++ arrived : Collection).indexing done ++ others := by
    rw [Collection.indexing_append,
      Collection.indexing_of_absent fun entry member => first.not_listed sound (coming entry member)]
  -- what the second part handles had no search fields after the first, so the first did not handle it
  have source (id : Value) (member : id ∈ later) : Predicate.isListed done id = false ∧
      ∃ entry ∈ store.memory.collection name ++ arrived ++ others, entry.key = id ∧ entry.unindexed = true := by
    obtain ⟨entry, inside, rfl, unindexed⟩ := second.fresh id member
    rcases List.mem_append.mp inside with there | new
    · obtain ⟨old, passed⟩ := first.unindexed there unindexed
      exact ⟨passed, entry, List.mem_append_left _ old, rfl, unindexed⟩
    · exact ⟨first.not_listed sound (coming entry new), entry, List.mem_append_right _ new, rfl, unindexed⟩
  constructor
  · rw [second.contents, first.contents, ← List.append_assoc, ← Collection.indexing_indexing, joined]
  · exact fun other different => (second.others other different).trans (first.others other different)
  · rw [second.calls, first.calls, List.append_assoc]
  · exact second.faults.trans first.faults
  · exact second.deliveries.trans first.deliveries
  · have regrouped : (arrived ++ others ++ final.incoming ++ entriesOf (missed ++ lost)).Perm
        (arrived ++ (others ++ final.incoming ++ entriesOf lost) ++ entriesOf missed) := by
      simp only [entriesOf_append, List.append_assoc]
      exact ((List.perm_append_comm.append_left _).append_left _).append_left _
    exact (regrouped.trans ((second.expected.append_left _).append_right _)).trans first.expected
  · intro delivery member
    rcases List.mem_append.mp member with early | late
    · exact (first.unanswered delivery early).mono second.calls second.faults
    · exact second.unanswered delivery late
  · intro id member
    rw [← List.append_assoc]
    rcases List.mem_append.mp member with early | late
    · obtain ⟨entry, inside, facts⟩ := first.fresh id early
      exact ⟨entry, List.mem_append_left _ inside, facts⟩
    · exact (source id late).2
  · refine List.nodup_append.mpr ⟨first.once, second.once, fun id early other late same => ?_⟩
    subst same
    have named := first.named sound
    have listed := (IdKind.isListed_iff named (named id early)).mpr early
    exact Bool.false_ne_true ((source id late).1.symm.trans listed)

theorem leaves_deliver {deliveries : List PlannedDelivery}
    (addressed : ∀ delivery ∈ deliveries, delivery.collection = name)
    (filed : (store.memory.collection name ++ entriesOf deliveries : Collection).Filed kind) :
    (deliver deliveries).Leaves store fun outcome final => outcome = .ok () ∧
      final = { store with memory := final.memory } ∧
      final.memory.collection name = store.memory.collection name ++ entriesOf deliveries ∧
      ∀ other, other ≠ name → final.memory.collection other = store.memory.collection other := by
  induction deliveries generalizing store with
  | nil => exact ⟨rfl, rfl, (List.append_nil _).symm, fun _ _ => rfl⟩
  | cons delivery rest ih =>
    obtain ⟨here, later⟩ := List.forall_mem_cons.mp addressed
    have split : entriesOf (delivery :: rest) = delivery.documents.map Entry.ofDocument ++ entriesOf rest := rfl
    rw [split, ← List.append_assoc] at filed
    obtain ⟨memory, inserted, contents, others⟩ := Memory.insert_fresh filed.append_left
    rw [deliver_cons, Action.leaves_bind]
    have run : PlannedStore.insert delivery.collection delivery.documents store =
        ⟨.ok (), [], { store with memory }⟩ := by
      simp only [PlannedStore.insert, here, inserted]
    rw [Action.leaves_of_run run, Action.resumes_ok]
    refine (@ih { store with memory } later (by rw [contents]; exact filed)).mono ?_
    intro _ final reached
    obtain ⟨rfl, same, held, kept⟩ := reached
    refine ⟨rfl, same, ?_, fun other different => (kept other different).trans (others other different)⟩
    rw [held, split, ← List.append_assoc]
    exact congrArg (· ++ entriesOf rest) contents

end PlannedStore

end MailSearch

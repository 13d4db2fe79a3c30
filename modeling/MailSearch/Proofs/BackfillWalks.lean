import MailSearch.Proofs.BackfillBatches

/-! What a walk over batches comes to. Each batch that handles something leaves fewer ids after the cursor,
those still to be delivered included, so that a walk with enough batches ends. Where it comes to its end it has
handled just those documents that one of its listings met after the cursor. -/

namespace MailSearch

private theorem countP_lt_countP {α : Type} {items : List α} {fewer more : α → Bool} {item : α}
    (implies : ∀ other ∈ items, fewer other = true → more other = true) (member : item ∈ items)
    (inside : more item = true) (outside : fewer item = false) : items.countP fewer < items.countP more := by
  obtain ⟨front, back, rfl⟩ := List.append_of_mem member
  have first := List.countP_mono_left fun other here => implies other (List.mem_append_left _ here)
  have second := List.countP_mono_left fun other here =>
    implies other (List.mem_append_right _ (List.mem_cons_of_mem _ here))
  simp only [List.countP_append, List.countP_cons, inside, outside, Bool.false_eq_true, ↓reduceIte]
  omega

private theorem Table.length_le_of_get? {α : Type} {table : Table (List α)} {name : String} {items : List α}
    (found : table.get? name = some items) : items.length ≤ (table.flatMap Prod.snd).length := by
  induction table with
  | nil => cases found
  | cons first rest ih =>
    rw [List.flatMap_cons, List.length_append]
    unfold Table.get? at found
    split at found
    · cases found
      exact Nat.le_add_right _ _
    · exact Nat.le_add_left_of_le (ih found)

namespace PlannedStore

variable {kind : IdKind} {name : String} {store final : PlannedStore} {made : List StoreCall} {arrived : Collection}
  {missed : List PlannedDelivery} {done : List Value} {entry : Entry}

private theorem Advances.done_or_kept (sound : Sound kind name store)
    (moves : Advances name store final made arrived missed done)
    (member : entry ∈ store.memory.collection name ++ arrived) :
    entry.key ∈ done ∨ entry ∈ final.memory.collection name := by
  have named := ((moves.filed sound).append_left.each entry member).named
  by_cases listed : Predicate.isListed done entry.key = true
  · exact .inl ((IdKind.isListed_iff (moves.named sound) named).mp listed)
  · rw [moves.contents]
    exact .inr (Collection.mem_indexing_of_not_listed member (Bool.not_eq_true _ ▸ listed))

/-- The ids that are there afterwards or still to come were so before. -/
theorem Advances.keys_perm (moves : Advances name store final made arrived missed done) :
    ∃ missed : Collection,
      ((final.memory.collection name ++ final.incoming ++ missed : Collection).map Entry.key).Perm
        ((store.memory.collection name ++ store.incoming : Collection).map Entry.key) := by
  refine ⟨entriesOf missed, ?_⟩
  have all := (moves.expected.append_left (store.memory.collection name)).map Entry.key
  simp only [moves.contents, List.map_append, Collection.keys_indexing, List.append_assoc] at all ⊢
  exact all

end PlannedStore

namespace Backfill

open PlannedStore

variable {kind : IdKind} {name : String} {store middle final : PlannedStore} {settings : BackfillSettings}
  {cursor : Cursor} {entry last : Entry} {page : List Entry} {made : List StoreCall} {arrived : Collection}
  {missed : List PlannedDelivery} {done : List Value}

section Past

theorem Cursor.Bounded.past (bounded : cursor.Bounded kind) (named : kind.Has last.key) :
    (cursor.past page last).Bounded kind := by
  refine ⟨bounded.greatest, fun id final => ?_⟩
  cases final
  exact named

/-- What lies after a page lies after what was handled before it. -/
theorem Cursor.Reaches.of_past {id : Value} (bounded : cursor.Bounded kind) (reached : cursor.Reaches last.key)
    (named : kind.Has last.key) (other : kind.Has id) (later : (cursor.past page last).Reaches id) :
    cursor.Reaches id := by
  refine ⟨fun before given => ?_, later.within⟩
  exact IdKind.precedes_trans (bounded.last before given) named other (reached.after before given)
    (later.after last.key rfl)

theorem Eligible.past (found : Eligible cursor entry) (after : last.key.Precedes entry.key) :
    Eligible (cursor.past page last) entry := by
  refine ⟨found.1, fun id final => ?_, found.2.within⟩
  cases final
  exact after

end Past

section Remaining

/-- Whether an id lies after the last one handled. -/
def Cursor.isBefore (cursor : Cursor) (id : Value) : Bool := cursor.last.all fun last => decide (last.Precedes id)

private theorem Cursor.isBefore_iff {id : Value} :
    cursor.isBefore id = true ↔ ∀ last, cursor.last = some last → last.Precedes id := by
  cases given : cursor.last <;> simp [isBefore, given]

/-- The ids after the cursor, those still to be delivered included. -/
def remaining (name : String) (cursor : Cursor) (store : PlannedStore) : Nat :=
  ((store.memory.collection name ++ store.incoming : Collection).map Entry.key).countP cursor.isBefore

/-- Moving the cursor past a document that it reached leaves fewer ids after it. -/
theorem remaining_lt (sound : Sound kind name store) (bounded : cursor.Bounded kind)
    (moves : Advances name store middle made arrived missed done) (member : last ∈ store.memory.collection name)
    (reached : cursor.Reaches last.key) :
    remaining name (cursor.past page last) middle < remaining name cursor store := by
  obtain ⟨missed, perm⟩ := moves.keys_perm
  have named := (sound.filed.append_left.each last member).named
  have fewer : remaining name (cursor.past page last) middle ≤
      ((store.memory.collection name ++ store.incoming : Collection).map Entry.key).countP
        (cursor.past page last).isBefore := by
    rw [← perm.countP_eq, remaining]
    exact ((List.sublist_append_left _ missed).map Entry.key).countP_le
  refine Nat.lt_of_le_of_lt fewer (countP_lt_countP ?_ ?_ (Cursor.isBefore_iff.mpr reached.after) ?_)
  · intro id inside later
    obtain ⟨entry, here, rfl⟩ := List.mem_map.mp inside
    have after := Cursor.isBefore_iff.mp later last.key rfl
    refine Cursor.isBefore_iff.mpr fun before given => ?_
    exact IdKind.precedes_trans (bounded.last before given) named (sound.filed.each entry here).named
      (reached.after before given) after
  · exact List.mem_map_of_mem (List.mem_append_left _ member)
  · simpa [Cursor.isBefore, Cursor.past] using IdKind.not_precedes_self named

theorem remaining_lt_pageBound (name : String) (cursor : Cursor) (store : PlannedStore) :
    remaining name cursor store < DocumentStore.pageBound store := by
  have most : remaining name cursor store ≤ (store.memory.collection name).length + store.incoming.length := by
    refine Nat.le_trans List.countP_le_length ?_
    simp
  have held : (store.memory.collection name).length ≤ store.memory.size := by
    unfold Memory.collection
    cases found : store.memory.collections.get? name with
    | none => exact Nat.zero_le _
    | some items => exact Table.length_le_of_get? found
  have coming : store.incoming.length ≤ (store.deliveries.flatMap PlannedDelivery.documents).length := by
    refine Nat.le_trans store.incoming_sublist.length_le (Nat.le_of_eq ?_)
    simp [entriesOf, List.length_flatMap]
  change _ < store.memory.size + (store.deliveries.flatMap PlannedDelivery.documents).length + 1
  omega

end Remaining

section Walk

variable {listings : List (Cursor × PlannedStore)} {more : List StoreCall} {others present : Collection}
  {later : List Value} {outcome : Except Failure Cursor}

/-- The cursor and the store at each listing of a walk. -/
def visits (settings : BackfillSettings) (name : String) : Nat → Cursor → PlannedStore → List (Cursor × PlannedStore)
  | 0, _, _ => []
  | bound + 1, cursor, store =>
    (cursor, store) ::
      match nextBatch settings name cursor store with
      | ⟨.ok (some next), _, middle⟩ => visits settings name bound next middle
      | _ => []

/-- A listing met the document: it was there, and the cursor had not passed it. -/
def Met (name : String) (listings : List (Cursor × PlannedStore)) (entry : Entry) : Prop :=
  ∃ listing ∈ listings, entry ∈ listing.2.memory.collection name ∧ listing.1.Reaches entry.key

/-- What a walk did, whether or not it came to its end. -/
structure Walked (name : String) (listings : List (Cursor × PlannedStore)) (cursor : Cursor)
    (store final : PlannedStore) (made : List StoreCall) (arrived : Collection) (missed : List PlannedDelivery)
    (done : List Value) : Prop where
  moves : Advances name store final made arrived missed done
  begins : [.find] <+: made
  reached : ∀ id ∈ done, cursor.Reaches id
  ordered : ∀ entry ∈ store.memory.collection name, Eligible cursor entry →
    ∀ id ∈ done, entry.key.Precedes id → entry.key ∈ done
  fixed : ∀ listing ∈ listings, listing.1.greatest = cursor.greatest

/-- How a walk may end: as its last call is planned to fail, or with just what its listings met handled. -/
inductive WalkEnd (name : String) (listings : List (Cursor × PlannedStore)) (cursor : Cursor) (present : Collection)
    (missed : List PlannedDelivery) (done : List Value) : Except Failure Cursor → PlannedStore → Prop where
  | failed {failure : Failure} {final : PlannedStore} (failed : final.Failed failure) :
      WalkEnd name listings cursor present missed done (.error failure) final
  | finished {reached : Cursor} {final : PlannedStore} (nothing : missed = [])
      (greatest : reached.greatest = cursor.greatest)
      (processed : reached.processed = cursor.processed + done.length)
      (exact : ∀ entry ∈ present, entry.unindexed = true → (entry.key ∈ done ↔ Met name listings entry)) :
      WalkEnd name listings cursor present missed done (.ok reached) final

section Batch

variable {listed : List Entry} (sound : Sound kind name store) (bounded : cursor.Bounded kind)
  (handled : Handled settings name cursor store middle arrived listed last)

include sound bounded handled

private theorem Handled.eligible (member : entry ∈ listed) :
    entry ∈ store.memory.collection name ∧ Eligible cursor entry := by
  rw [← handled.lists] at member
  exact mem_page sound.filed.append_left bounded member

/-- What is eligible is handled with the batch, or it comes after the batch and stays eligible. -/
theorem Handled.eligible_or_later (member : entry ∈ store.memory.collection name) (found : Eligible cursor entry) :
    entry ∈ listed ∨ (∀ other ∈ listed, other.key.Precedes entry.key) ∧
      entry ∈ middle.memory.collection name ∧ Eligible (cursor.past listed last) entry := by
  have inside (other : Entry) (now : other ∈ listed) := handled.eligible sound bounded now
  have filed := sound.filed.append_left
  have split : entry ∈ listed ∨ ∀ other ∈ listed, other.key.Precedes entry.key := by
    rw [← handled.lists]
    exact mem_page_or_after filed bounded member found
  rcases split with now | after
  · exact .inl now
  · refine .inr ⟨after, ?_, found.past (after last (List.mem_of_getLast? handled.ends))⟩
    rcases handled.moves.done_or_kept sound (List.mem_append_left _ member) with done | kept
    · obtain ⟨other, now, same⟩ := List.mem_map.mp done
      have named := (filed.each other (inside other now).1).named
      exact absurd (same ▸ after other now) (IdKind.not_precedes_self named)
    · exact kept

/-- The batch, and then the walk from where it ended. -/
theorem Walked.prepend (rest : Walked name listings (cursor.past listed last) middle final more others missed later) :
    Walked name ((cursor, store) :: listings) cursor store final ([.find, .bulkUpdate] ++ more)
      (arrived ++ others) missed (listed.map Entry.key ++ later) := by
  have filed := sound.filed.append_left
  have inside := handled.eligible sound bounded (List.mem_of_getLast? handled.ends)
  have lastNamed := (filed.each last inside.1).named
  have laterNamed := rest.moves.named (handled.moves.sound sound)
  constructor
  · exact handled.moves.trans sound rest.moves
  · exact ⟨_, rfl⟩
  · intro id member
    rcases List.mem_append.mp member with now | then_
    · obtain ⟨entry, here, rfl⟩ := List.mem_map.mp now
      exact (handled.eligible sound bounded here).2.2
    · exact .of_past bounded inside.2.2 lastNamed (laterNamed id then_) (rest.reached id then_)
  · intro entry member found id done before
    refine List.mem_append.mpr ?_
    rcases handled.eligible_or_later sound bounded member found with now | ⟨after, kept, stays⟩
    · exact .inl (List.mem_map_of_mem now)
    · rcases List.mem_append.mp done with now | then_
      · obtain ⟨other, here, rfl⟩ := List.mem_map.mp now
        have otherNamed := (filed.each other (handled.eligible sound bounded here).1).named
        exact absurd before (IdKind.precedes_asymm otherNamed (filed.each entry member).named (after other here))
      · exact .inr (rest.ordered entry kept stays id then_ before)
  · exact List.forall_mem_cons.mpr ⟨rfl, rest.fixed⟩

private theorem WalkEnd.prepend (starts : (cursor.past listed last, middle) ∈ listings)
    (rest : Walked name listings (cursor.past listed last) middle final more others missed later)
    (ended : WalkEnd name listings (cursor.past listed last) (middle.memory.collection name ++ others) missed
      later outcome final) :
    WalkEnd name ((cursor, store) :: listings) cursor (store.memory.collection name ++ (arrived ++ others)) missed
      (listed.map Entry.key ++ later) outcome final := by
  cases ended with
  | failed failed => exact .failed failed
  | finished nothing greatest processed exact =>
    refine .finished nothing greatest ?_ fun entry member unindexed => ?_
    · simp only [processed, Cursor.past, List.length_append, List.length_map]
      omega
    · have whole := rest.prepend sound bounded handled
      have filed := (whole.moves.filed sound).append_left
      -- what the batch did not handle is there for the walk that goes on
      have stays : entry.key ∈ listed.map Entry.key ∨ entry ∈ middle.memory.collection name ++ others := by
        rw [← List.append_assoc] at member
        rcases List.mem_append.mp member with present | new
        · exact (handled.moves.done_or_kept sound present).imp_right (List.mem_append_left _)
        · exact .inr (List.mem_append_right _ new)
      rw [List.mem_append]
      constructor
      · intro done
        by_cases now : entry.key ∈ listed.map Entry.key
        · obtain ⟨same, inside, key⟩ := List.mem_map.mp now
          obtain ⟨here, found⟩ := handled.eligible sound bounded inside
          obtain rfl := filed.eq_of_key (List.mem_append_left _ here) member key
          exact ⟨_, List.mem_cons_self, here, found.2⟩
        · obtain ⟨listing, visited, facts⟩ :=
            (exact entry (stays.resolve_left now) unindexed).mp (done.resolve_left now)
          exact ⟨listing, List.mem_cons_of_mem _ visited, facts⟩
      · intro holds
        obtain ⟨listing, visited, here, reaches⟩ := holds
        rcases stays with now | there
        · exact .inl now
        rcases List.mem_cons.mp visited with rfl | after
        · rcases handled.eligible_or_later sound bounded here ⟨unindexed, reaches⟩ with now | ⟨-, kept, later⟩
          · exact .inl (List.mem_map_of_mem now)
          · exact .inr ((exact entry there unindexed).mpr ⟨_, starts, kept, later.2⟩)
        · exact .inr ((exact entry there unindexed).mpr ⟨listing, after, here, reaches⟩)

end Batch

theorem leaves_report {σ : Type} {state : σ} {post : Except Failure Unit → σ → Prop} :
    (report settings cursor : Action σ Unit).Leaves state post ↔ post (.ok ()) state := by
  unfold report
  split <;> rfl

/-- A walk with enough batches fails as planned, or it comes to its end. -/
theorem leaves_walk {bound : Nat} (sound : Sound kind name store) (bounded : cursor.Bounded kind)
    (positive : 1 ≤ settings.batchSize) (enough : remaining name cursor store < bound) :
    (walk settings name bound cursor : Action PlannedStore Cursor).Leaves store fun outcome final =>
      ∃ made arrived missed done,
        Walked name (visits settings name bound cursor store) cursor store final made arrived missed done ∧
        WalkEnd name (visits settings name bound cursor store) cursor (store.memory.collection name ++ arrived) missed
          done outcome final := by
  induction bound generalizing cursor store with
  | zero => omega
  | succ bound ih =>
    have batch := leaves_nextBatch sound bounded positive
    rcases ran : (nextBatch settings name cursor : Action PlannedStore _) store with ⟨outcome, events, middle⟩
    rw [Action.leaves_of_run ran] at batch
    rw [walk, Action.leaves_bind, Action.leaves_of_run ran]
    simp only [visits, ran]
    have stopped {made : List StoreCall} {arrived : Collection} {missed : List PlannedDelivery}
        (calls : [.find] <+: made) (moves : Advances name store middle made arrived missed []) :
        Walked name [(cursor, store)] cursor store middle made arrived missed [] := by
      constructor
      · exact moves
      · exact calls
      · simp
      · simp
      · simp
    cases batch with
    | failed failed calls moves => exact ⟨_, _, _, _, stopped calls moves, .failed failed⟩
    | @exhausted _ arrived empty moves =>
      refine ⟨_, _, _, _, stopped List.prefix_rfl moves, .finished rfl rfl rfl fun entry member unindexed => ?_⟩
      have nothing (here : entry ∈ store.memory.collection name) :=
        not_eligible_of_page_eq_nil sound.filed.append_left bounded positive empty here
      simp only [List.not_mem_nil, false_iff]
      intro holds
      obtain ⟨listing, visited, here, reaches⟩ := holds
      obtain rfl := List.mem_singleton.mp visited
      exact nothing here ⟨unindexed, reaches⟩
    | @handled _ arrived listed last handled =>
      have inside := handled.eligible sound bounded (List.mem_of_getLast? handled.ends)
      have named := (sound.filed.append_left.each last inside.1).named
      have fewer : remaining name (cursor.past listed last) middle < remaining name cursor store :=
        remaining_lt sound bounded handled.moves inside.1 inside.2.2
      rw [Action.resumes_ok]
      simp only [Action.leaves_bind, leaves_report, Action.resumes_ok]
      refine (ih (handled.moves.sound sound) (bounded.past named) (by omega)).mono ?_
      intro outcome final reached
      obtain ⟨made, others, missed, later, walked, ended⟩ := reached
      refine ⟨_, _, _, _, walked.prepend sound bounded handled, ended.prepend sound bounded handled ?_ walked⟩
      obtain ⟨less, rfl⟩ : ∃ less, bound = less + 1 := ⟨bound - 1, by omega⟩
      exact List.mem_cons_self

end Walk

end Backfill

end MailSearch

import Mathlib.Algebra.Order.Floor.Div
import MailSearch.Proofs.BackfillRepetition
import MailSearch.Proofs.UndisturbedBatches

/-! What a run accounts for when nothing fails in it and nothing is delivered. After each batch the counters tell which
part of the entries that waited at the start has been handled, and the last batch is the one that comes to their end.
Where two documents hold one id the counters tell less than was planned. -/

namespace MailSearch.Backfill

open PlannedStore

variable {kind : IdKind} {name : String} {store : PlannedStore} {settings : BackfillSettings} {start cursor : Cursor}
  {whole : List Entry} {last : Entry} {size done bound total : Nat}

/-- The cursor of a run over some entries once so many batches of them are done. -/
def Cursor.afterBatches (start : Cursor) (whole : List Entry) (size done : Nat) : Cursor :=
  { start with
    last := (whole.take (done * size)).getLast?.map Entry.key
    processed := min (done * size) whole.length
    batches := done }

@[simp] theorem afterBatches_zero (greatest : Option Value) (total : Int) (whole : List Entry) (size : Nat) :
    ({ greatest, total } : Cursor).afterBatches whole size 0 = { greatest, total } := by
  simp [Cursor.afterBatches]

private theorem afterBatches_of_length_le (all : whole.length ≤ done * size) :
    start.afterBatches whole size done =
      { start with
        last := whole.getLast?.map Entry.key
        processed := whole.length
        batches := done } := by
  simp only [Cursor.afterBatches, List.take_of_length_le all, Nat.min_eq_right all]

private theorem past_afterBatches (ends : ((whole.drop (done * size)).take size).getLast? = some last) :
    (start.afterBatches whole size done).past ((whole.drop (done * size)).take size) last =
      start.afterBatches whole size (done + 1) := by
  have counted : min (done * size) whole.length + ((whole.drop (done * size)).take size).length =
      min ((done + 1) * size) whole.length := by
    rw [List.length_take, List.length_drop, Nat.succ_mul]
    omega
  have final : (whole.take ((done + 1) * size)).getLast?.map Entry.key = some last.key := by
    rw [Nat.succ_mul, List.take_add, List.getLast?_append, ends]
    rfl
  simp only [Cursor.past, Cursor.afterBatches, counted, final]

/-- So many batches of a run are done, and what comes after them in the list of all its entries waits. -/
structure Progressed (kind : IdKind) (name : String) (start : Cursor) (whole : List Entry) (size done : Nat)
    (store : PlannedStore) : Prop where
  undisturbed : store.Undisturbed
  filed : (store.memory.collection name).Filed kind
  writable : ∀ entry ∈ store.memory.collection name, entry.Writable
  bounded : (start.afterBatches whole size done).Bounded kind
  waits : waiting (start.afterBatches whole size done) (store.memory.collection name) = whole.drop (done * size)

/-- While entries wait a batch is done, and logs nothing itself. -/
theorem Progressed.nextBatch (progressed : Progressed kind name start whole settings.batchSize.toNat done store)
    (positive : 1 ≤ settings.batchSize) (more : done * settings.batchSize.toNat < whole.length) :
    ∃ final, Progressed kind name start whole settings.batchSize.toNat (done + 1) final ∧
      nextBatch settings name (start.afterBatches whole settings.batchSize.toNat done) store =
        ⟨.ok (some (start.afterBatches whole settings.batchSize.toNat (done + 1))), [], final⟩ := by
  obtain ⟨undisturbed, filed, writable, bounded, waits⟩ := progressed
  let size := settings.batchSize.toNat
  let listed := (whole.drop (done * size)).take size
  have lists : page settings (start.afterBatches whole size done) (store.memory.collection name) = listed := by
    rw [page, waits]
  have parts : waiting (start.afterBatches whole size done) (store.memory.collection name) =
      listed ++ whole.drop ((done + 1) * size) := by
    rw [waits, Nat.succ_mul, ← List.drop_drop, List.take_append_drop]
  have some_ : listed ≠ [] := by
    rw [← List.length_pos_iff, List.length_take, List.length_drop]
    exact Nat.lt_min.mpr ⟨Int.pos_iff_toNat_pos.mp positive, Nat.sub_pos_of_lt more⟩
  obtain ⟨last, ends⟩ := Option.isSome_iff_exists.mp (List.getLast?_isSome.mpr some_)
  obtain ⟨final, still, contents, ran⟩ :=
    nextBatch_of_waiting undisturbed filed writable bounded positive (lists ▸ ends)
  have named := named_waiting filed _ last (parts ▸ List.mem_append_left _ (List.mem_of_getLast? ends))
  have passed : ((start.afterBatches whole size done).past listed last).Bounded kind := bounded.past named
  have later := waiting_past filed bounded parts ends
  rw [lists] at contents ran
  rw [past_afterBatches ends] at passed later ran
  refine ⟨final, ⟨still, ?_, ?_, passed, ?_⟩, ran⟩
  · rw [contents]
    exact filed.indexing _
  · rw [contents]
    exact Collection.forall_indexing writable (fun _ => Entry.Writable.indexed) _
  · rw [contents]
    exact later

/-- What is logged at a cursor where progress is. -/
def progress (cursor : Cursor) : Event :=
  ⟨.info, "migration_progress", [("batch", .int cursor.batches), ("processed", .int cursor.processed),
    ("total", .int cursor.total), ("percent", .float (percent cursor))]⟩

private theorem report_run {σ : Type} (settings : BackfillSettings) (cursor : Cursor) (state : σ) :
    report settings cursor state = ⟨.ok (), if reports settings cursor then [progress cursor] else [], state⟩ := by
  unfold report
  split <;> rfl

private theorem reports_afterBatches : reports settings (start.afterBatches whole size done) =
    decide (start.total < settings.fullReportLimit ∨ settings.reportEvery ∣ (done : Int)) := by
  simp only [reports, Cursor.afterBatches, Bool.decide_or, Int.dvd_iff_emod_eq_zero]
  rfl

/-- A walk goes on to the last batch, and logs progress after those batches where it is due. -/
theorem Progressed.walk (progressed : Progressed kind name start whole settings.batchSize.toNat done store)
    (positive : 1 ≤ settings.batchSize) (within : done ≤ whole.length ⌈/⌉ settings.batchSize.toNat)
    (enough : whole.length - done * settings.batchSize.toNat < bound) :
    let reached := start.afterBatches whole settings.batchSize.toNat
    let count := whole.length ⌈/⌉ settings.batchSize.toNat
    ∃ final, walk settings name bound (reached done) store =
      ⟨.ok (reached count),
        (((List.range' (done + 1) (count - done)).map reached).filter (reports settings)).map progress, final⟩ := by
  intro reached count
  have size : 0 < settings.batchSize.toNat := by omega
  have least (batches : Nat) : count ≤ batches ↔ whole.length ≤ batches * settings.batchSize.toNat := by
    rw [Nat.mul_comm]
    exact ceilDiv_le_iff_le_mul size
  -- on the batches that are still allowed, with what is done so far as the invariant
  induction bound generalizing done store with
  | zero => omega
  | succ bound ih =>
    rw [Backfill.walk]
    by_cases more : done * settings.batchSize.toNat < whole.length
    · obtain ⟨middle, next, handled⟩ := progressed.nextBatch positive more
      have beyond : done < count := Nat.lt_of_not_le fun all => Nat.not_le_of_lt more ((least done).mp all)
      have fewer : whole.length - (done + 1) * settings.batchSize.toNat < bound := by
        rw [Nat.succ_mul]
        omega
      obtain ⟨final, walked⟩ := ih next beyond fewer
      have split : count - done = count - (done + 1) + 1 := by omega
      refine ⟨final, (Action.bind_run_silent handled).trans ((Action.bind_run_ok (report_run _ _ _)).trans ?_)⟩
      rw [walked, split, List.range'_succ, List.map_cons, List.filter_cons]
      split <;> rfl
    · have all := (least done).mpr (Nat.le_of_not_lt more)
      obtain rfl : done = count := Nat.le_antisymm within all
      have nothing : waiting (reached count) (store.memory.collection name) = [] := by
        rw [progressed.waits, List.drop_eq_nil_iff]
        exact Nat.le_of_not_lt more
      refine ⟨store.counting .find, (Action.bind_run_silent
        (nextBatch_of_nothing_waiting progressed.undisturbed progressed.filed positive nothing)).trans ?_⟩
      rw [Nat.sub_self]
      rfl

section Start

variable {collection : Collection} {id : Value}

/-- At the start of a run all entries without search fields wait. -/
theorem waiting_start (filed : collection.Filed kind) (greatest : collection.Greatest id) (total : Int) :
    waiting { greatest := some id, total } collection =
      (collection.filter Entry.unindexed).mergeSort fun a b => SortOrder.ascending.allows a.key b.key := by
  refine congrArg (List.mergeSort · _) (List.filter_congr fun entry member => Bool.eq_iff_iff.mpr ?_)
  rw [eligible_chooses_iff (bounded_start (greatest.named filed)) (filed.each entry member)]
  exact ⟨fun found => found.1, fun unindexed => ⟨unindexed, reaches_start greatest member⟩⟩

private theorem length_waiting_start (filed : collection.Filed kind) (greatest : collection.Greatest id) (total : Int) :
    (waiting { greatest := some id, total } collection).length = collection.countP Entry.unindexed := by
  rw [waiting_start filed greatest, List.length_mergeSort, List.countP_eq_length_filter]

/-- The last of the entries that wait at the start has the greatest id of those without search fields. -/
theorem greatest_of_ends (filed : collection.Filed kind) (greatest : collection.Greatest id)
    (ends : (waiting { greatest := some id, total } collection).getLast? = some last) :
    Collection.Greatest (collection.filter Entry.unindexed) last.key := by
  have ordered := pairwise_waiting filed { greatest := some id, total }
  have member (entry : Entry) : entry ∈ waiting { greatest := some id, total } collection ↔
      entry ∈ collection.filter Entry.unindexed := by
    rw [waiting_start filed greatest]
    exact (List.mergeSort_perm _ _).mem_iff
  have filed' : ∀ entry ∈ waiting { greatest := some id, total } collection, entry.Filed kind := fun entry listed =>
    filed.each entry (List.mem_of_mem_filter ((member entry).mp listed))
  refine ⟨⟨last, (member last).mp (List.mem_of_getLast? ends), rfl⟩, fun entry inside => ?_⟩
  exact Entry.not_last_precedes filed' ordered ends entry ((member entry).mpr inside)

end Start

/-- What the batches of a run over so many documents log: progress after each batch where it is due. -/
def progressEvents (settings : BackfillSettings) (total : Nat) : List Event :=
  let size := settings.batchSize.toNat
  let due (batch : Nat) : Bool := total < settings.fullReportLimit ∨ settings.reportEvery ∣ batch
  ((List.range' 1 (total ⌈/⌉ size)).filter due).map fun batch =>
    progress { total, processed := min (batch * size) total, batches := batch }

/-- What a run over so many documents logs. -/
def journal (settings : BackfillSettings) (greatest : Value) (total : Nat) : List Event :=
  [⟨.info, "migration_started", [("migration", .text "add_search_fields")]⟩,
    ⟨.info, "migration_planned",
      [("total", .int total), ("snapshot_max", greatest), ("batch_size", .int settings.batchSize)]⟩] ++
  (progressEvents settings total ++
    [⟨.info, "migration_complete",
      [("processed", .int total), ("batches", .int (total ⌈/⌉ settings.batchSize.toNat : Nat))]⟩])

/-- A scan that nothing disturbs counts the documents without search fields. -/
theorem scan_run (undisturbed : store.Undisturbed) (filed : (store.memory.collection name).Filed kind)
    (enabled : settings.enabled = true) {id : Value} (greatest : (store.memory.collection name).Greatest id)
    (counted : (store.memory.collection name).countP Entry.unindexed = total) (some_ : 1 ≤ total) :
    scan settings name store =
      ⟨.ok ({ greatest := some id, total }, true),
        [⟨.info, "migration_started", [("migration", .text "add_search_fields")]⟩,
          ⟨.info, "migration_planned",
            [("total", .int total), ("snapshot_max", id), ("batch_size", .int settings.batchSize)]⟩],
        ((store.counting .maxId).counting .find).counting .count⟩ := by
  let scanned := (store.counting .maxId).counting .find
  have found : scanned.memory.count name (some (eligible { greatest := some id })) = .ok total := by
    rw [Memory.count_eligible, ← counted, ← length_waiting_start filed greatest 0, waiting, List.length_mergeSort,
      List.countP_eq_length_filter]
    rfl
  have tallied := ((undisturbed.counting .maxId).counting .find).count name (some (eligible { greatest := some id }))
  rw [found] at tallied
  have several : (total : Int) ≠ 0 := by omega
  unfold scan
  rw [if_pos enabled]
  refine (Action.bind_run_ok rfl).trans ?_
  rw [Action.bind_run_silent (undisturbed.maxId filed greatest)]
  simp only [Action.bind_run_silent tallied, several, ↓reduceIte]
  rfl

/-- No walk that is allowed as many batches as the store bounds ends early. -/
theorem length_waiting_lt_pageBound (filed : (store.memory.collection name).Filed kind) {id : Value}
    (greatest : (store.memory.collection name).Greatest id) (total : Int) :
    (waiting { greatest := some id, total } (store.memory.collection name)).length < DocumentStore.pageBound store := by
  -- no id lies before a cursor that has not moved
  have every : remaining name {} store =
      ((store.memory.collection name ++ store.incoming : Collection).map Entry.key).length :=
    List.countP_eq_length.mpr fun _ _ => rfl
  refine Nat.lt_of_le_of_lt ?_ (remaining_lt_pageBound name {} store)
  rw [every, List.length_map, List.length_append, length_waiting_start filed greatest]
  exact Nat.le_trans List.countP_le_length (Nat.le_add_right _ _)

/-- A walk from the start of a run comes to the last of the entries that wait. -/
theorem walk_run (undisturbed : store.Undisturbed) (filed : (store.memory.collection name).Filed kind)
    (writable : ∀ entry ∈ store.memory.collection name, entry.Writable) (positive : 1 ≤ settings.batchSize) {id : Value}
    (greatest : (store.memory.collection name).Greatest id)
    (counted : (store.memory.collection name).countP Entry.unindexed = total)
    (ends : (waiting { greatest := some id, total } (store.memory.collection name)).getLast? = some last) :
    ∃ final, walk settings name (DocumentStore.pageBound store) { greatest := some id, total } store =
      ⟨.ok {
        greatest := some id
        total := total
        last := some last.key
        processed := total
        batches := total ⌈/⌉ settings.batchSize.toNat }, progressEvents settings total, final⟩ := by
  let start : Cursor := { greatest := some id, total }
  let size := settings.batchSize.toNat
  let whole := waiting start (store.memory.collection name)
  have length : whole.length = total := (length_waiting_start filed greatest total).trans counted
  have bounded : start.Bounded kind := bounded_start (greatest.named filed)
  have progressed : Progressed kind name start whole size 0 store := by
    constructor
    · exact undisturbed
    · exact filed
    · exact writable
    · rwa [afterBatches_zero]
    · rw [afterBatches_zero, Nat.zero_mul, List.drop_zero]
  have enough : whole.length - 0 * size < DocumentStore.pageBound store := by
    rw [Nat.zero_mul]
    exact length_waiting_lt_pageBound filed greatest total
  obtain ⟨final, walked⟩ := progressed.walk positive (Nat.zero_le _) enough
  have all : whole.length ≤ whole.length ⌈/⌉ size * size := by
    rw [Nat.mul_comm]
    exact (ceilDiv_le_iff_le_mul (by omega)).mp (Nat.le_refl _)
  have due : reports settings ∘ start.afterBatches whole size = fun batch : Nat =>
      decide (total < settings.fullReportLimit ∨ settings.reportEvery ∣ batch) :=
    funext fun _ => reports_afterBatches
  have shown : progress ∘ start.afterBatches whole size = fun batch =>
      progress { total, processed := min (batch * size) total, batches := batch } := by
    simp only [Function.comp_def, progress, percent, Cursor.afterBatches, length, start]
  rw [afterBatches_zero, afterBatches_of_length_le all, ends, length, Nat.sub_zero, List.filter_map, List.map_map, due,
    shown] at walked
  exact ⟨final, walked⟩

/-- A run that nothing disturbs counts the documents without search fields, handles just as many in as few batches as
hold them, and logs no more and no less than this. -/
theorem undisturbed_run_accounts_for_all (stocked : Stocked kind name store.memory []) (undisturbed : store.Undisturbed)
    (enabled : settings.enabled = true) (positive : 1 ≤ settings.batchSize)
    (counted : (store.memory.collection name).countP Entry.unindexed = total) (some_ : 1 ≤ total) :
    ∃ greatest last final, (store.memory.collection name).Greatest greatest ∧
      Collection.Greatest ((store.memory.collection name).filter Entry.unindexed) last ∧
      run settings name store = ⟨.ok ⟨.done, .ok ⟨{
        greatest := some greatest
        total := total
        last := some last
        processed := total
        batches := total ⌈/⌉ settings.batchSize.toNat }, false⟩⟩, journal settings greatest total, final⟩ := by
  have filed : (store.memory.collection name).Filed kind := stocked.filed.append_left
  have writable : ∀ entry ∈ store.memory.collection name, entry.Writable := fun entry member =>
    Entry.writable_of_short (stocked.short entry (List.mem_append_left _ member))
  obtain ⟨entry, member, -⟩ := List.countP_pos_iff.mp (counted ▸ some_)
  obtain ⟨greatest, most⟩ := Collection.exists_greatest filed (List.ne_nil_of_mem member)
  obtain ⟨last, ends⟩ : ∃ last,
      (waiting { greatest := some greatest, total } (store.memory.collection name)).getLast? = some last := by
    refine Option.isSome_iff_exists.mp (List.getLast?_isSome.mpr (List.length_pos_iff.mp ?_))
    rw [length_waiting_start filed most, counted]
    exact some_
  have scanned := scan_run undisturbed filed enabled most counted some_
  have still := ((undisturbed.counting .maxId).counting .find).counting .count
  obtain ⟨final, walked⟩ := walk_run still filed writable positive most counted ends
  exact ⟨greatest, last.key, final, most, greatest_of_ends filed most ends,
    run_of_planned scanned (process_run walked)⟩

section ThreeMessages

theorem undisturbed_run_accounts_for_all_of_three_messages :
    Stocked .number Collections.messages insertedMessages.memory [] ∧ insertedMessages.Undisturbed ∧
    (insertedMessages.memory.collection Collections.messages).countP Entry.unindexed = 2 ∧
    ∃ greatest last final, run oneByOne Collections.messages insertedMessages =
      ⟨.ok ⟨.done, .ok ⟨{
        greatest := some greatest
        total := 2
        last := some last
        processed := 2
        batches := 2 }, false⟩⟩, journal oneByOne greatest 2, final⟩ ∧
      (journal oneByOne greatest 2).map Event.name =
        ["migration_started", "migration_planned", "migration_progress", "migration_complete"] := by
  have undisturbed : insertedMessages.Undisturbed := ⟨rfl, rfl⟩
  have counted : (insertedMessages.memory.collection Collections.messages).countP Entry.unindexed = 2 := by
    decide +kernel
  have positive : 1 ≤ oneByOne.batchSize := by decide
  obtain ⟨greatest, last, final, -, -, ran⟩ :=
    undisturbed_run_accounts_for_all stocked_insertedMessages undisturbed rfl positive counted (by decide)
  exact ⟨stocked_insertedMessages, undisturbed, counted, greatest, last, final, ran, rfl⟩

end ThreeMessages

/-- Where two messages hold one id, a run that nothing disturbs counts both and accounts for one. -/
theorem run_accounts_for_one_of_two_namesakes :
    (namesakes.memory.collection Collections.messages).documents = [renamed, namesake] ∧ namesakes.Undisturbed ∧
    (namesakes.memory.collection Collections.messages).countP Entry.unindexed = 2 ∧
    (∃ events final, run oneByOne Collections.messages namesakes = ⟨.ok ⟨.done, .ok ⟨{
      greatest := some (.int 2)
      total := 2
      last := some (.int 2)
      processed := 1
      batches := 1 }, false⟩⟩, events, final⟩) ∧
    ¬∃ greatest last final, run oneByOne Collections.messages namesakes = ⟨.ok ⟨.done, .ok ⟨{
      greatest := some greatest
      total := 2
      last := some last
      processed := 2
      batches := 2 }, false⟩⟩, journal oneByOne greatest 2, final⟩ := by
  have counted : (namesakes.memory.collection Collections.messages).countP Entry.unindexed = 2 := by decide +kernel
  refine ⟨rfl, ⟨rfl, rfl⟩, counted, ⟨_, _, run_namesakes⟩, ?_⟩
  intro ⟨greatest, last, final, accounted⟩
  cases run_namesakes.symm.trans accounted

end MailSearch.Backfill

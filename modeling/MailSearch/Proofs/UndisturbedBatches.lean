import MailSearch.Proofs.BackfillRuns

/-! What the calls and the batches of a run come to in a store for which nothing is planned. A call does its own work
and no more, and a batch takes the first of the entries that wait and leaves the others waiting in their order. So it is
where each document is filed under the id that it holds, since a batch writes by the ids that its listing shows. -/

namespace MailSearch

namespace PlannedStore

variable {kind : IdKind} {name : String} {store : PlannedStore} {id : Value}

private theorem Undisturbed.find (undisturbed : store.Undisturbed) (name : String) (selection : Selection) :
    DocumentStore.find name selection store = ⟨store.memory.find name selection, [], store.counting .find⟩ :=
  undisturbed.called _

theorem Undisturbed.count (undisturbed : store.Undisturbed) (name : String) (filter : Option Predicate) :
    DocumentStore.count name filter store = ⟨store.memory.count name filter, [], store.counting .count⟩ :=
  undisturbed.called _

theorem Undisturbed.maxId_of_found (undisturbed : store.Undisturbed) {documents : List Fields}
    (found : store.memory.find name greatestSelection = .ok documents) :
    DocumentStore.maxId name store =
      ⟨documents.head?.elim (.ok none) fun document => (DocumentStore.idOf document).map Value.given?, [],
        (store.counting .maxId).counting .find⟩ := by
  have listing := (undisturbed.counting .maxId).find name greatestSelection
  rw [memory_counting, found] at listing
  refine (undisturbed.called _).trans ((Action.bind_run_silent listing).trans ?_)
  cases documents with
  | nil => rfl
  | cons document rest =>
    rw [List.head?_cons, Option.elim_some]
    change (Action.ofExcept (DocumentStore.idOf document) >>= fun id => pure id.given?) _ = _
    cases DocumentStore.idOf document <;> rfl

theorem Undisturbed.maxId (undisturbed : store.Undisturbed) (filed : (store.memory.collection name).Filed kind)
    (greatest : (store.memory.collection name).Greatest id) :
    DocumentStore.maxId name store = ⟨.ok (some id), [], (store.counting .maxId).counting .find⟩ := by
  rcases Memory.find_greatest filed rfl with ⟨empty, -⟩ | ⟨document, other, found, named, most⟩
  · obtain ⟨entry, member, -⟩ := greatest.kept
    rw [empty] at member
    cases member
  · obtain rfl := most.unique filed greatest
    rw [undisturbed.maxId_of_found found, List.head?_cons, Option.elim_some, DocumentStore.idOf_eq_ok_iff.mpr named]
    simp only [Except.map, (most.named filed).given?_eq]

private theorem Undisturbed.bulkUpdate_run (undisturbed : store.Undisturbed) {updates : List (Value × Fields)}
    {modified : Nat} {memory : Memory} (written : store.memory.bulkUpdate name updates = (.ok modified, memory)) :
    DocumentStore.bulkUpdate name updates store =
      ⟨.ok modified, [], { store.counting .bulkUpdate with memory }⟩ := by
  refine (undisturbed.called _).trans ?_
  simp only [memory_counting, written]

/-- Search fields are set on all of several documents that have none. -/
theorem Undisturbed.bulkUpdate (undisturbed : store.Undisturbed) (filed : (store.memory.collection name).Filed kind)
    {page : List Entry} (inside : ∀ entry ∈ page, entry ∈ store.memory.collection name ∧ entry.unindexed = true)
    (distinct : (page.map Entry.key).Nodup) :
    ∃ final : PlannedStore, final.Undisturbed ∧
      final.memory.collection name = (store.memory.collection name).indexing (page.map Entry.key) ∧
      DocumentStore.bulkUpdate name (page.map fun entry => (entry.key, [(Backfill.searchField, entry.index)])) store =
        ⟨.ok page.length, [], final⟩ := by
  let collection := (store.memory.collection name).indexing (page.map Entry.key)
  refine ⟨{ store.counting .bulkUpdate with memory := store.memory.withCollection name collection },
    ⟨undisturbed.faultless, undisturbed.still⟩, ?_, ?_⟩
  · simp [collection, Memory.collection_withCollection]
  · refine undisturbed.bulkUpdate_run ?_
    simp only [Memory.bulkUpdate, Memory.updateAll_unindexed filed inside distinct, collection]

end PlannedStore

namespace Backfill

open PlannedStore

variable {kind : IdKind} {name : String} {collection : Collection} {store : PlannedStore} {settings : BackfillSettings}
  {cursor : Cursor} {listed later : List Entry} {last : Entry}

theorem named_waiting (filed : collection.Filed kind) (cursor : Cursor) :
    ∀ entry ∈ waiting cursor collection, kind.Has entry.key := fun entry member =>
  (filed.each entry (List.mem_of_mem_filter ((List.mergeSort_perm _ _).mem_iff.mp member))).named

private theorem nodup_waiting (filed : collection.Filed kind) (cursor : Cursor) : (waiting cursor collection).Nodup :=
  (List.mergeSort_perm _ _).nodup_iff.mpr ((filed.distinct.of_map Entry.key).filter _)

/-- Once the entries that are listed first are handled, those after them wait. -/
theorem mem_waiting_past_iff (filed : collection.Filed kind) (bounded : cursor.Bounded kind)
    (parts : waiting cursor collection = listed ++ later) (ends : listed.getLast? = some last) (entry : Entry) :
    entry ∈ waiting (cursor.past listed last) (collection.indexing (listed.map Entry.key)) ↔ entry ∈ later := by
  have facts (other : Entry) : other ∈ listed ++ later ↔ other ∈ collection ∧ Eligible cursor other := by
    rw [← parts]
    exact mem_waiting_iff filed bounded
  have ordered := pairwise_waiting filed cursor
  rw [parts] at ordered
  have across := (List.pairwise_append.mp ordered).2.2
  have final : last ∈ listed := List.mem_of_getLast? ends
  obtain ⟨here, found⟩ := (facts last).mp (List.mem_append_left _ final)
  have named : kind.Has last.key := (filed.each last here).named
  have keys : ∀ id ∈ listed.map Entry.key, kind.Has id := by
    intro id member
    obtain ⟨other, inside, rfl⟩ := List.mem_map.mp member
    exact (filed.each other ((facts other).mp (List.mem_append_left _ inside)).1).named
  rw [mem_waiting_iff (filed.indexing _) (bounded.past named)]
  constructor
  · intro holds
    obtain ⟨there, unindexed, reaches⟩ := holds
    obtain ⟨member, passed⟩ := Collection.mem_of_mem_indexing there unindexed
    have own := (filed.each entry member).named
    have eligible : Eligible cursor entry := ⟨unindexed, .of_past bounded found.2 named own reaches⟩
    refine (List.mem_append.mp ((facts entry).mpr ⟨member, eligible⟩)).resolve_left fun early => ?_
    rw [← Bool.not_eq_true, IdKind.isListed_iff keys own] at passed
    exact passed (List.mem_map_of_mem early)
  · intro beyond
    obtain ⟨member, eligible⟩ := (facts entry).mp (List.mem_append_right _ beyond)
    have own := (filed.each entry member).named
    refine ⟨Collection.mem_indexing_of_not_listed member ?_, eligible.past (across last final entry beyond)⟩
    rw [← Bool.not_eq_true, IdKind.isListed_iff keys own]
    intro early
    obtain ⟨other, before, key⟩ := List.mem_map.mp early
    have precedes := across other before entry beyond
    rw [key] at precedes
    exact IdKind.not_precedes_self own precedes

/-- They wait in the order in which they waited before. -/
theorem waiting_past (filed : collection.Filed kind) (bounded : cursor.Bounded kind)
    (parts : waiting cursor collection = listed ++ later) (ends : listed.getLast? = some last) :
    waiting (cursor.past listed last) (collection.indexing (listed.map Entry.key)) = later := by
  have filedAfter := filed.indexing (listed.map Entry.key)
  have ordered := pairwise_waiting filed cursor
  have distinct := nodup_waiting filed cursor
  have named := named_waiting filed cursor
  rw [parts] at ordered distinct named
  have perm := (List.perm_ext_iff_of_nodup (nodup_waiting filedAfter _) (List.nodup_append.mp distinct).2.1).mpr
    (mem_waiting_past_iff filed bounded parts ends)
  refine perm.eq_of_pairwise ?_ (pairwise_waiting filedAfter _) (List.pairwise_append.mp ordered).2.1
  intro first second one other before after
  have firstNamed := named_waiting filedAfter _ first one
  have secondNamed := named second (List.mem_append_right _ other)
  exact absurd after (IdKind.precedes_asymm firstNamed secondNamed before)

/-- Where nothing waits a batch only looks. -/
theorem nextBatch_of_nothing_waiting (undisturbed : store.Undisturbed)
    (filed : (store.memory.collection name).Filed kind) (positive : 1 ≤ settings.batchSize)
    (nothing : waiting cursor (store.memory.collection name) = []) :
    nextBatch settings name cursor store = ⟨.ok none, [], store.counting .find⟩ := by
  have listing := undisturbed.find name (batchSelection settings cursor)
  rw [find_page filed positive rfl, page, nothing, List.take_nil] at listing
  exact Action.bind_run_ok listing

/-- Otherwise it handles the first of the entries that wait. -/
theorem nextBatch_of_waiting (undisturbed : store.Undisturbed) (filed : (store.memory.collection name).Filed kind)
    (writable : ∀ entry ∈ store.memory.collection name, entry.Writable) (bounded : cursor.Bounded kind)
    (positive : 1 ≤ settings.batchSize)
    (ends : (page settings cursor (store.memory.collection name)).getLast? = some last) :
    let listed := page settings cursor (store.memory.collection name)
    ∃ final : PlannedStore, final.Undisturbed ∧
      final.memory.collection name = (store.memory.collection name).indexing (listed.map Entry.key) ∧
      nextBatch settings name cursor store = ⟨.ok (some (cursor.past listed last)), [], final⟩ := by
  intro listed
  have facts (entry : Entry) (member : entry ∈ listed) := mem_page filed bounded member
  have listing := undisturbed.find name (batchSelection settings cursor)
  rw [find_page filed positive rfl] at listing
  have each : ∀ entry ∈ listed, entry.Filed kind ∧ entry.Writable := fun entry member =>
    ⟨filed.each entry (facts entry member).1, writable entry (facts entry member).1⟩
  have named := (each last (List.mem_of_getLast? ends)).1.named
  have id := idOf_projected (each last (List.mem_of_getLast? ends)).1
  obtain ⟨final, still, contents, written⟩ := (undisturbed.counting .find).bulkUpdate filed
    (fun entry member => ⟨(facts entry member).1, (facts entry member).2.1⟩) (nodup_page filed bounded)
  refine ⟨final, still, contents, (Action.bind_run_silent listing).trans ?_⟩
  rw [List.getLast?_map, ends]
  refine (Action.bind_ofExcept_run (mapM_updateFor each)).trans ((Action.bind_run_silent written).trans ?_)
  refine (Action.bind_ofExcept_run id).trans ?_
  rw [named.given?_eq]
  rfl

theorem process_run {reached : Cursor} {events : List Event} {final : PlannedStore}
    (walked : walk settings name (DocumentStore.pageBound store) cursor store = ⟨.ok reached, events, final⟩) :
    process settings name cursor store = ⟨.ok reached, events ++ [⟨.info, "migration_complete",
      [("processed", .int reached.processed), ("batches", .int reached.batches)]⟩], final⟩ :=
  (Action.bind_run_silent rfl).trans ((Action.bind_run_ok walked).trans rfl)

theorem run_of_planned {planned reached : Cursor} {first second : List Event} {middle final : PlannedStore}
    (scanned : scan settings name store = ⟨.ok (planned, true), first, middle⟩)
    (processed : process settings name planned middle = ⟨.ok reached, second, final⟩) :
    run settings name store = ⟨.ok ⟨.done, .ok ⟨reached, false⟩⟩, first ++ second, final⟩ := by
  have one : Action.attempt (scan settings name) store = ⟨.ok (.ok (planned, true)), first, middle⟩ := by
    rw [Action.attempt, scanned]
  have other : Action.attempt (process settings name planned) middle = ⟨.ok (.ok reached), second, final⟩ := by
    rw [Action.attempt, processed]
  refine (Action.bind_run_ok one).trans ?_
  simp only [Action.bind_run_ok other, Action.pure_run, List.append_nil]

section Namesakes

open Collections

/-- Two messages, of which the first is given the id of the second. It stays filed under its own. -/
def namesakes : PlannedStore :=
  { memory := (Memory.bulkUpdate (Memory.insert {} messages [.object [("id", .int 1), ("subject", .text "a")],
      .object [("id", .int 2), ("subject", .text "b")]]).2 messages [(.int 1, [("id", .int 2)])]).2 }

def renamed : Fields := [("id", .int 2), ("subject", .text "a")]

def namesake : Fields := [("id", .int 2), ("subject", .text "b")]

/-- The search fields of the message that was given another id. -/
def renamedFields : Value := .object [("subject", .text "a"), ("subjectWords", .list [.text "a"])]

private theorem collection_namesakes :
    namesakes.memory.collection messages = [⟨.int 1, renamed⟩, ⟨.int 2, namesake⟩] := rfl

private theorem sort_namesakes (order : SortOrder) : order.sort [renamed, namesake] = .ok [renamed, namesake] := by
  refine SortOrder.sort_of_same_id order (.number 2) fun document member => ?_
  rcases List.mem_pair.mp member with rfl | rfl <;> rfl

private theorem find_namesakes {filter : Option Predicate} {order : SortOrder} {limit : Option Int}
    {names : Option (List String)} (chosen : Documents.selected filter [renamed, namesake] = .ok [renamed, namesake]) :
    namesakes.memory.find messages { filter, order := some order, limit, names } =
      .ok ((Documents.limited limit [renamed, namesake]).map (Fields.projected names)) := by
  simp only [Memory.find, collection_namesakes, Collection.documents, List.map, chosen, bind, Except.bind,
    sort_namesakes]
  rfl

/-- Batches of one message, where there are just too many messages for progress after each. -/
def oneByOne : BackfillSettings := { enabled := true, batchSize := 1, fullReportLimit := 2, reportEvery := 2 }

/-- The run has counted two messages. -/
def plannedCursor : Cursor := { greatest := some (.int 2), total := 2 }

def plannedNamesakes : PlannedStore := ((namesakes.counting .maxId).counting .find).counting .count

/-- The run has handled one of them. -/
def handledCursor : Cursor := { plannedCursor with last := some (.int 2), processed := 1, batches := 1 }

/-- The second message has the search fields of the first one. -/
def handledNamesakes : PlannedStore :=
  { memory := ⟨[(messages, [⟨.int 1, renamed⟩, ⟨.int 2, namesake.put searchField renamedFields⟩])]⟩
    calls := [.maxId, .find, .count, .find, .bulkUpdate, .find] }

private theorem scan_namesakes : scan oneByOne messages namesakes =
    ⟨.ok (plannedCursor, true),
      [⟨.info, "migration_started", [("migration", .text "add_search_fields")]⟩,
        ⟨.info, "migration_planned", [("total", .int 2), ("snapshot_max", .int 2), ("batch_size", .int 1)]⟩],
      plannedNamesakes⟩ := by
  have found : namesakes.memory.find messages greatestSelection = .ok [[("id", .int 2)]] :=
    find_namesakes (Documents.selected_none _)
  have undisturbed : namesakes.Undisturbed := ⟨rfl, rfl⟩
  refine (Action.bind_run_ok rfl).trans ?_
  rw [Action.bind_run_silent (undisturbed.maxId_of_found found)]
  with_unfolding_all rfl

/-- The batch lists the first message and writes to the second, and the next one looks beyond both. -/
theorem walk_namesakes :
    walk oneByOne messages (DocumentStore.pageBound plannedNamesakes) plannedCursor plannedNamesakes =
      ⟨.ok handledCursor, [], handledNamesakes⟩ := by
  have chosen : Documents.selected (some (eligible plannedCursor)) [renamed, namesake] = .ok [renamed, namesake] := by
    with_unfolding_all rfl
  have found : plannedNamesakes.memory.find messages (batchSelection oneByOne plannedCursor) = .ok [renamed] :=
    find_namesakes chosen
  have undisturbed : plannedNamesakes.Undisturbed := ⟨rfl, rfl⟩
  have listing := undisturbed.find messages (batchSelection oneByOne plannedCursor)
  rw [found] at listing
  have handled : nextBatch oneByOne messages plannedCursor plannedNamesakes = ⟨.ok (some handledCursor), [],
      { handledNamesakes with calls := [.maxId, .find, .count, .find, .bulkUpdate] }⟩ := by
    refine (Action.bind_run_silent listing).trans ?_
    with_unfolding_all rfl
  refine (Action.bind_run_silent handled).trans ?_
  with_unfolding_all rfl

theorem run_namesakes : run oneByOne messages namesakes =
    ⟨.ok ⟨.done, .ok ⟨handledCursor, false⟩⟩,
      [⟨.info, "migration_started", [("migration", .text "add_search_fields")]⟩,
        ⟨.info, "migration_planned", [("total", .int 2), ("snapshot_max", .int 2), ("batch_size", .int 1)]⟩,
        ⟨.info, "migration_complete", [("processed", .int 1), ("batches", .int 1)]⟩],
      handledNamesakes⟩ :=
  run_of_planned scan_namesakes (process_run walk_namesakes)

/-- Adding their own search fields to any of the messages does not come to this. -/
theorem ne_indexing_of_namesakes (done : List Value) :
    handledNamesakes.memory.collection messages ≠ (namesakes.memory.collection messages).indexing done := by
  intro same
  rw [collection_namesakes] at same
  have last : Entry.mk (.int 2) (namesake.put searchField renamedFields) =
      if Predicate.isListed done (.int 2) then (Entry.mk (.int 2) namesake).indexed else ⟨.int 2, namesake⟩ :=
    (List.cons.inj (List.cons.inj same).2).1
  have held := congrArg (·.document.get? searchField) last
  split at held
  · have own : (Entry.mk (.int 2) namesake).indexed.document.get? searchField =
        some (.object [("subject", .text "b"), ("subjectWords", .list [.text "b"])]) := by
      with_unfolding_all rfl
    have different : renamedFields ≠ .object [("subject", .text "b"), ("subjectWords", .list [.text "b"])] := by
      simp [renamedFields]
    exact different (Option.some.inj (held.trans own))
  · cases held

end Namesakes

end Backfill

end MailSearch

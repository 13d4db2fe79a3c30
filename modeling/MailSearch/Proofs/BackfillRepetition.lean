import MailSearch.Collections
import MailSearch.Proofs.StockedCollections
import MailSearch.Proofs.UndisturbedBatches

/-! Runs one after another, each with batches of its own size and with calls that fail. Together they add search
fields to the documents without any in the order of their ids: what has been handled is always a beginning of
that order, a run goes on where the runs before it stopped, and one that does not fail handles the rest. That takes
documents each of which is filed under the id that it holds; a run does not reach one that is filed under another. -/

namespace MailSearch

/-- What is chosen from a list in order, with all that comes before it, is a beginning of the list. -/
theorem exists_prefix_perm {α : Type} {before : α → α → Prop} {items chosen : List α}
    (irreflexive : ∀ item ∈ items, ¬before item item) (ordered : items.Pairwise before) (distinct : chosen.Nodup)
    (inside : ∀ item ∈ chosen, item ∈ items)
    (closed : ∀ item ∈ items, ∀ other ∈ chosen, before item other → item ∈ chosen) :
    ∃ front, front <+: items ∧ front.Perm chosen := by
  induction items generalizing chosen with
  | nil =>
    have nothing : chosen = [] := List.eq_nil_iff_forall_not_mem.mpr fun item member => nomatch inside item member
    exact ⟨[], List.prefix_rfl, .of_eq nothing.symm⟩
  | cons first rest ih =>
    obtain ⟨least, later⟩ := List.pairwise_cons.mp ordered
    cases chosen with
    | nil => exact ⟨[], List.nil_prefix, .refl _⟩
    | cons one others =>
      have taken : first ∈ one :: others := by
        rcases List.mem_cons.mp (inside one List.mem_cons_self) with same | after
        · rw [same]
          exact List.mem_cons_self
        · exact closed first List.mem_cons_self one List.mem_cons_self (least one after)
      obtain ⟨left, right, split⟩ := List.append_of_mem taken
      have perm : (first :: (left ++ right)).Perm (one :: others) := split ▸ List.perm_middle.symm
      obtain ⟨absent, distinct⟩ := List.nodup_cons.mp (perm.nodup_iff.mpr distinct)
      have remains (item : α) (member : item ∈ rest) (chosen : item ∈ one :: others) : item ∈ left ++ right := by
        rcases List.mem_cons.mp (perm.mem_iff.mpr chosen) with same | still
        · exact absurd (same ▸ least item member) (irreflexive first List.mem_cons_self)
        · exact still
      have insideRest : ∀ item ∈ left ++ right, item ∈ rest := by
        intro item member
        rcases List.mem_cons.mp (inside item (perm.mem_iff.mp (List.mem_cons_of_mem _ member))) with same | after
        · exact absurd (same ▸ member) absent
        · exact after
      have closedRest : ∀ item ∈ rest, ∀ other ∈ left ++ right, before item other → item ∈ left ++ right := by
        intro item member other there stands
        have chosen := perm.mem_iff.mp (List.mem_cons_of_mem first there)
        exact remains item member (closed item (List.mem_cons_of_mem _ member) other chosen stands)
      have strict : ∀ item ∈ rest, ¬before item item := fun item member =>
        irreflexive item (List.mem_cons_of_mem _ member)
      obtain ⟨front, begins, same⟩ := ih strict later distinct insideRest closedRest
      exact ⟨first :: front, List.cons_prefix_cons.mpr ⟨rfl, begins⟩, (same.cons first).trans perm⟩

namespace Collection

variable {kind : IdKind} {collection : Collection} {handled more rest : List Value} {entry : Entry}

private theorem indexing_of_perm (perm : handled.Perm more) :
    collection.indexing handled = collection.indexing more := by
  refine List.map_congr_left fun entry _ => ?_
  rw [Predicate.isListed, perm.any_eq]
  rfl

/-- The ids of the documents without search fields, in ascending order. -/
def unindexedIds (collection : Collection) : List Value :=
  ((collection.filter Entry.unindexed).mergeSort fun a b => SortOrder.ascending.allows a.key b.key).map Entry.key

private theorem mem_unindexedIds_iff {id : Value} :
    id ∈ collection.unindexedIds ↔ ∃ entry ∈ collection, entry.unindexed = true ∧ entry.key = id := by
  simp only [unindexedIds, List.mem_map, (List.mergeSort_perm _ _).mem_iff, List.mem_filter, and_assoc]

private theorem pairwise_unindexedIds (filed : collection.Filed kind) :
    collection.unindexedIds.Pairwise fun first second => first.Precedes second :=
  List.pairwise_map.mpr <| Entry.pairwise_ascending
    (fun entry member => filed.each entry (List.mem_filter.mp member).1)
    (filed.distinct.sublist (List.filter_sublist.map Entry.key))

private theorem named_unindexedIds (filed : collection.Filed kind) : ∀ id ∈ collection.unindexedIds, kind.Has id := by
  intro id member
  obtain ⟨entry, inside, -, rfl⟩ := mem_unindexedIds_iff.mp member
  exact (filed.each entry inside).named

private theorem nodup_unindexedIds (filed : collection.Filed kind) : collection.unindexedIds.Nodup := by
  refine (pairwise_unindexedIds filed).imp_of_mem fun {first second} member _ before same => ?_
  subst same
  exact IdKind.not_precedes_self (named_unindexedIds filed first member) before

/-- Once a beginning of these ids is handled, the rest are those of the documents still without search fields. -/
theorem mem_rest_iff (filed : collection.Filed kind) (split : handled ++ rest = collection.unindexedIds) {id : Value} :
    id ∈ rest ↔ ∃ entry ∈ collection.indexing handled, entry.unindexed = true ∧ entry.key = id := by
  have distinct := nodup_unindexedIds filed
  have named := named_unindexedIds filed
  rw [← split] at distinct named
  have handledNamed : ∀ id ∈ handled, kind.Has id := fun id member => named id (List.mem_append_left _ member)
  constructor
  · intro member
    obtain ⟨entry, inside, unindexed, rfl⟩ := mem_unindexedIds_iff.mp (split ▸ List.mem_append_right _ member)
    refine ⟨entry, mem_indexing_of_not_listed inside ?_, unindexed, rfl⟩
    rw [← Bool.not_eq_true, IdKind.isListed_iff handledNamed (filed.each entry inside).named]
    exact fun early => (List.nodup_append.mp distinct).2.2 _ early _ member rfl
  · intro found
    obtain ⟨entry, there, unindexed, rfl⟩ := found
    obtain ⟨inside, passed⟩ := mem_of_mem_indexing there unindexed
    have listed := mem_unindexedIds_iff.mpr ⟨entry, inside, unindexed, rfl⟩
    rw [← split] at listed
    refine (List.mem_append.mp listed).resolve_left fun early => ?_
    rw [← Bool.not_eq_true, IdKind.isListed_iff handledNamed (filed.each entry inside).named] at passed
    exact passed early

/-- What is handled next, with all that comes before it, makes the beginning longer. -/
theorem exists_handled_more (filed : collection.Filed kind) (begins : handled <+: collection.unindexedIds)
    {done : List Value} (once : done.Nodup)
    (fresh : ∀ id ∈ done, ∃ entry ∈ collection.indexing handled, entry.key = id ∧ entry.unindexed = true)
    (ordered : ∀ entry ∈ collection.indexing handled, entry.unindexed = true →
      ∀ id ∈ done, entry.key.Precedes id → entry.key ∈ done) :
    ∃ more, handled ++ more <+: collection.unindexedIds ∧ more.Perm done := by
  obtain ⟨rest, split⟩ := begins
  have ascending := pairwise_unindexedIds filed
  have named := named_unindexedIds filed
  rw [← split] at ascending named
  have irreflexive : ∀ id ∈ rest, ¬id.Precedes id := fun id member =>
    IdKind.not_precedes_self (named id (List.mem_append_right _ member))
  have inside : ∀ id ∈ done, id ∈ rest := by
    intro id member
    obtain ⟨entry, here, same, unindexed⟩ := fresh id member
    exact (mem_rest_iff filed split).mpr ⟨entry, here, unindexed, same⟩
  have closed : ∀ id ∈ rest, ∀ other ∈ done, id.Precedes other → id ∈ done := by
    intro id member other later stands
    obtain ⟨entry, here, unindexed, rfl⟩ := (mem_rest_iff filed split).mp member
    exact ordered entry here unindexed other later stands
  obtain ⟨front, first, perm⟩ :=
    exists_prefix_perm irreflexive (List.pairwise_append.mp ascending).2.1 once inside closed
  refine ⟨front, ?_, perm⟩
  rw [← split]
  exact (List.prefix_append_right_inj handled).mpr first

private theorem handled_all (filed : collection.Filed kind) (begins : handled ++ more <+: collection.unindexedIds)
    (complete : ∀ entry ∈ collection.indexing handled, entry.unindexed = true → entry.key ∈ more) :
    handled ++ more = collection.unindexedIds := by
  obtain ⟨tail, split⟩ := begins
  have distinct := nodup_unindexedIds filed
  rw [← split] at distinct
  rw [List.append_assoc] at split
  -- what is left over would be without search fields still
  have nothing : tail = [] := by
    refine List.eq_nil_iff_forall_not_mem.mpr fun id member => ?_
    obtain ⟨entry, here, unindexed, rfl⟩ := (mem_rest_iff filed split).mp (List.mem_append_right more member)
    have chosen := List.mem_append_right handled (complete entry here unindexed)
    exact (List.nodup_append.mp distinct).2.2 _ chosen _ member rfl
  rw [← split, nothing, List.append_nil]

end Collection

namespace Backfill

open PlannedStore

variable {kind : IdKind} {name : String} {before now store : PlannedStore} {settings : BackfillSettings}
  {handled : List Value}

/-- A beginning of the documents without search fields has been handled, in the order of their ids, and
nothing else has changed. -/
structure Resumed (name : String) (before now : PlannedStore) (handled : List Value) : Prop where
  begins : handled <+: (before.memory.collection name).unindexedIds
  contents : now.memory.collection name = (before.memory.collection name).indexing handled
  others : ∀ other, other ≠ name → now.memory.collection other = before.memory.collection other

/-- What has search fields already does not keep those of the rest from being derived. -/
theorem Resumed.sound (stocked : Stocked kind name before.memory []) (resumed : Resumed name before now handled)
    (faults : List PlannedFault) : Sound kind name (now.plan faults []) := by
  have alone : (now.plan faults []).memory.collection name ++ (now.plan faults []).incoming =
      (before.memory.collection name).indexing handled := (List.append_nil _).trans resumed.contents
  have writable (entry : Entry) (member : entry ∈ before.memory.collection name) : entry.Writable :=
    Entry.writable_of_short (stocked.short entry (List.mem_append_left _ member))
  refine ⟨alone ▸ stocked.filed.append_left.indexing handled, ?_, fun _ member => nomatch member⟩
  rw [alone]
  exact Collection.forall_indexing writable (fun _ => Entry.Writable.indexed) handled

/-- How a run that goes on ends: it fails in the part that makes the failing call, or nothing is left. -/
inductive ResumedEnd (name : String) (before : PlannedStore) (handled more : List Value) :
    Run → PlannedStore → Prop where
  | scanning {failure : Failure} {final : PlannedStore} (failed : final.Failed failure)
      (calls : final.calls <+: [.maxId, .find, .count]) :
      ResumedEnd name before handled more ⟨.scanning, .error failure⟩ final
  | processing {failure : Failure} {final : PlannedStore} (failed : final.Failed failure)
      (calls : [.maxId, .find, .count, .find] <+: final.calls) :
      ResumedEnd name before handled more ⟨.processing, .error failure⟩ final
  | finished {result : Result} {final : PlannedStore} (processed : result.cursor.processed = more.length)
      (skipped : result.skipped = true ↔ more = [])
      (complete : handled ++ more = (before.memory.collection name).unindexedIds) :
      ResumedEnd name before handled more ⟨.done, .ok result⟩ final

/-- One more run goes on where those before it stopped. -/
theorem Resumed.leaves_run (stocked : Stocked kind name before.memory []) (resumed : Resumed name before now handled)
    (faults : List PlannedFault) (enabled : settings.enabled = true) (positive : 1 ≤ settings.batchSize) :
    (run settings name : Action PlannedStore Run).Leaves (now.plan faults []) fun outcome final =>
      ∃ result more, outcome = .ok result ∧ Resumed name before final (handled ++ more) ∧
        ResumedEnd name before handled more result final ∧ final.faults = faults := by
  have filed : (before.memory.collection name).Filed kind := stocked.filed.append_left
  have held : (now.plan faults []).memory.collection name = (before.memory.collection name).indexing handled :=
    resumed.contents
  refine (Backfill.leaves_run (resumed.sound stocked faults) enabled positive).mono ?_
  intro outcome final reached
  obtain ⟨result, made, arrived, missed, done, returned, ran, ended⟩ := reached
  obtain rfl := ran.moves.arrived_eq_nil rfl
  have calls : final.calls = made := ran.moves.calls
  have fresh := ran.moves.fresh
  have ordered := ran.ordered
  rw [held] at ordered fresh
  rw [List.append_nil] at fresh
  obtain ⟨more, begins, perm⟩ :=
    Collection.exists_handled_more filed resumed.begins ran.moves.once fresh ordered
  refine ⟨result, more, returned, ⟨begins, ?_, ?_⟩, ?_, ran.moves.faults⟩
  · rw [ran.moves.contents, List.append_nil, held, Collection.indexing_indexing]
    exact Collection.indexing_of_perm (perm.symm.append_left handled)
  · exact fun other different => (ran.moves.others other different).trans (resumed.others other different)
  · cases ended with
    | scanning failed began => exact .scanning failed (calls ▸ began)
    | processing failed began => exact .processing failed (calls ▸ began)
    | finished nothing greatest processed skipped complete exact =>
      rw [held] at complete
      refine .finished (processed.trans perm.length_eq.symm) ?_ ?_
      · rw [skipped]
        exact ⟨fun empty => (empty ▸ perm).eq_nil, fun empty => (empty ▸ perm).symm.eq_nil⟩
      · exact Collection.handled_all filed begins fun entry here unindexed =>
          perm.mem_iff.mpr (complete entry here unindexed)

/-- One attempt: a run with settings of its own, during which some calls fail. -/
structure Attempt where
  settings : BackfillSettings
  faults : List PlannedFault

/-- The store after attempts one after another. -/
def afterAttempts (name : String) : List Attempt → PlannedStore → PlannedStore
  | [], store => store
  | first :: rest, store => afterAttempts name rest (run first.settings name (store.plan first.faults [])).state

private theorem resumed_refl (name : String) (store : PlannedStore) : Resumed name store store [] where
  begins := List.nil_prefix
  contents := by simp
  others := fun _ _ => rfl

/-- However many attempts there are and whatever fails in them, a beginning has been handled after each. -/
theorem Resumed.afterAttempts (stocked : Stocked kind name before.memory []) {attempts : List Attempt}
    (resumed : Resumed name before now handled)
    (usable : ∀ attempt ∈ attempts, attempt.settings.enabled = true ∧ 1 ≤ attempt.settings.batchSize) :
    ∃ more, Resumed name before (afterAttempts name attempts now) (handled ++ more) := by
  induction attempts generalizing now handled with
  | nil => exact ⟨[], by simpa [Backfill.afterAttempts] using resumed⟩
  | cons first rest ih =>
    obtain ⟨⟨enabled, positive⟩, later⟩ := List.forall_mem_cons.mp usable
    obtain ⟨result, more, -, next, -, -⟩ := resumed.leaves_run stocked first.faults enabled positive
    obtain ⟨others, last⟩ := ih next later
    exact ⟨more ++ others, by rw [← List.append_assoc]; exact last⟩

/-- After any attempts one more run goes on, and handles all the rest where nothing fails in it. -/
theorem repeated_runs_converge (stocked : Stocked kind name store.memory []) (attempts : List Attempt)
    (usable : ∀ attempt ∈ attempts, attempt.settings.enabled = true ∧ 1 ≤ attempt.settings.batchSize) :
    ∃ handled, Resumed name store (afterAttempts name attempts store) handled ∧
      ∀ settings faults, settings.enabled = true → 1 ≤ settings.batchSize →
        (run settings name : Action PlannedStore Run).Leaves ((afterAttempts name attempts store).plan faults [])
          fun outcome final => ∃ result more, outcome = .ok result ∧ Resumed name store final (handled ++ more) ∧
            ResumedEnd name store handled more result final ∧
            (faults = [] → result.phase = .done ∧
              handled ++ more = (store.memory.collection name).unindexedIds) := by
  obtain ⟨handled, resumed⟩ := (resumed_refl name store).afterAttempts stocked usable
  refine ⟨handled, resumed, fun settings faults enabled positive => ?_⟩
  refine (resumed.leaves_run stocked faults enabled positive).mono ?_
  intro outcome final left
  obtain ⟨result, more, returned, next, ended, planned⟩ := left
  refine ⟨result, more, returned, next, ended, fun faultless => ?_⟩
  rw [faultless] at planned
  cases ended with
  | scanning failed calls | processing failed calls => exact absurd planned failed.faults_ne_nil
  | finished processed skipped complete => exact ⟨rfl, complete⟩

section ThreeMessages

/-- Three messages, one of them with search fields that are null. -/
def threeMessages : List Value :=
  [.object [("id", .int 7), ("envelope", .null)], .object [("id", .int 4), (searchField, .null)],
    .object [("id", .int 2), ("envelope", .null)]]

def insertedMessages : PlannedStore := { memory := (Memory.insert {} Collections.messages threeMessages).2 }

theorem stocked_insertedMessages : Stocked .number Collections.messages insertedMessages.memory [] := by
  have named : ∀ document ∈ threeMessages, (Entry.ofDocument document).Filed .number := by
    intro document member
    simp only [threeMessages, List.mem_cons, List.not_mem_nil, or_false] at member
    rcases member with rfl | rfl | rfl
    · exact ⟨.number 7, rfl⟩
    · exact ⟨.number 4, rfl⟩
    · exact ⟨.number 2, rfl⟩
  constructor
  · rw [show entriesOf [] = [] from rfl, List.append_nil]
    exact Memory.filed_insert (Memory.filed_empty .number Collections.messages) named
  · decide +kernel
  · decide

/-- A first attempt handles one message and then fails; a second one fails before it handles any. -/
def twoAttempts : List Attempt :=
  [⟨{ enabled := true, batchSize := 1 }, [⟨.bulkUpdate, 2, none⟩]⟩, ⟨{ enabled := true }, [⟨.count, 1, none⟩]⟩]

theorem repeated_runs_converge_after_two_attempts :
    Stocked .number Collections.messages insertedMessages.memory [] ∧
    (∀ attempt ∈ twoAttempts, attempt.settings.enabled = true ∧ 1 ≤ attempt.settings.batchSize) ∧
    ∃ handled, Resumed Collections.messages insertedMessages
        (afterAttempts Collections.messages twoAttempts insertedMessages) handled ∧
      ∀ settings faults, settings.enabled = true → 1 ≤ settings.batchSize →
        (run settings Collections.messages : Action PlannedStore Run).Leaves
          ((afterAttempts Collections.messages twoAttempts insertedMessages).plan faults [])
          fun outcome final => ∃ result more, outcome = .ok result ∧
            Resumed Collections.messages insertedMessages final (handled ++ more) ∧
            ResumedEnd Collections.messages insertedMessages handled more result final ∧
            (faults = [] → result.phase = .done ∧
              handled ++ more = (insertedMessages.memory.collection Collections.messages).unindexedIds) := by
  have usable : ∀ attempt ∈ twoAttempts, attempt.settings.enabled = true ∧ 1 ≤ attempt.settings.batchSize := by
    decide
  exact ⟨stocked_insertedMessages, usable, repeated_runs_converge stocked_insertedMessages twoAttempts usable⟩

end ThreeMessages

/-- Where two messages hold one id, a run that nothing disturbs leaves one of them without search fields and gives the
other those of it. -/
theorem run_passes_over_a_namesake :
    (namesakes.memory.collection Collections.messages).documents = [renamed, namesake] ∧ namesakes.Undisturbed ∧
    ∃ result events final, run oneByOne Collections.messages namesakes = ⟨.ok ⟨.done, .ok result⟩, events, final⟩ ∧
      (final.memory.collection Collections.messages).documents =
        [renamed, namesake.put searchField renamedFields] ∧
      ¬∃ handled, Resumed Collections.messages namesakes final handled := by
  refine ⟨rfl, ⟨rfl, rfl⟩, _, _, _, run_namesakes, rfl, ?_⟩
  intro ⟨handled, resumed⟩
  exact ne_indexing_of_namesakes handled resumed.contents

end Backfill

end MailSearch

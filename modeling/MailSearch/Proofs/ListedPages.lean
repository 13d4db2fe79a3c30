import MailSearch.Proofs.FiledUpdates

/-! What a store lists of a collection whose ids are of one kind: its greatest id, and the page that follows
a cursor. A page is the beginning, in the order of ids, of what is eligible at the cursor. -/

namespace MailSearch

open Backfill

private theorem SortOrder.sort_filed {kind : IdKind} (order : SortOrder) {entries : List Entry}
    (filed : ∀ entry ∈ entries, entry.Filed kind) :
    order.sort (entries.map Entry.document) =
      .ok ((entries.mergeSort fun a b => order.allows a.key b.key).map Entry.document) := by
  let keyed (entry : Entry) : Value × Fields := (entry.key, entry.document)
  have identified : (entries.map Entry.document).mapM (fun document => do
      return (← DocumentStore.idOf document, document)) = Except.ok (entries.map keyed) := by
    rw [mapM_eq_ok_iff, List.map_map, List.map_map]
    refine List.map_congr_left fun entry member => ?_
    simp only [Function.comp, DocumentStore.idOf_eq_ok_iff.mpr (filed entry member).id]
    rfl
  have ordered : Value.areOrdered ((entries.map keyed).map Prod.fst) = true := by
    refine IdKind.areOrdered kind _ fun id member => ?_
    rw [List.map_map] at member
    obtain ⟨entry, inside, rfl⟩ := List.mem_map.mp member
    exact (filed entry inside).named
  have moved : (entries.map keyed).mergeSort (fun a b => order.allows a.1 b.1) =
      (entries.mergeSort fun a b => order.allows a.key b.key).map keyed := by
    rw [List.map_mergeSort]
    exact fun _ _ _ _ => rfl
  unfold SortOrder.sort
  rw [identified]
  simp only [bind, Except.bind, sortByKey_of_areOrdered order ordered, moved]
  simp [pure, Except.pure, keyed]

/-- Documents that all hold one id stay in their order. -/
theorem SortOrder.sort_of_same_id {kind : IdKind} (order : SortOrder) {documents : List Fields} {id : Value}
    (named : kind.Has id) (same : ∀ document ∈ documents, document.get? "id" = some id) :
    order.sort documents = .ok documents := by
  let entries := documents.map (Entry.mk id)
  have filed : ∀ entry ∈ entries, entry.Filed kind := by
    intro entry member
    obtain ⟨document, inside, rfl⟩ := List.mem_map.mp member
    exact ⟨named, same document inside⟩
  have allowed : order.allows id id = true := by
    cases order with
    | ascending => exact IdKind.allows_ascending_iff.mpr (IdKind.not_precedes_self named)
    | descending => exact IdKind.allows_descending_iff.mpr (IdKind.not_precedes_self named)
  have ordered : entries.Pairwise fun a b => order.allows a.key b.key = true :=
    List.pairwise_map.mpr (List.pairwise_of_forall fun _ _ => allowed)
  have back : entries.map Entry.document = documents := by
    rw [List.map_map]
    exact List.map_id _
  have sorted := SortOrder.sort_filed order filed
  rwa [List.mergeSort_of_pairwise ordered, back] at sorted

private theorem IdKind.pairwise_sorted (kind : IdKind) (order : SortOrder) {entries : List Entry}
    (filed : ∀ entry ∈ entries, entry.Filed kind) :
    (entries.mergeSort fun a b => order.allows a.key b.key).Pairwise
      fun a b => order.allows a.key b.key = true := by
  let keyed (entry : Entry) : Value × Fields := (entry.key, entry.document)
  have moved : (entries.mergeSort fun a b => order.allows a.key b.key).map keyed =
      (entries.map keyed).mergeSort (fun a b => order.allows a.1 b.1) := by
    rw [List.map_mergeSort]
    exact fun _ _ _ _ => rfl
  have sorted := IdKind.pairwise_mergeSort kind order (entries.map keyed) ?_
  · rw [← moved] at sorted
    exact List.pairwise_map.mp sorted
  · intro item member
    obtain ⟨entry, inside, rfl⟩ := List.mem_map.mp member
    exact (filed entry inside).named

theorem Entry.pairwise_ascending {kind : IdKind} {entries : List Entry} (filed : ∀ entry ∈ entries, entry.Filed kind)
    (distinct : (entries.map Entry.key).Nodup) :
    (entries.mergeSort fun a b => SortOrder.ascending.allows a.key b.key).Pairwise
      fun a b => a.key.Precedes b.key := by
  have perm := List.mergeSort_perm entries fun a b => SortOrder.ascending.allows a.key b.key
  have apart := List.pairwise_map.mp ((perm.map Entry.key).nodup_iff.mpr distinct)
  refine ((IdKind.pairwise_sorted kind .ascending filed).and apart).imp_of_mem ?_
  intro a b first second both
  obtain ⟨allowed, different⟩ := both
  have one := (filed a (perm.mem_iff.mp first)).named
  have other := (filed b (perm.mem_iff.mp second)).named
  have most := IdKind.allows_ascending_iff.mp allowed
  exact Decidable.by_contra fun later => different (IdKind.eq_of_not_precedes one other later most)

/-- None of several entries in the order of their ids comes after the last one. -/
theorem Entry.not_last_precedes {kind : IdKind} {entries : List Entry} (filed : ∀ entry ∈ entries, entry.Filed kind)
    (ascending : entries.Pairwise fun a b => a.key.Precedes b.key) {last : Entry} (ends : entries.getLast? = some last) :
    ∀ entry ∈ entries, ¬last.key.Precedes entry.key := by
  obtain ⟨front, rfl⟩ := List.getLast?_eq_some_iff.mp ends
  have across := (List.pairwise_append.mp ascending).2.2
  have own := (filed last (List.mem_append_right _ List.mem_cons_self)).named
  intro entry member
  rcases List.mem_append.mp member with earlier | same
  · have named := (filed entry member).named
    exact IdKind.precedes_asymm named own (across entry earlier last List.mem_cons_self)
  · obtain rfl := List.mem_singleton.mp same
    exact IdKind.not_precedes_self own

theorem Memory.count_of_settled {memory : Memory} {name : String} {filter : Predicate}
    (settled : ∀ document ∈ (memory.collection name).documents, filter.Settled (.object document)) :
    memory.count name (some filter) = .ok ((memory.collection name).documents.countP filter.chooses : Nat) := by
  rw [Memory.count, Documents.selected_of_settled settled, List.countP_eq_length_filter]
  rfl

namespace Collection

/-- The entries that a filter chooses, in the order of their ids. -/
def matching (collection : Collection) (filter : Predicate) : List Entry :=
  (collection.filter fun entry => filter.chooses entry.document).mergeSort
    fun a b => SortOrder.ascending.allows a.key b.key

theorem perm_matching (collection : Collection) (filter : Predicate) :
    (collection.matching filter).Perm (collection.filter fun entry => filter.chooses entry.document) :=
  List.mergeSort_perm _ _

theorem find_matching {kind : IdKind} {collection : Collection} (filed : ∀ entry ∈ collection, entry.Filed kind)
    {filter : Predicate} (settled : ∀ entry ∈ collection, filter.Settled (.object entry.document)) {memory : Memory}
    {name : String} (held : (memory.collection name).documents = collection.documents) (limit : Option Int)
    (names : Option (List String)) :
    memory.find name { filter := some filter, order := some .ascending, limit, names } =
      .ok ((Documents.limited limit ((collection.matching filter).map Entry.document)).map (Fields.projected names)) := by
  have chosen : Documents.selected (some filter) collection.documents =
      .ok ((collection.filter fun entry => filter.chooses entry.document).map Entry.document) := by
    rw [documents, Documents.selected_of_settled (List.forall_mem_map.mpr settled), List.filter_map]
    rfl
  have each : ∀ entry ∈ collection.filter (fun entry => filter.chooses entry.document), entry.Filed kind :=
    fun entry member => filed entry (List.mem_of_mem_filter member)
  simp only [Memory.find, held, chosen, bind, Except.bind, SortOrder.sort_filed _ each, pure, Except.pure]
  rfl

end Collection

namespace Backfill

/-- The bounds of a cursor are ids of the kind. -/
structure Cursor.Bounded (kind : IdKind) (cursor : Cursor) : Prop where
  greatest : ∀ id, cursor.greatest = some id → kind.Has id
  last : ∀ id, cursor.last = some id → kind.Has id

/-- The document lies after the last one handled and not after the greatest. -/
structure Cursor.Reaches (cursor : Cursor) (id : Value) : Prop where
  after : ∀ last, cursor.last = some last → last.Precedes id
  within : ∀ greatest, cursor.greatest = some greatest → ¬greatest.Precedes id

/-- A listing at the cursor finds the entry. -/
def Eligible (cursor : Cursor) (entry : Entry) : Prop := entry.unindexed = true ∧ cursor.Reaches entry.key

end Backfill

variable {kind : IdKind} {collection : Collection} {cursor : Cursor} {entry : Entry}

theorem Backfill.settled_eligible (cursor : Cursor) (record : Value) : (eligible cursor).Settled record :=
  Predicate.settled_all (by simp [Predicate.Settled])

theorem Backfill.eligible_chooses_iff (bounded : cursor.Bounded kind) (filed : entry.Filed kind) :
    (eligible cursor).chooses entry.document = true ↔ Eligible cursor entry := by
  have search : (Value.object entry.document).at? searchField = entry.document.get? searchField :=
    Value.at?_object (by decide)
  have id : (Value.object entry.document).candidatesAt "id" = [entry.key] := by
    rw [Value.candidatesAt, Value.at?_object (by decide), filed.id, filed.named.candidates_eq]
  have after := IdKind.passes_after_last_iff filed.named bounded.last
  have within : Bounds.passes entry.key cursor.greatest (· == .gt) = true ↔
      ∀ greatest, cursor.greatest = some greatest → ¬greatest.Precedes entry.key := by
    cases given : cursor.greatest with
    | none => simp [Bounds.passes]
    | some greatest => simp [IdKind.passes_within_iff filed.named (bounded.greatest greatest given)]
  have range : (Predicate.range "id" { gt := cursor.last, lte := cursor.greatest }).Holds (.object entry.document) ↔
      ({ gt := cursor.last, lte := cursor.greatest } : Bounds).admits entry.key = true := by
    rw [Predicate.holds_range_iff, id]
    simp
  rw [Predicate.chooses_iff, eligible, Predicate.holds_all_iff]
  simp only [List.forall_mem_cons, Predicate.holds_presence_iff, range, search, Bounds.admits, Bool.and_eq_true,
    after, within]
  have open_ : Bounds.passes entry.key none (· == .lt) = true ∧ Bounds.passes entry.key none (· != .lt) = true :=
    ⟨rfl, rfl⟩
  constructor
  · intro holds
    obtain ⟨without, ⟨⟨⟨-, low⟩, high⟩, -⟩, -⟩ := holds
    exact ⟨by simpa [Entry.unindexed, Option.isNone_iff_eq_none] using without, high, low⟩
  · intro holds
    obtain ⟨without, high, low⟩ := holds
    exact ⟨by simpa [Entry.unindexed] using without, ⟨⟨⟨open_.1, low⟩, high⟩, open_.2⟩, by simp⟩

/-- All entries that are eligible at the cursor, in the order of their ids. -/
def Backfill.waiting (cursor : Cursor) (collection : Collection) : List Entry :=
  (collection.filter fun entry => (eligible cursor).chooses entry.document).mergeSort
    fun a b => SortOrder.ascending.allows a.key b.key

/-- The first of these entries, as many as a batch holds. -/
def Backfill.page (settings : BackfillSettings) (cursor : Cursor) (collection : Collection) : List Entry :=
  (waiting cursor collection).take settings.batchSize.toNat

theorem Backfill.mem_waiting_iff (filed : collection.Filed kind) (bounded : cursor.Bounded kind) :
    entry ∈ waiting cursor collection ↔ entry ∈ collection ∧ Eligible cursor entry := by
  rw [waiting, (List.mergeSort_perm _ _).mem_iff, List.mem_filter]
  exact and_congr_right fun member => eligible_chooses_iff bounded (filed.each entry member)

theorem Backfill.pairwise_waiting (filed : collection.Filed kind) (cursor : Cursor) :
    (waiting cursor collection).Pairwise fun a b => a.key.Precedes b.key :=
  Entry.pairwise_ascending (fun entry member => filed.each entry (List.mem_filter.mp member).1)
    (filed.distinct.sublist (List.filter_sublist.map Entry.key))

section Page

variable {settings : BackfillSettings}

theorem Backfill.find_page (filed : collection.Filed kind) (positive : 1 ≤ settings.batchSize) {memory : Memory}
    {name : String} (held : memory.collection name = collection) :
    memory.find name (batchSelection settings cursor) =
      .ok ((page settings cursor collection).map fun entry => Fields.projected (some sourceNames) entry.document) := by
  have size : ¬settings.batchSize < 0 := by omega
  refine (Collection.find_matching filed.each (fun _ _ => settled_eligible cursor _)
    (congrArg Collection.documents held) _ _).trans ?_
  simp only [Documents.limited, size, ↓reduceIte, ← List.map_take, List.map_map]
  rfl

theorem Backfill.mem_page (filed : collection.Filed kind) (bounded : cursor.Bounded kind)
    (member : entry ∈ page settings cursor collection) : entry ∈ collection ∧ Eligible cursor entry :=
  (mem_waiting_iff filed bounded).mp (List.mem_of_mem_take member)

private theorem Backfill.pairwise_page (filed : collection.Filed kind) :
    (page settings cursor collection).Pairwise fun a b => a.key.Precedes b.key :=
  (pairwise_waiting filed cursor).sublist (List.take_sublist _ _)

theorem Backfill.nodup_page (filed : collection.Filed kind) (bounded : cursor.Bounded kind) :
    ((page settings cursor collection).map Entry.key).Nodup := by
  refine List.pairwise_map.mpr ((pairwise_page filed).imp_of_mem ?_)
  intro a b member _ before same
  rw [same] at before
  exact IdKind.not_precedes_self (same ▸ (filed.each a (mem_page filed bounded member).1).named) before

/-- What is eligible and not on the page comes after all that is. -/
theorem Backfill.mem_page_or_after (filed : collection.Filed kind) (bounded : cursor.Bounded kind)
    (member : entry ∈ collection) (found : Eligible cursor entry) :
    entry ∈ page settings cursor collection ∨
      ∀ other ∈ page settings cursor collection, other.key.Precedes entry.key := by
  have listed := (mem_waiting_iff filed bounded).mpr ⟨member, found⟩
  have ordered := pairwise_waiting filed cursor
  rw [← List.take_append_drop settings.batchSize.toNat (waiting cursor collection)] at listed ordered
  rcases List.mem_append.mp listed with within | beyond
  · exact .inl within
  · exact .inr fun other inside => (List.pairwise_append.mp ordered).2.2 other inside entry beyond

theorem Backfill.not_eligible_of_page_eq_nil (filed : collection.Filed kind) (bounded : cursor.Bounded kind)
    (positive : 1 ≤ settings.batchSize) (empty : page settings cursor collection = [])
    (member : entry ∈ collection) : ¬Eligible cursor entry := by
  intro found
  have listed := (mem_waiting_iff filed bounded).mpr ⟨member, found⟩
  rcases List.take_eq_nil_iff.mp empty with none | nothing
  · omega
  · rw [nothing] at listed
    cases listed

end Page

section Greatest

/-- The id is the greatest of the collection. -/
structure Collection.Greatest (collection : Collection) (id : Value) : Prop where
  kept : ∃ entry ∈ collection, entry.key = id
  most : ∀ entry ∈ collection, ¬id.Precedes entry.key

theorem Collection.Greatest.named {id : Value} (greatest : collection.Greatest id)
    (filed : collection.Filed kind) : kind.Has id := by
  obtain ⟨entry, member, rfl⟩ := greatest.kept
  exact (filed.each entry member).named

/-- The listing that the greatest id is taken from. -/
def greatestSelection : Selection := { order := some .descending, limit := some 1, names := some ["id"] }

/-- The first id in descending order is the greatest. -/
theorem Memory.find_greatest (filed : collection.Filed kind) {memory : Memory} {name : String}
    (held : memory.collection name = collection) :
    (collection = [] ∧ memory.find name greatestSelection = .ok []) ∨
      ∃ document id, memory.find name greatestSelection = .ok [document] ∧ document.get? "id" = some id ∧
        collection.Greatest id := by
  let sorted := collection.mergeSort fun a b => SortOrder.descending.allows a.key b.key
  have found : memory.find name greatestSelection =
      .ok ((sorted.take 1).map fun entry => Fields.projected (some ["id"]) entry.document) := by
    simp only [Memory.find, greatestSelection, held, Documents.selected_none, Collection.documents, bind,
      Except.bind, SortOrder.sort_filed _ filed.each, pure, Except.pure, Documents.limited, ← List.map_take,
      List.map_map]
    rfl
  have perm : sorted.Perm collection := List.mergeSort_perm _ _
  have ordered := IdKind.pairwise_sorted kind .descending filed.each
  cases listed : sorted with
  | nil =>
    rw [listed] at perm found
    exact .inl ⟨perm.symm.eq_nil, found⟩
  | cons first rest =>
    rw [show (collection.mergeSort fun a b => SortOrder.descending.allows a.key b.key) = first :: rest from listed]
      at ordered
    rw [listed] at perm found
    have member : first ∈ collection := perm.mem_iff.mp List.mem_cons_self
    refine .inr ⟨_, first.key, found, ?_, ⟨first, member, rfl⟩, fun entry inside => ?_⟩
    · rw [Fields.get?_id_projected]
      exact (filed.each first member).id
    · rcases List.mem_cons.mp (perm.mem_iff.mpr inside) with rfl | later
      · exact IdKind.not_precedes_self (filed.each entry inside).named
      · exact IdKind.allows_descending_iff.mp ((List.pairwise_cons.mp ordered).1 entry later)

theorem Collection.exists_greatest (filed : collection.Filed kind) (some_ : collection ≠ []) :
    ∃ id, collection.Greatest id := by
  have held : Memory.collection ⟨[("", collection)]⟩ "" = collection := by simp [Memory.collection, Table.get?]
  rcases Memory.find_greatest filed held with ⟨empty, -⟩ | ⟨-, id, -, -, greatest⟩
  · exact absurd empty some_
  · exact ⟨id, greatest⟩

end Greatest

end MailSearch

import MailSearch.Backfill
import MailSearch.Proofs.IdOrder
import MailSearch.Proofs.StoredDocuments

/-! Collections whose documents are filed under ids of one kind, and what adding search fields makes of
them: the fields come last in each document that is to get them, a document that has such fields stays as
it is, and no document moves. -/

namespace MailSearch

theorem Table.get?_append {α : Type} (table more : Table α) (name : String) :
    Table.get? (table ++ more) name = (table.get? name).or (more.get? name) := by
  induction table with
  | nil => simp [get?]
  | cons first rest ih =>
    by_cases same : first.1 = name
    · simp [get?, same]
    · simp [get?, same, ih]

namespace Entry

/-- The document has an id of the kind, and is filed under it. -/
structure Filed (kind : IdKind) (entry : Entry) : Prop where
  named : kind.Has entry.key
  id : entry.document.get? "id" = some entry.key

/-- The document has no search fields. -/
def unindexed (entry : Entry) : Bool := (entry.document.get? Backfill.searchField).isNone

/-- The search fields that are derived from the document's own envelope and subject. -/
def index (entry : Entry) : Value :=
  (Envelope.searchIndex ((entry.document.get? "envelope").getD .null)
    ((entry.document.get? "subject").getD .null)).toValue

/-- The entry with search fields added to its document, unless that has some. -/
def indexed (entry : Entry) : Entry :=
  if entry.unindexed then ⟨entry.key, entry.document ++ [(Backfill.searchField, entry.index)]⟩ else entry

/-- The search fields of the document can be derived. -/
def Writable (entry : Entry) : Prop :=
  Envelope.hasOverlongEntry ((entry.document.get? "envelope").getD .null) = false

/-- The entry that a document is filed as. -/
def ofDocument (document : Value) : Entry :=
  let fields := document.fields?.getD []
  ⟨(fields.get? "id").getD .null, fields⟩

variable {kind : IdKind} {entry : Entry}

@[simp] theorem key_indexed : entry.indexed.key = entry.key := by
  unfold indexed
  split <;> rfl

private theorem get?_indexed {name : String} (other : name ≠ Backfill.searchField) :
    entry.indexed.document.get? name = entry.document.get? name := by
  unfold indexed
  split
  · simp [Table.get?_append, Table.get?, Ne.symm other]
  · rfl

private theorem Filed.indexed (filed : entry.Filed kind) : entry.indexed.Filed kind :=
  ⟨by simpa using filed.named, by
    rw [get?_indexed (by decide), key_indexed]
    exact filed.id⟩

theorem Writable.indexed (writable : entry.Writable) : entry.indexed.Writable := by
  unfold Writable
  rw [get?_indexed (by decide)]
  exact writable

theorem unindexed_indexed : entry.indexed.unindexed = false := by
  unfold indexed
  split
  · simp [unindexed, Table.get?_append, Table.get?]
  next indexed => exact Bool.not_eq_true _ ▸ indexed

private theorem indexed_of_not_unindexed (indexed : entry.unindexed = false) : entry.indexed = entry := by
  simp [Entry.indexed, indexed]

private theorem indexed_indexed : entry.indexed.indexed = entry.indexed :=
  indexed_of_not_unindexed unindexed_indexed

/-- A document that comes to be filed is an object with an id. -/
theorem Filed.ofDocument {value : Value} (filed : (Entry.ofDocument value).Filed kind) :
    value = .object (Entry.ofDocument value).document := by
  cases value with
  | object fields => rfl
  | _ => cases filed.id

end Entry

namespace Collection

/-- Documents filed under ids of one kind, no two of them under the same. -/
structure Filed (kind : IdKind) (collection : Collection) : Prop where
  each : ∀ entry ∈ collection, entry.Filed kind
  distinct : (collection.map Entry.key).Nodup

/-- Search fields added to the documents of these ids. -/
def indexing (collection : Collection) (done : List Value) : Collection :=
  collection.map fun entry => if Predicate.isListed done entry.key then entry.indexed else entry

variable {kind : IdKind} {collection more : Collection} {done later : List Value} {entry : Entry}

@[simp] theorem keys_indexing : (collection.indexing done).map Entry.key = collection.map Entry.key := by
  simp only [indexing, List.map_map]
  refine List.map_congr_left fun entry _ => ?_
  simp only [Function.comp]
  split <;> simp

theorem indexing_append (collection more : Collection) (done : List Value) :
    (collection ++ more : Collection).indexing done = collection.indexing done ++ more.indexing done :=
  List.map_append

@[simp] theorem indexing_nil : collection.indexing [] = collection := by
  simp [indexing, Predicate.isListed]

theorem indexing_of_absent (absent : ∀ entry ∈ collection, Predicate.isListed done entry.key = false) :
    collection.indexing done = collection := by
  refine (List.map_congr_left fun entry member => ?_).trans (List.map_id collection)
  simp [absent entry member]

theorem indexing_indexing :
    (collection.indexing done).indexing later = collection.indexing (done ++ later) := by
  simp only [indexing, List.map_map]
  refine List.map_congr_left fun entry _ => ?_
  have either : Predicate.isListed (done ++ later) entry.key =
      (Predicate.isListed done entry.key || Predicate.isListed later entry.key) := List.any_append
  by_cases first : Predicate.isListed done entry.key = true
  · simp [first, either, Entry.indexed_indexed]
  · simp [first, either]

/-- What holds of all entries, and stays where search fields are added, holds of them afterwards. -/
theorem forall_indexing {holds : Entry → Prop} (before : ∀ entry ∈ collection, holds entry)
    (stays : ∀ entry, holds entry → holds entry.indexed) (done : List Value) :
    ∀ entry ∈ collection.indexing done, holds entry := by
  intro entry member
  obtain ⟨old, inside, rfl⟩ := List.mem_map.mp member
  split
  · exact stays old (before old inside)
  · exact before old inside

theorem Filed.indexing (filed : collection.Filed kind) (done : List Value) :
    (collection.indexing done).Filed kind := by
  constructor
  · exact forall_indexing filed.each (fun _ => Entry.Filed.indexed) done
  · rw [keys_indexing]
    exact filed.distinct

end Collection

end MailSearch

import MailSearch.Proofs.FiledDocuments
import MailSearch.Proofs.KeyedDocuments

/-! What updates and insertions do to collections of documents that are filed under ids of one kind. Setting
search fields on documents without them is adding search fields; new documents come last. -/

namespace MailSearch

theorem Table.put_of_absent {α : Type} {table : Table α} {name : String} {entry : α}
    (absent : table.get? name = none) : table.put name entry = table ++ [(name, entry)] := by
  induction table with
  | nil => rfl
  | cons first rest ih =>
    obtain ⟨key, old⟩ := first
    by_cases same : key = name
    · simp [get?, same] at absent
    · simp only [get?, same, ↓reduceIte] at absent
      simp [put, same, ih absent]

namespace Collection

variable {kind : IdKind} {collection more : Collection} {entry : Entry}

private theorem filed_cons_iff : Filed kind (entry :: collection) ↔
    entry.Filed kind ∧ (∀ other ∈ collection, other.key ≠ entry.key) ∧ Filed kind collection := by
  constructor
  · intro holds
    obtain ⟨each, distinct⟩ := holds
    obtain ⟨here, later⟩ := List.forall_mem_cons.mp each
    obtain ⟨absent, others⟩ := List.nodup_cons.mp distinct
    exact ⟨here, fun other member same => absent (List.mem_map.mpr ⟨other, member, same⟩), later, others⟩
  · intro holds
    obtain ⟨here, absent, later, others⟩ := holds
    refine ⟨List.forall_mem_cons.mpr ⟨here, later⟩, List.nodup_cons.mpr ⟨?_, others⟩⟩
    intro member
    obtain ⟨other, inside, same⟩ := List.mem_map.mp member
    exact absent other inside same

private theorem Filed.agrees_iff (filed : collection.Filed kind) {first second : Entry} (one : first ∈ collection)
    (other : second ∈ collection) : first.key.agrees second.key = true ↔ first.key = second.key :=
  IdKind.agrees_iff (filed.each first one).named (filed.each second other).named

theorem Filed.append_left (filed : (collection ++ more : Collection).Filed kind) : collection.Filed kind := by
  refine ⟨fun entry member => filed.each entry (List.mem_append_left _ member), ?_⟩
  have distinct := filed.distinct
  rw [List.map_append] at distinct
  exact (List.nodup_append.mp distinct).1

theorem Filed.eq_of_key (filed : collection.Filed kind) {first second : Entry} (one : first ∈ collection)
    (other : second ∈ collection) (same : first.key = second.key) : first = second :=
  List.inj_on_of_nodup_map filed.distinct one other same

private theorem Filed.keyed (filed : collection.Filed kind) : collection.Keyed := by
  have plain : ∀ entry ∈ collection, entry.key.IsPlain := fun entry member => ⟨kind, (filed.each entry member).named⟩
  exact ⟨plain, fun entry member => ⟨entry.key, (filed.each entry member).id, plain entry member⟩, filed.distinct⟩

private theorem Filed.put_of_mem (filed : collection.Filed kind) (member : entry ∈ collection) (document : Fields) :
    collection.put entry.key document =
      collection.map fun other => if other.key.agrees entry.key then ⟨other.key, document⟩ else other := by
  induction collection with
  | nil => cases member
  | cons head rest ih =>
    obtain ⟨-, absent, later⟩ := filed_cons_iff.mp filed
    by_cases same : head.key.agrees entry.key = true
    · have equal := (filed.agrees_iff List.mem_cons_self member).mp same
      have others : rest.map (fun other => if other.key.agrees entry.key then ⟨other.key, document⟩ else other) =
          rest := by
        refine (List.map_congr_left fun other inside => ?_).trans (List.map_id rest)
        have different : ¬other.key.agrees entry.key = true := by
          rw [filed.agrees_iff (List.mem_cons_of_mem _ inside) member, ← equal]
          exact absent other inside
        simp [different]
      simp [put, same, others]
    · have inside : entry ∈ rest := by
        rcases List.mem_cons.mp member with rfl | inside
        · exact absurd ((filed.agrees_iff member member).mpr rfl) same
        · exact inside
      simp [put, same, ih later inside]

private theorem Filed.put_of_fresh (filed : (collection ++ [entry] : Collection).Filed kind) :
    collection.put entry.key entry.document = collection ++ [entry] := by
  induction collection with
  | nil => rfl
  | cons head rest ih =>
    obtain ⟨-, absent, later⟩ := filed_cons_iff.mp filed
    have last : entry ∈ (head :: rest) ++ [entry] := by simp
    have different : ¬head.key.agrees entry.key = true := by
      rw [filed.agrees_iff (by simp) last]
      exact fun same => absent entry (by simp) same.symm
    simp [put, different, ih later]

end Collection

namespace Memory

open Collection

variable {kind : IdKind} {collection : Collection} {memory : Memory}

/-- Setting derived search fields on a document without any changes it, and adds them. -/
theorem update_unindexed (filed : collection.Filed kind) {entry : Entry} (member : entry ∈ collection)
    (unindexed : entry.unindexed = true) :
    update collection entry.key [(Backfill.searchField, entry.index)] =
      (true, collection.indexing [entry.key]) := by
  have absent : entry.document.get? Backfill.searchField = none := Option.isNone_iff_eq_none.mp unindexed
  have changes : Fields.changes entry.document [(Backfill.searchField, entry.index)] =
      [(Backfill.searchField, entry.index)] := by
    simp [Fields.changes, absent, Value.same, Entry.index, SearchIndex.toValue, Value.agrees, Value.quantity?]
  have overlaid : entry.document.overlay [(Backfill.searchField, entry.index)] =
      entry.document ++ [(Backfill.searchField, entry.index)] := Table.put_of_absent absent
  simp only [update, filed.keyed.find? member, changes, overlaid, filed.put_of_mem member, List.isEmpty_cons,
    Bool.not_false, Prod.mk.injEq, true_and]
  refine List.map_congr_left fun other inside => ?_
  by_cases same : other.key.agrees entry.key = true
  · have equal := filed.eq_of_key inside member ((filed.agrees_iff inside member).mp same)
    subst equal
    simp [same, Predicate.isListed, Entry.indexed, unindexed]
  · simp [same, Predicate.isListed]

/-- Setting derived search fields on several documents without any adds them to just these. -/
theorem updateAll_unindexed (filed : collection.Filed kind) {page : List Entry}
    (inside : ∀ entry ∈ page, entry ∈ collection ∧ entry.unindexed = true)
    (distinct : (page.map Entry.key).Nodup) :
    updateAll collection (page.map fun entry => (entry.key, [(Backfill.searchField, entry.index)])) =
      (.ok page.length, collection.indexing (page.map Entry.key)) := by
  induction page generalizing collection with
  | nil => simp [updateAll]
  | cons entry rest ih =>
    obtain ⟨⟨member, unindexed⟩, later⟩ := List.forall_mem_cons.mp inside
    obtain ⟨absent, distinct⟩ := List.nodup_cons.mp distinct
    have still : ∀ other ∈ rest, other ∈ collection.indexing [entry.key] ∧ other.unindexed = true := by
      intro other inside
      obtain ⟨member', unindexed'⟩ := later other inside
      refine ⟨List.mem_map.mpr ⟨other, member', if_neg ?_⟩, unindexed'⟩
      rw [show Predicate.isListed [entry.key] other.key = other.key.agrees entry.key by simp [Predicate.isListed],
        filed.agrees_iff member' member]
      exact fun same => absent (List.mem_map.mpr ⟨other, inside, same⟩)
    simp only [List.map_cons, updateAll, (filed.each entry member).named.isHashable, ↓reduceIte,
      update_unindexed filed member unindexed, ih (filed.indexing [entry.key]) still distinct, Except.map,
      indexing_indexing, List.length_cons]
    rfl

/-- New documents of a collection come last, in their order, and leave the other collections alone. -/
theorem insert_fresh {name : String} {documents : List Value}
    (filed : (memory.collection name ++ documents.map Entry.ofDocument : Collection).Filed kind) :
    ∃ final, memory.insert name documents = (.ok (), final) ∧
      final.collection name = memory.collection name ++ documents.map Entry.ofDocument ∧
      ∀ other, other ≠ name → final.collection other = memory.collection other := by
  induction documents generalizing memory with
  | nil => exact ⟨memory, rfl, by simp, fun _ _ => rfl⟩
  | cons document rest ih =>
    let entry := Entry.ofDocument document
    have own : entry.Filed kind := filed.each entry (by simp [entry])
    have object : document = .object entry.document := own.ofDocument
    have parted : (memory.collection name ++ [entry] ++ rest.map Entry.ofDocument : Collection).Filed kind := by
      simpa [entry] using filed
    have last := parted.append_left.put_of_fresh
    let next := memory.withCollection name (memory.collection name ++ [entry])
    have held : next.collection name = memory.collection name ++ [entry] := by
      simp [next, collection_withCollection]
    obtain ⟨final, inserted, contents, others⟩ := @ih next (by rw [held]; exact parted)
    refine ⟨final, ?_, by simp [contents, held, entry], fun other different => ?_⟩
    · rw [object]
      simp only [Memory.insert, own.id, own.named.isHashable, ↓reduceIte]
      exact (congrArg (fun collection => (memory.withCollection name collection).insert name rest) last).trans inserted
    · rw [others other different]
      simp [next, collection_withCollection, different]

end Memory

end MailSearch

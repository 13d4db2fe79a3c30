import MailSearch.Proofs.PredicateMeaning
import MailSearch.Store.Memory

/-! What a store in memory lists: the documents that a filter chooses, and their ids. Every document
that comes into such a store has an id and keeps one. -/

namespace MailSearch

theorem mapM_eq_ok_iff {ε α β : Type} {f : α → Except ε β} {items : List α} {results : List β} :
    items.mapM f = .ok results ↔ items.map f = results.map .ok := by
  induction items generalizing results with
  | nil => cases results <;> simp [pure, Except.pure]
  | cons item rest ih =>
    cases found : f item with
    | error failure => cases results <;> simp [found, bind, Except.bind]
    | ok result =>
      cases results with
      | nil => cases listed : rest.mapM f <;> simp [found, listed, bind, Except.bind, pure, Except.pure]
      | cons first others =>
        rw [List.map_cons, List.map_cons, List.cons.injEq, ← ih]
        cases listed : rest.mapM f <;> simp [found, listed, bind, Except.bind, pure, Except.pure]

theorem exists_mapM_eq_ok {ε α β : Type} {f : α → Except ε β} {items : List α}
    (each : ∀ item ∈ items, ∃ result, f item = .ok result) : ∃ results, items.mapM f = .ok results := by
  induction items with
  | nil => exact ⟨[], rfl⟩
  | cons item rest ih =>
    obtain ⟨⟨first, found⟩, later⟩ := List.forall_mem_cons.mp each
    obtain ⟨others, listed⟩ := ih later
    exact ⟨first :: others, by simp [found, listed, bind, Except.bind, pure, Except.pure]⟩

theorem Table.get?_keep {α : Type} {table : Table α} {names : List String} {name : String} :
    (table.keep names).get? name = if name ∈ names then table.get? name else none := by
  induction table with
  | nil => simp [keep, get?]
  | cons first rest ih =>
    obtain ⟨key, entry⟩ := first
    by_cases kept : key ∈ names
    · by_cases same : key = name
      · subst same
        simp [keep, get?, kept]
      · simpa [keep, get?, kept, same] using ih
    · by_cases same : key = name
      · subst same
        simpa [keep, get?, kept] using ih
      · simpa [keep, get?, kept, same] using ih

theorem Table.get?_put {α : Type} {table : Table α} {name other : String} {entry : α} :
    (table.put name entry).get? other = if other = name then some entry else table.get? other := by
  by_cases same : other = name
  · simp [same, get?_put_self]
  · simp [same, get?_put_of_ne]

/-- The condition chooses the document. -/
def Predicate.chooses (condition : Predicate) (document : Fields) : Bool :=
  condition.holds? (.object document) == some true

theorem Predicate.chooses_iff {condition : Predicate} {document : Fields} :
    condition.chooses document = true ↔ condition.Holds (.object document) := by
  simp [chooses, Holds]

theorem DocumentStore.idOf_eq_ok_iff {document : Fields} {id : Value} :
    DocumentStore.idOf document = .ok id ↔ document.get? "id" = some id := by
  unfold DocumentStore.idOf
  cases document.get? "id" <;> simp

theorem DocumentStore.mapM_idOf_eq_ok_iff {documents : List Fields} {ids : List Value} :
    documents.mapM DocumentStore.idOf = .ok ids ↔ documents.map (·.get? "id") = ids.map some := by
  rw [mapM_eq_ok_iff]
  induction documents generalizing ids with
  | nil => cases ids <;> simp
  | cons document rest ih => cases ids <;> simp [ih, DocumentStore.idOf_eq_ok_iff]

theorem Documents.selected_of_settled {condition : Predicate} {documents : List Fields}
    (settled : ∀ document ∈ documents, condition.Settled (.object document)) :
    Documents.selected (some condition) documents = .ok (documents.filter condition.chooses) := by
  induction documents with
  | nil => rfl
  | cons document rest ih =>
    obtain ⟨here, later⟩ := List.forall_mem_cons.mp settled
    obtain ⟨answer, evaluated⟩ := Predicate.settled_iff.mp here
    cases answer <;>
      simp [Documents.selected, evaluated, ih later, Except.map, Predicate.chooses]

theorem Documents.selected_none (documents : List Fields) : Documents.selected none documents = .ok documents := by
  induction documents with
  | nil => rfl
  | cons document rest ih => simp [Documents.selected, ih, Except.map]

theorem Documents.selected_sublist {filter : Option Predicate} {documents chosen : List Fields}
    (selects : Documents.selected filter documents = .ok chosen) : chosen.Sublist documents := by
  induction documents generalizing chosen with
  | nil =>
    cases selects
    exact List.Sublist.slnil
  | cons document rest ih =>
    unfold Documents.selected at selects
    split at selects
    · cases selects
    next chooses _ =>
      cases selected : Documents.selected filter rest with
      | error failure => simp [selected, Except.map] at selects
      | ok others =>
        rw [selected] at selects
        cases selects
        split
        · exact (ih selected).cons_cons document
        · exact (ih selected).cons document

@[simp] theorem Fields.get?_id_projected {names : Option (List String)} {document : Fields} :
    (Fields.projected names document).get? "id" = document.get? "id" := by
  cases names with
  | none => rfl
  | some names => simp [Fields.projected, Table.get?_keep]

/-- Every document has an id. -/
def Collection.Identified (collection : Collection) : Prop :=
  ∀ document ∈ collection.documents, (document.get? "id").isSome

def Memory.Identified (memory : Memory) : Prop := ∀ name, (memory.collection name).Identified

namespace Collection

variable {collection : Collection} {document : Fields}

private theorem mem_documents_put {id : Value} {found : Fields}
    (member : found ∈ (collection.put id document).documents) : found = document ∨ found ∈ collection.documents := by
  induction collection with
  | nil => simpa [put, documents] using member
  | cons entry rest ih =>
    simp only [put] at member
    split at member
    · rcases List.mem_cons.mp member with rfl | later
      · exact .inl rfl
      · exact .inr (List.mem_cons_of_mem _ later)
    · rcases List.mem_cons.mp member with rfl | later
      · exact .inr List.mem_cons_self
      · exact (ih later).imp_right (List.mem_cons_of_mem _)

theorem find?_mem {id : Value} (found : collection.find? id = some document) : document ∈ collection.documents := by
  obtain ⟨entry, filed, rfl⟩ := Option.map_eq_some_iff.mp found
  exact List.mem_map.mpr ⟨entry, List.mem_of_find?_eq_some filed, rfl⟩

private theorem Identified.put (identified : collection.Identified) {id : Value}
    (named : (document.get? "id").isSome) : (collection.put id document).Identified := by
  intro found member
  rcases mem_documents_put member with rfl | old
  · exact named
  · exact identified found old

end Collection

theorem Table.isSome_get?_overlay {α : Type} {table news : Table α} {name : String}
    (present : (table.get? name).isSome) : ((table.overlay news).get? name).isSome := by
  unfold overlay
  induction news generalizing table with
  | nil => exact present
  | cons first rest ih =>
    refine ih ?_
    rw [get?_put]
    split
    · rfl
    · exact present

namespace Memory

variable {memory : Memory}

theorem collection_withCollection {name other : String} {collection : Collection} :
    (memory.withCollection name collection).collection other =
      if other = name then collection else memory.collection other := by
  simp only [Memory.collection, withCollection, Table.get?_put]
  split <;> rfl

private theorem Identified.withCollection (identified : memory.Identified) {name : String} {collection : Collection}
    (all : collection.Identified) : (memory.withCollection name collection).Identified := by
  intro other
  rw [collection_withCollection]
  split
  · exact all
  · exact identified other

private theorem identified_empty : ({} : Memory).Identified := by
  intro name document member
  cases member

/-- Inserting files objects with ids one by one, each in the store that those before it led to. -/
theorem insert_induction {name : String} {documents : List Value} {motive : Memory → Prop} (start : motive memory)
    (file : ∀ memory fields id, .object fields ∈ documents → Table.get? fields "id" = some id → motive memory →
      motive (memory.withCollection name ((memory.collection name).put id fields))) :
    motive (memory.insert name documents).2 := by
  induction documents generalizing memory with
  | nil => exact start
  | cons document rest ih =>
    have later := fun memory fields id member => file memory fields id (List.mem_cons_of_mem document member)
    unfold Memory.insert
    split
    next fields =>
      split
      · exact start
      next id found =>
        split
        · exact ih (file memory fields id List.mem_cons_self found start) later
        · exact start
    · exact start

theorem updateAll_induction {collection : Collection} {updates : List (Value × Fields)} {motive : Collection → Prop}
    (start : motive collection)
    (apply : ∀ collection id news, (id, news) ∈ updates → motive collection →
      motive (update collection id news).2) : motive (updateAll collection updates).2 := by
  induction updates generalizing collection with
  | nil => exact start
  | cons first rest ih =>
    unfold updateAll
    split
    · exact ih (apply _ _ _ List.mem_cons_self start)
        fun collection id news member => apply collection id news (List.mem_cons_of_mem first member)
    · exact start

private theorem Identified.insert (identified : memory.Identified) (name : String) (documents : List Value) :
    (memory.insert name documents).2.Identified :=
  insert_induction identified fun _ _ _ _ found identified =>
    identified.withCollection ((identified name).put (Option.isSome_of_eq_some found))

private theorem identified_updateAll {collection : Collection} (identified : collection.Identified)
    (updates : List (Value × Fields)) : (updateAll collection updates).2.Identified := by
  refine updateAll_induction identified fun collection id news _ identified => ?_
  unfold update
  split
  · exact identified
  next document found =>
    exact identified.put (Table.isSome_get?_overlay (identified document (Collection.find?_mem found)))

private theorem Identified.bulkUpdate (identified : memory.Identified) (name : String)
    (updates : List (Value × Fields)) : (memory.bulkUpdate name updates).2.Identified :=
  identified.withCollection (identified_updateAll (identified name) updates)

/-- The contents that inserting and updating documents lead to. -/
inductive Reachable : Memory → Prop where
  | empty : Reachable {}
  | insert {memory : Memory} (reachable : Reachable memory) (name : String) (documents : List Value) :
      Reachable (memory.insert name documents).2
  | bulkUpdate {memory : Memory} (reachable : Reachable memory) (name : String)
      (updates : List (Value × Fields)) : Reachable (memory.bulkUpdate name updates).2

theorem Reachable.identified (reachable : memory.Reachable) : memory.Identified := by
  induction reachable with
  | empty => exact identified_empty
  | insert _ name documents ih => exact ih.insert name documents
  | bulkUpdate _ name updates ih => exact ih.bulkUpdate name updates

end Memory

end MailSearch

import MailSearch.Proofs.EntryHistory
import MailSearch.Proofs.KeyedDocuments
import MailSearch.Proofs.SortedItems

/-! Whether the documents of a store are found under the ids that they hold. A document stays filed under the id
that it came with, whatever is set on it later; it is found under the id that it holds while the two are the same. -/

namespace MailSearch

/-- Under a name that is there an overlay leaves the old value or sets one of the new ones. -/
theorem Table.exists_get?_overlay {α : Type} {table : Table α} {name : String} {held : α}
    (named : table.get? name = some held) (news : Table α) :
    ∃ now, (table.overlay news).get? name = some now ∧ (now = held ∨ (name, now) ∈ news) := by
  unfold overlay
  induction news generalizing table held with
  | nil => exact ⟨held, named, .inl rfl⟩
  | cons first rest ih =>
    obtain ⟨key, new⟩ := first
    by_cases same : name = key
    · subst same
      obtain ⟨now, found, rfl | later⟩ := ih (get?_put_self table name new)
      · exact ⟨now, found, .inr List.mem_cons_self⟩
      · exact ⟨now, found, .inr (List.mem_cons_of_mem _ later)⟩
    · obtain ⟨now, found, kept | later⟩ := ih ((get?_put_of_ne table new same).trans named)
      · exact ⟨now, found, .inl kept⟩
      · exact ⟨now, found, .inr (List.mem_cons_of_mem _ later)⟩

namespace Collection

variable {collection : Collection} {entry : Entry} {id : Value} {news : Fields}

theorem mem_update (member : entry ∈ (Memory.update collection id news).2) :
    ∃ old ∈ collection, Updated id news old entry := by
  have changed := updated_update collection id news
  obtain ⟨index, inside, rfl⟩ := List.mem_iff_getElem.mp member
  have before : index < collection.length := changed.length_eq ▸ inside
  exact ⟨collection[index], List.getElem_mem before, changed.get before inside⟩

theorem keys_update (collection : Collection) (id : Value) (news : Fields) :
    (Memory.update collection id news).2.map Entry.key = collection.map Entry.key := by
  have same : List.Forall₂ (fun first second => first.key = second.key)
      (Memory.update collection id news).2 collection := by
    refine (updated_update collection id news).flip.imp fun final entry changed => ?_
    cases changed <;> rfl
  rw [← List.forall₂_eq_eq_eq, List.forall₂_map_left_iff, List.forall₂_map_right_iff]
  exact same

private theorem Keyed.update (keyed : collection.Keyed) (plain : ∀ given, ("id", given) ∈ news → given.IsPlain) :
    (Memory.update collection id news).2.Keyed := by
  refine ⟨fun entry member => ?_, fun entry member => ?_, keys_update collection id news ▸ keyed.distinct⟩
  · obtain ⟨old, there, changed⟩ := mem_update member
    cases changed with
    | kept => exact keyed.keys _ there
    | overlaid => exact keyed.keys old there
  · obtain ⟨old, there, changed⟩ := mem_update member
    obtain ⟨held, named, plainHeld⟩ := keyed.ids old there
    cases changed with
    | kept => exact ⟨held, named, plainHeld⟩
    | overlaid =>
      obtain ⟨now, found, rfl | given⟩ := Table.exists_get?_overlay named news
      · exact ⟨now, found, plainHeld⟩
      · exact ⟨now, found, plain now given⟩

/-- An update that sets no other id keeps documents under the ids that they hold. -/
theorem HoldsOwnIds.update (own : collection.HoldsOwnIds)
    (same : ∀ entry ∈ collection, entry.key.agrees id = true → ∀ given, ("id", given) ∈ news → given = entry.key) :
    (Memory.update collection id news).2.HoldsOwnIds := by
  intro entry member
  obtain ⟨old, there, changed⟩ := mem_update member
  cases changed with
  | kept => exact own _ there
  | overlaid addressed =>
    obtain ⟨now, found, kept | given⟩ := Table.exists_get?_overlay (own old there) news
    · exact kept ▸ found
    · exact same old there addressed now given ▸ found

end Collection

namespace Memory

/-- An operation that changes the documents of a store. -/
inductive Change where
  | insert (name : String) (documents : List Value)
  | update (name : String) (updates : List (Value × Fields))

namespace Change

def apply (memory : Memory) : Change → Memory
  | insert name documents => (memory.insert name documents).2
  | update name updates => (memory.bulkUpdate name updates).2

/-- All ids that the change gives to documents are plain. -/
def GivesPlainIds : Change → Prop
  | insert _ documents => ∀ fields, .object fields ∈ documents → ∀ id, Table.get? fields "id" = some id → id.IsPlain
  | update _ updates => ∀ id news, (id, news) ∈ updates → ∀ given, ("id", given) ∈ news → given.IsPlain

/-- The change sets the id of a document of the collection to another one than the document is filed under. -/
def Renames (memory : Memory) (name : String) : Change → Prop
  | insert _ _ => False
  | update target updates => target = name ∧ ∃ id news, (id, news) ∈ updates ∧
      ∃ entry ∈ memory.collection name, entry.key.agrees id = true ∧ ∃ given, ("id", given) ∈ news ∧ given ≠ entry.key

end Change

/-- What a history of changes makes of a store. -/
def after (memory : Memory) (history : List Change) : Memory := history.foldl Change.apply memory

/-- No change of the history gives a document of the collection another id. -/
def KeepsIds (memory : Memory) (name : String) : List Change → Prop
  | [] => True
  | change :: later => ¬change.Renames memory name ∧ KeepsIds (change.apply memory) name later

variable {memory : Memory} {name : String} {change : Change} {history : List Change}

private theorem keyed_apply (keyed : ∀ name, (memory.collection name).Keyed) (plain : change.GivesPlainIds) :
    ∀ name, ((change.apply memory).collection name).Keyed := by
  cases change with
  | insert target documents =>
    refine insert_induction (motive := fun memory => ∀ name, (memory.collection name).Keyed) keyed ?_
    intro memory fields id member named keyed name
    rw [collection_withCollection]
    split
    · exact (keyed target).put (plain fields member id named) named
    · exact keyed name
  | update target updates =>
    intro name
    simp only [Change.apply, bulkUpdate, collection_withCollection]
    split
    · refine updateAll_induction (motive := Collection.Keyed) (keyed target) ?_
      exact fun collection id news member keyed => keyed.update (plain id news member)
    · exact keyed name

private theorem keyed_after (keyed : ∀ name, (memory.collection name).Keyed)
    (plain : ∀ change ∈ history, change.GivesPlainIds) : ∀ name, ((memory.after history).collection name).Keyed := by
  induction history generalizing memory with
  | nil => exact keyed
  | cons change later ih =>
    obtain ⟨here, others⟩ := List.forall_mem_cons.mp plain
    exact ih (keyed_apply keyed here) others

private theorem holdsOwnIds_apply (keyed : ∀ name, (memory.collection name).Keyed)
    (own : (memory.collection name).HoldsOwnIds) (plain : change.GivesPlainIds) (keeps : ¬change.Renames memory name) :
    ((change.apply memory).collection name).HoldsOwnIds := by
  cases change with
  | insert target documents =>
    refine (insert_induction (motive := fun memory => (∀ name, (memory.collection name).Keyed) ∧
      (memory.collection name).HoldsOwnIds) ⟨keyed, own⟩ ?_).2
    intro memory fields id member named holds
    obtain ⟨keyed, own⟩ := holds
    have plainId : id.IsPlain := plain fields member id named
    refine ⟨fun other => ?_, ?_⟩
    · rw [collection_withCollection]
      split
      · exact (keyed target).put plainId named
      · exact keyed other
    · rw [collection_withCollection]
      split
      next same =>
        subst same
        exact own.put (keyed name) plainId named
      next => exact own
  | update target updates =>
    simp only [Change.apply, bulkUpdate, collection_withCollection]
    split
    next same =>
      subst same
      -- the keys stay, so what an update of the list would rename was there before the list
      refine (updateAll_induction (motive := fun collection =>
        collection.map Entry.key = (memory.collection name).map Entry.key ∧ collection.HoldsOwnIds) ⟨rfl, own⟩ ?_).2
      intro collection id news member holds
      obtain ⟨keys, own⟩ := holds
      refine ⟨(Collection.keys_update collection id news).trans keys, own.update ?_⟩
      intro entry there addressed given gives
      by_contra other
      obtain ⟨first, inside, same⟩ : ∃ first ∈ memory.collection name, first.key = entry.key := by
        rw [← List.mem_map, ← keys]
        exact List.mem_map.mpr ⟨entry, there, rfl⟩
      refine keeps ⟨rfl, id, news, member, first, inside, ?_, given, gives, ?_⟩
      · rw [same]
        exact addressed
      · rw [same]
        exact other
    next => exact own

private theorem holdsOwnIds_after (keyed : ∀ name, (memory.collection name).Keyed)
    (own : (memory.collection name).HoldsOwnIds) (plain : ∀ change ∈ history, change.GivesPlainIds)
    (keeps : memory.KeepsIds name history) : ((memory.after history).collection name).HoldsOwnIds := by
  induction history generalizing memory with
  | nil => exact own
  | cons change later ih =>
    obtain ⟨here, others⟩ := List.forall_mem_cons.mp plain
    obtain ⟨kept, keeps⟩ := keeps
    exact ih (keyed_apply keyed here) (holdsOwnIds_apply keyed own here kept) others keeps

/-- What is asked of a collection under the ids that its documents hold: what is found is what is got under its id,
no two documents have the same id, and an update under the id of a document changes that document and no other. -/
structure Addressable (memory : Memory) (name : String) : Prop where
  got : ∀ selection documents, memory.find name selection = .ok documents → ∀ document ∈ documents,
    ∃ id whole, document.get? "id" = some id ∧ memory.get name id = .ok (some whole) ∧
      document = whole.projected selection.names
  distinct : ∀ documents, memory.find name {} = .ok documents → (documents.map (·.get? "id")).Nodup
  updated : ∀ before document after, memory.find name {} = .ok (before ++ document :: after) →
    ∀ id, document.get? "id" = some id → ∀ news, ∃ final,
      memory.bulkUpdate name [(id, news)] = (.ok (if Fields.changes document news = [] then 0 else 1), final) ∧
      final.find name {} = .ok (before ++ document.overlay news :: after)

theorem find_all (memory : Memory) (name : String) :
    memory.find name {} = .ok ((memory.collection name).map Entry.document) := by
  simp only [find, Documents.selected_none, Collection.documents]
  exact congrArg Except.ok (List.map_id _)

private theorem mem_of_found {selection : Selection} {found : List Fields}
    (done : memory.find name selection = .ok found) {document : Fields} (member : document ∈ found) :
    ∃ entry ∈ memory.collection name, document = entry.document.projected selection.names := by
  obtain ⟨chosen, selects, -⟩ := Sorting.bind_eq_ok_iff.mp done
  obtain ⟨kept, inside, cut⟩ := mem_find selects done member
  obtain ⟨entry, there, rfl⟩ := List.mem_map.mp ((Documents.selected_sublist selects).subset inside)
  exact ⟨entry, there, cut⟩

private theorem addressable_of_own (keyed : (memory.collection name).Keyed)
    (own : (memory.collection name).HoldsOwnIds) : memory.Addressable name := by
  constructor
  · intro selection documents found document member
    obtain ⟨entry, there, rfl⟩ := mem_of_found found member
    refine ⟨entry.key, entry.document, ?_, ?_, rfl⟩
    · rw [Fields.get?_id_projected]
      exact own entry there
    · rw [Memory.get, if_pos (keyed.keys entry there).isHashable, keyed.find? there]
  · intro documents found
    rw [find_all] at found
    cases found
    have ids : ((memory.collection name).map Entry.document).map (·.get? "id") =
        ((memory.collection name).map Entry.key).map some := by
      simp only [List.map_map]
      exact List.map_congr_left own
    rw [ids]
    exact keyed.distinct.map fun _ _ => Option.some.inj
  · intro before document after found id held news
    rw [find_all] at found
    obtain ⟨first, rest, whole, rfl, later⟩ := List.map_eq_append_iff.mp (Except.ok.inj found)
    obtain ⟨entry, last, rfl, rfl, rfl⟩ := List.map_eq_cons_iff.mp later
    have there : entry ∈ memory.collection name := by simp [whole]
    obtain rfl : id = entry.key := Option.some.inj (held.symm.trans (own entry there))
    have absent := keyed.absent_before whole
    have here := keyed.agrees_self there
    have changes : updateAll (memory.collection name) [(entry.key, news)] =
        (.ok (if Fields.changes entry.document news = [] then 0 else 1),
          first ++ ⟨entry.key, entry.document.overlay news⟩ :: last) := by
      simp only [updateAll, (keyed.keys entry there).isHashable, update, keyed.find? there, ↓reduceIte]
      rw [whole, Collection.put_of_split absent here]
      by_cases same : Fields.changes entry.document news = [] <;> simp [same, Except.map]
    refine ⟨_, by rw [bulkUpdate, changes], ?_⟩
    rw [find_all, collection_withCollection, if_pos rfl]
    simp

private theorem own_of_addressable (keyed : (memory.collection name).Keyed) (addressable : memory.Addressable name) :
    (memory.collection name).HoldsOwnIds := by
  intro entry there
  obtain ⟨id, held, plain⟩ := keyed.ids entry there
  have listed := find_all memory name
  obtain ⟨id', whole, held', found, same⟩ :=
    addressable.got {} _ listed entry.document (List.mem_map.mpr ⟨entry, there, rfl⟩)
  obtain rfl : id' = id := Option.some.inj (held'.symm.trans held)
  obtain rfl : whole = entry.document := same.symm
  rw [Memory.get, if_pos plain.isHashable] at found
  obtain ⟨other, first, equal⟩ := Option.map_eq_some_iff.mp (Except.ok.inj found)
  have inside := List.mem_of_find?_eq_some first
  have key : other.key = id' := ((keyed.keys other inside).agrees_iff plain).mp (by simpa using List.find?_some first)
  have distinct := addressable.distinct _ listed
  rw [List.map_map] at distinct
  obtain rfl : other = entry := List.inj_on_of_nodup_map distinct inside there (congrArg (·.get? "id") equal)
  rw [key]
  exact held

private theorem addressable_iff (keyed : (memory.collection name).Keyed) :
    memory.Addressable name ↔ (memory.collection name).HoldsOwnIds :=
  ⟨own_of_addressable keyed, addressable_of_own keyed⟩

private theorem keyed_empty : ∀ name, (({} : Memory).collection name).Keyed :=
  fun _ => ⟨nofun, nofun, List.nodup_nil⟩

/-- Whatever documents with plain ids are inserted and updated, those of a collection are found under the ids that
they hold just when each holds the id that it is filed under. So it is while no update gives a document another id. -/
theorem documents_are_found_under_their_ids {history : List Change} (plain : ∀ change ∈ history, change.GivesPlainIds)
    (name : String) :
    ((({} : Memory).after history).Addressable name ↔ ((({} : Memory).after history).collection name).HoldsOwnIds) ∧
      (({} : Memory).KeepsIds name history → (({} : Memory).after history).Addressable name) := by
  have keyed := keyed_after keyed_empty plain name
  refine ⟨addressable_iff keyed, fun keeps => ?_⟩
  exact addressable_of_own keyed (holdsOwnIds_after keyed_empty nofun plain keeps)

section Renamed

open Collections

/-- Two messages, of which one gets a subject, and a new one under an id that is there. -/
def keptHistory : List Change :=
  [.insert messages [.object [("id", .int 1)], .object [("id", .text "a")]],
    .update messages [(.int 1, [("id", .int 1), ("subject", .text "s")])],
    .insert messages [.object [("id", .text "a")]]]

theorem documents_are_found_under_their_ids_of_two_messages :
    (∀ change ∈ keptHistory, change.GivesPlainIds) ∧ ({} : Memory).KeepsIds messages keptHistory ∧
      (({} : Memory).after keptHistory).Addressable messages := by
  have plain : ∀ change ∈ keptHistory, change.GivesPlainIds := by
    simp [keptHistory, Change.GivesPlainIds, Table.get?]
  have keeps : ({} : Memory).KeepsIds messages keptHistory := by
    refine ⟨id, ?_, id, trivial⟩
    rintro ⟨-, id, news, member, entry, there, addressed, given, gives, other⟩
    cases List.mem_singleton.mp member
    obtain rfl : given = .int 1 := by simpa using gives
    rcases List.mem_pair.mp there with rfl | rfl
    · exact other rfl
    · cases addressed
  exact ⟨plain, keeps, (documents_are_found_under_their_ids plain messages).2 keeps⟩

/-- A message that is given another id by an update. -/
def renamingHistory : List Change :=
  [.insert messages [.object [("id", .int 1)]], .update messages [(.int 1, [("id", .int 2)])]]

/-- The message is listed with its new id, but nothing is found or updated under that. -/
theorem renamed_message_is_not_found :
    (∀ change ∈ renamingHistory, change.GivesPlainIds) ∧
      (({} : Memory).after renamingHistory).find messages {} = .ok [[("id", .int 2)]] ∧
      (({} : Memory).after renamingHistory).get messages (.int 2) = .ok none ∧
      ¬(({} : Memory).after renamingHistory).Addressable messages := by
  have listed : (({} : Memory).after renamingHistory).find messages {} = .ok [[("id", .int 2)]] := rfl
  have absent : (({} : Memory).after renamingHistory).get messages (.int 2) = .ok none := rfl
  refine ⟨by simp [renamingHistory, Change.GivesPlainIds, Table.get?], listed, absent, fun addressable => ?_⟩
  obtain ⟨id, whole, held, got, -⟩ := addressable.got {} _ listed _ List.mem_cons_self
  cases held
  cases absent.symm.trans got

end Renamed

end Memory

end MailSearch

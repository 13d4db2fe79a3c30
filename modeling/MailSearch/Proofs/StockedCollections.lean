import MailSearch.Proofs.PlannedDeliveries

/-! Collections that search fields can be added to. Documents inserted under ids of one kind are filed as such,
and where no number is too long to be written the fields of all documents can be derived. -/

namespace MailSearch

namespace Value

variable {value item : Value} {items : List Value} {fields : Fields} {name : String}

private theorem hasLongInt_of_mem (short : hasLongInt.anyLong items = false) (member : item ∈ items) :
    item.hasLongInt = false := by
  induction items with
  | nil => cases member
  | cons first rest ih =>
    obtain ⟨here, later⟩ := Bool.or_eq_false_iff.mp short
    rcases List.mem_cons.mp member with rfl | inside
    · exact here
    · exact ih later inside

private theorem hasLongInt_of_elements? (short : value.hasLongInt = false) (held : value.elements? = some items)
    (member : item ∈ items) : item.hasLongInt = false := by
  cases value with
  | list given | tuple given =>
    cases held
    exact hasLongInt_of_mem short member
  | _ => cases held

private theorem hasLongInt_of_get? (short : (Value.object fields).hasLongInt = false)
    (held : fields.get? name = some value) : value.hasLongInt = false := by
  induction fields with
  | nil => cases held
  | cons first rest ih =>
    obtain ⟨here, later⟩ := Bool.or_eq_false_iff.mp short
    unfold Table.get? at held
    split at held
    · cases held
      exact here
    · exact ih later held

end Value

namespace Envelope

variable {envelope : Value} {elements : List Value} {position : Nat}

private theorem elementAt_short (short : ∀ item ∈ elements, item.hasLongInt = false) :
    (elementAt elements position).hasLongInt = false := by
  unfold elementAt
  cases found : elements[position]? with
  | none => rfl
  | some item => exact short item (List.mem_of_getElem? found)

private theorem fieldAt_short (short : envelope.hasLongInt = false) :
    (fieldAt envelope position).hasLongInt = false := by
  refine elementAt_short fun item member => ?_
  cases held : envelope.elements? with
  | none => simp [held] at member
  | some items =>
    rw [held] at member
    exact Value.hasLongInt_of_elements? short held member

/-- Where no number is too long to be written, none keeps the search fields from being derived. -/
theorem hasOverlongEntry_of_short (short : envelope.hasLongInt = false) : hasOverlongEntry envelope = false := by
  refine List.any_eq_false.mpr fun position _ => ?_
  have listShort : (fieldAt envelope position).hasLongInt = false := fieldAt_short short
  rw [Bool.not_eq_true, List.any_eq_false]
  intro entry member
  have parts : ∀ item ∈ entry, item.hasLongInt = false := by
    intro item inside
    cases held : fieldAt envelope position with
    | list items =>
      rw [held] at member listShort
      obtain ⟨given, there, elements⟩ := List.mem_filterMap.mp member
      exact Value.hasLongInt_of_elements? (Value.hasLongInt_of_mem listShort there) elements inside
    | _ => simp [held, entries] at member
  simp [isOverlong, elementAt_short parts]

end Envelope

theorem Entry.writable_of_short {entry : Entry} (short : (Value.object entry.document).hasLongInt = false) :
    entry.Writable := by
  refine Envelope.hasOverlongEntry_of_short ?_
  cases held : entry.document.get? "envelope" with
  | none => rfl
  | some envelope => exact Value.hasLongInt_of_get? short held

section Inserted

variable {kind : IdKind} {collection : Collection} {entry : Entry} {name : String}

/-- Filing a document under its id, in the place of an older one or not, keeps one document for each id. -/
theorem Collection.Filed.put (filed : collection.Filed kind) (own : entry.Filed kind) :
    (collection.put entry.key entry.document).Filed kind := by
  constructor
  · refine forall_put filed.each own fun other member addressed => ?_
    have equal := (IdKind.agrees_iff (filed.each other member).named own.named).mp addressed
    exact ⟨(filed.each other member).named, equal ▸ own.id⟩
  · exact nodup_keys_put filed.distinct ((IdKind.agrees_iff own.named own.named).mpr rfl)

theorem Memory.filed_empty (kind : IdKind) (name : String) : (({} : Memory).collection name).Filed kind :=
  ⟨fun _ member => (nomatch member), List.nodup_nil⟩

/-- Inserting documents with ids of the kind keeps a collection filed under such ids. -/
theorem Memory.filed_insert {memory : Memory} {documents : List Value}
    (filed : (memory.collection name).Filed kind)
    (named : ∀ document ∈ documents, (Entry.ofDocument document).Filed kind) :
    ((memory.insert name documents).2.collection name).Filed kind := by
  refine insert_induction (motive := fun memory => (memory.collection name).Filed kind) filed ?_
  intro memory fields id member given filed
  have own : (Entry.ofDocument (.object fields)).Filed kind := named _ member
  obtain rfl : (Entry.ofDocument (.object fields)).key = id := Option.some.inj (own.id.symm.trans given)
  rw [Memory.collection_withCollection, if_pos rfl]
  exact filed.put own

end Inserted

/-- Documents with ids of one kind and with no number too long to be written. That each is filed under the id that it
holds is a condition of its own: inserting documents keeps it, an update that sets an id may break it. What is to be
delivered comes to the same collection, under ids that no other document has. -/
structure Stocked (kind : IdKind) (name : String) (memory : Memory) (deliveries : List PlannedDelivery) : Prop where
  filed : (memory.collection name ++ PlannedStore.entriesOf deliveries : Collection).Filed kind
  short : ∀ entry ∈ memory.collection name ++ PlannedStore.entriesOf deliveries,
    (Value.object entry.document).hasLongInt = false
  addressed : ∀ delivery ∈ deliveries, delivery.collection = name

namespace PlannedStore

variable {kind : IdKind} {name : String} {store : PlannedStore}

theorem Sound.of_stocked (stocked : Stocked kind name store.memory store.deliveries) : Sound kind name store := by
  have fewer : (store.memory.collection name ++ store.incoming).Sublist
      (store.memory.collection name ++ entriesOf store.deliveries) := store.incoming_sublist.append_left _
  constructor
  · refine ⟨fun entry member => stocked.filed.each entry (fewer.subset member), ?_⟩
    exact stocked.filed.distinct.sublist (fewer.map Entry.key)
  · exact fun entry member => Entry.writable_of_short (stocked.short entry (fewer.subset member))
  · exact stocked.addressed

end PlannedStore

end MailSearch

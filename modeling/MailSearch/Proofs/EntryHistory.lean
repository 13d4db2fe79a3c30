import Mathlib.Data.List.Forall2
import MailSearch.Proofs.PlannedCalls
import MailSearch.Proofs.StoredDocuments

/-! What becomes of each entry of a collection, whatever its documents and ids are: deliveries put new documents in
the place of old ones or after them, and updates set a field of the entries that they address, entry by entry. -/

namespace MailSearch

private theorem forall₂_trans {α β γ : Type} {first : α → β → Prop} {second : β → γ → Prop} {both : α → γ → Prop}
    (follows : ∀ a b c, first a b → second b c → both a c) {items : List α} {middle : List β} {results : List γ}
    (one : List.Forall₂ first items middle) (other : List.Forall₂ second middle results) :
    List.Forall₂ both items results := by
  induction one generalizing results with
  | nil =>
    cases other
    exact .nil
  | cons head _ ih =>
    cases other with
    | cons head' tail' => exact .cons (follows _ _ _ head head') (ih tail')

private theorem Table.put_put {α : Type} (table : Table α) (name : String) (old new : α) :
    (table.put name old).put name new = table.put name new := by
  induction table with
  | nil => simp [put]
  | cons first rest ih =>
    obtain ⟨key, entry⟩ := first
    by_cases same : key = name
    · simp [put, same]
    · simp [put, same, ih]

namespace Collection

variable {collection : Collection} {id : Value} {document : Fields} {entry : Entry}

private theorem mem_put (member : entry ∈ collection.put id document) :
    entry ∈ collection ∨ entry.document = document := by
  induction collection with
  | nil =>
    rw [List.mem_singleton.mp member]
    exact .inr rfl
  | cons first rest ih =>
    simp only [put] at member
    split at member
    · rcases List.mem_cons.mp member with rfl | later
      · exact .inr rfl
      · exact .inl (List.mem_cons_of_mem _ later)
    · rcases List.mem_cons.mp member with rfl | later
      · exact .inl List.mem_cons_self
      · exact (ih later).imp_left (List.mem_cons_of_mem _)

/-- The entry is the same, or it is addressed and has the fields of the update set. -/
inductive Updated (id : Value) (news : Fields) (entry : Entry) : Entry → Prop where
  | kept : Updated id news entry entry
  | overlaid (addressed : entry.key.agrees id = true) :
      Updated id news entry ⟨entry.key, entry.document.overlay news⟩

private theorem updated_put {news : Fields} (found : collection.find? id = some document) :
    List.Forall₂ (Updated id news) collection (collection.put id (document.overlay news)) := by
  induction collection with
  | nil => cases found
  | cons first rest ih =>
    have others : List.Forall₂ (Updated id news) rest rest := List.forall₂_same.mpr fun _ _ => .kept
    by_cases addressed : first.key.agrees id = true
    · have here : first.document = document := by simpa [find?, addressed] using found
      simp only [put, addressed, ↓reduceIte, ← here]
      exact .cons (.overlaid addressed) others
    · have later : find? rest id = some document := by simpa [find?, addressed] using found
      simp only [put, addressed]
      exact .cons .kept (ih later)

theorem updated_update (collection : Collection) (id : Value) (news : Fields) :
    List.Forall₂ (Updated id news) collection (Memory.update collection id news).2 := by
  unfold Memory.update
  cases found : collection.find? id with
  | none => exact List.forall₂_same.mpr fun _ _ => .kept
  | some document => exact updated_put found

/-- The entry is the same, or has the field set to the value. -/
inductive Sets (field : String) (values : List (Value × Value)) (entry : Entry) : Entry → Prop where
  | kept : Sets field values entry entry
  | set {id value : Value} (given : (id, value) ∈ values) (addressed : entry.key.agrees id = true) :
      Sets field values entry ⟨entry.key, entry.document.put field value⟩

private theorem Sets.trans {field : String} {id value : Value} {values : List (Value × Value)} {middle final : Entry}
    (first : Sets field [(id, value)] entry middle) (second : Sets field values middle final) :
    Sets field ((id, value) :: values) entry final := by
  cases second with
  | kept =>
    cases first with
    | kept => exact .kept
    | set given addressed =>
      cases List.mem_singleton.mp given
      exact .set List.mem_cons_self addressed
  | set given addressed =>
    cases first with
    | kept => exact .set (List.mem_cons_of_mem _ given) addressed
    | set _ _ =>
      rw [Table.put_put]
      exact .set (List.mem_cons_of_mem _ given) addressed

end Collection

namespace Memory

open Collection

variable {memory : Memory} {name other : String} {entry : Entry}

/-- Updates of one field set it on the entries they address, and leave all else as it is; where an entry is addressed
more than once, the last value stays. -/
theorem sets_updateAll {collection : Collection} {field : String} (values : List (Value × Value)) :
    List.Forall₂ (Sets field values) collection
      (updateAll collection (values.map fun (id, value) => (id, [(field, value)]))).2 := by
  induction values generalizing collection with
  | nil => exact List.forall₂_same.mpr fun _ _ => .kept
  | cons first rest ih =>
    obtain ⟨id, value⟩ := first
    have step : List.Forall₂ (Sets field [(id, value)]) collection (update collection id [(field, value)]).2 := by
      refine (updated_update collection id [(field, value)]).imp fun entry final changed => ?_
      cases changed with
      | kept => exact .kept
      | overlaid addressed => exact .set List.mem_cons_self addressed
    simp only [List.map_cons, updateAll]
    split
    · refine forall₂_trans ?_ step ih
      intro entry middle final
      exact Sets.trans
    · exact List.forall₂_same.mpr fun _ _ => .kept

private theorem mem_insert {documents : List Value}
    (member : entry ∈ (memory.insert name documents).2.collection other) :
    entry ∈ memory.collection other ∨ other = name ∧ .object entry.document ∈ documents := by
  revert member
  refine insert_induction (motive := fun memory' => entry ∈ memory'.collection other → _) .inl ?_
  intro memory' fields id brought _ earlier member
  rw [collection_withCollection] at member
  split at member
  next same =>
    rcases mem_put member with old | filed
    · exact earlier (same ▸ old)
    · exact .inr ⟨same, filed ▸ brought⟩
  · exact earlier member

end Memory

namespace PlannedStore

variable {store : PlannedStore} {name : String} {entry : Entry}

/-- The document is among those that are delivered into the collection. -/
def Brings (deliveries : List PlannedDelivery) (name : String) (document : Fields) : Prop :=
  ∃ delivery ∈ deliveries, delivery.collection = name ∧ .object document ∈ delivery.documents

/-- Whatever a delivery files, and also where it breaks off, the entries are those from before or hold documents that
it brought. -/
theorem leaves_deliver_entries {deliveries : List PlannedDelivery} :
    (deliver deliveries).Leaves store fun _ final => ∀ entry ∈ final.memory.collection name,
      entry ∈ store.memory.collection name ∨ Brings deliveries name entry.document := by
  induction deliveries generalizing store with
  | nil =>
    intro entry member
    exact .inl member
  | cons delivery rest ih =>
    have here (entry : Entry)
        (member : entry ∈ (store.memory.insert delivery.collection delivery.documents).2.collection name) :
        entry ∈ store.memory.collection name ∨ Brings (delivery :: rest) name entry.document := by
      rcases Memory.mem_insert member with before | ⟨same, brought⟩
      · exact .inl before
      · exact .inr ⟨delivery, List.mem_cons_self, same.symm, brought⟩
    rcases inserted : store.memory.insert delivery.collection delivery.documents with ⟨outcome, memory⟩
    have ran : insert delivery.collection delivery.documents store = ⟨outcome, [], { store with memory }⟩ := by
      rw [insert, inserted]
    rw [inserted] at here
    rw [deliver_cons, Action.leaves_bind, Action.leaves_of_run ran]
    cases outcome with
    | error failure => exact here
    | ok _ =>
      rw [Action.resumes_ok]
      apply ih.mono
      intro _ final left entry member
      rcases left entry member with before | ⟨later, inside, brought⟩
      · exact here entry before
      · exact .inr ⟨later, List.mem_cons_of_mem _ inside, brought⟩

end PlannedStore

end MailSearch

import Mathlib.Data.List.Nodup
import MailSearch.Proofs.IdOrder
import MailSearch.Store.Memory

/-! Collections whose documents have whole numbers and texts for ids, no two of them filed under the same one. -/

namespace MailSearch

/-- The ids that documents are given: whole numbers and texts. -/
def Value.IsPlain (id : Value) : Prop := ∃ kind : IdKind, kind.Has id

namespace Value.IsPlain

variable {a b : Value}

theorem agrees_iff (first : a.IsPlain) (second : b.IsPlain) : a.agrees b = true ↔ a = b := by
  obtain ⟨kind, one⟩ := first
  obtain ⟨kind', other⟩ := second
  cases one with
  | number n =>
    cases other with
    | number m => exact IdKind.agrees_iff (.number n) (.number m)
    | text t => simp [Value.agrees, Value.quantity?]
  | text s =>
    cases other with
    | number m => simp [Value.agrees, Value.quantity?]
    | text t => simp [Value.agrees]

@[simp] theorem number (n : Int) : (Value.int n).IsPlain := ⟨.number, .number n⟩

@[simp] theorem text (s : String) : (Value.text s).IsPlain := ⟨.text, .text s⟩

theorem isHashable (id : a.IsPlain) : a.isHashable = true := by
  obtain ⟨kind, named⟩ := id
  exact named.isHashable

end Value.IsPlain

namespace Collection

/-- Documents with plain ids under plain keys, no two of them under the same key. -/
structure Keyed (collection : Collection) : Prop where
  keys : ∀ entry ∈ collection, entry.key.IsPlain
  ids : ∀ entry ∈ collection, ∃ id, entry.document.get? "id" = some id ∧ id.IsPlain
  distinct : (collection.map Entry.key).Nodup

/-- Every document holds the id that it is filed under. -/
def HoldsOwnIds (collection : Collection) : Prop :=
  ∀ entry ∈ collection, entry.document.get? "id" = some entry.key

variable {collection before after : Collection} {entry : Entry} {id : Value} {document news : Fields}

theorem find?_of_split (absent : ∀ other ∈ before, other.key.agrees id = false) (here : entry.key.agrees id = true) :
    (before ++ entry :: after : Collection).find? id = some entry.document := by
  induction before with
  | nil => simp [find?, here]
  | cons first rest ih =>
    obtain ⟨other, later⟩ := List.forall_mem_cons.mp absent
    simpa [find?, other] using ih later

theorem put_of_split (absent : ∀ other ∈ before, other.key.agrees id = false) (here : entry.key.agrees id = true)
    (document : Fields) :
    (before ++ entry :: after : Collection).put id document = before ++ ⟨entry.key, document⟩ :: after := by
  induction before with
  | nil => simp [put, here]
  | cons first rest ih =>
    obtain ⟨other, later⟩ := List.forall_mem_cons.mp absent
    simp [put, other, ih later]

/-- What holds of each entry still does once a document is filed, if it holds of the document in a new entry and in
the place of an older one. -/
theorem forall_put {property : Entry → Prop} (all : ∀ entry ∈ collection, property entry)
    (fresh : property ⟨id, document⟩)
    (replacing : ∀ entry ∈ collection, entry.key.agrees id = true → property ⟨entry.key, document⟩) :
    ∀ entry ∈ collection.put id document, property entry := by
  induction collection with
  | nil => simpa [put] using fresh
  | cons first rest ih =>
    obtain ⟨here, later⟩ := List.forall_mem_cons.mp all
    obtain ⟨replaced, others⟩ := List.forall_mem_cons.mp replacing
    simp only [put]
    split
    next addressed => exact List.forall_mem_cons.mpr ⟨replaced addressed, later⟩
    next => exact List.forall_mem_cons.mpr ⟨here, ih later others⟩

theorem Keyed.agrees_self (keyed : collection.Keyed) (there : entry ∈ collection) : entry.key.agrees entry.key = true :=
  ((keyed.keys entry there).agrees_iff (keyed.keys entry there)).mpr rfl

theorem Keyed.absent_before (keyed : collection.Keyed) (split : collection = before ++ entry :: after) :
    ∀ other ∈ before, other.key.agrees entry.key = false := by
  intro other earlier
  have there : other ∈ collection := split ▸ List.mem_append_left _ earlier
  have here : entry ∈ collection := split ▸ List.mem_append_right _ List.mem_cons_self
  have distinct := keyed.distinct
  rw [split, List.map_append, List.map_cons, List.nodup_append] at distinct
  rw [Bool.eq_false_iff, ne_eq, (keyed.keys other there).agrees_iff (keyed.keys entry here)]
  exact distinct.2.2 _ (List.mem_map.mpr ⟨other, earlier, rfl⟩) _ List.mem_cons_self

theorem Keyed.find? (keyed : collection.Keyed) (there : entry ∈ collection) :
    collection.find? entry.key = some entry.document := by
  obtain ⟨before, after, split⟩ := List.append_of_mem there
  rw [split]
  exact find?_of_split (keyed.absent_before split) (keyed.agrees_self there)

theorem nodup_keys_put (distinct : (collection.map Entry.key).Nodup) (self : id.agrees id = true) :
    ((collection.put id document).map Entry.key).Nodup := by
  rw [keys_put]
  split
  · exact distinct
  next absent =>
    refine List.nodup_append.mpr ⟨distinct, List.pairwise_singleton _ _, fun key there other new same => ?_⟩
    obtain rfl := List.mem_singleton.mp new
    exact absent (List.any_eq_true.mpr ⟨key, there, same ▸ self⟩)

theorem Keyed.put (keyed : collection.Keyed) (plain : id.IsPlain) (named : document.get? "id" = some id) :
    (collection.put id document).Keyed := by
  constructor
  · exact forall_put keyed.keys plain fun entry member _ => keyed.keys entry member
  · exact forall_put keyed.ids ⟨id, named, plain⟩ fun _ _ _ => ⟨id, named, plain⟩
  · exact nodup_keys_put keyed.distinct ((plain.agrees_iff plain).mpr rfl)

theorem HoldsOwnIds.put (own : collection.HoldsOwnIds) (keyed : collection.Keyed) (plain : id.IsPlain)
    (named : document.get? "id" = some id) : (collection.put id document).HoldsOwnIds := by
  refine forall_put own named fun entry member addressed => ?_
  rw [((keyed.keys entry member).agrees_iff plain).mp addressed]
  exact named

end Collection

end MailSearch

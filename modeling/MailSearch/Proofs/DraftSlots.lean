import MailSearch.FilterDraft
import MailSearch.Proofs.PredicateMeaning

/-! What a filter under construction stands for: the condition in each slot, everything required, and one
of the alternatives if there are any. The slots are a table without repeated names, so that looking a
slot up tells all there is to know of it. -/

namespace MailSearch

namespace Table

variable {α : Type}

theorem nodup_names_put {table : Table α} (distinct : (table.map Prod.fst).Nodup) (name : String)
    (entry : α) : ((table.put name entry).map Prod.fst).Nodup := by
  rw [names_put]
  split
  · exact distinct
  next absent =>
    rw [List.nodup_append]
    refine ⟨distinct, by simp, ?_⟩
    intro other member last same
    rw [List.mem_singleton.mp same]
    exact fun equal => absent (equal ▸ member)

theorem get?_eq_some_iff {table : Table α} (distinct : (table.map Prod.fst).Nodup) {name : String}
    {entry : α} : table.get? name = some entry ↔ (name, entry) ∈ table := by
  induction table with
  | nil => simp [get?]
  | cons first rest ih =>
    obtain ⟨key, old⟩ := first
    obtain ⟨absent, later⟩ := List.nodup_cons.mp distinct
    by_cases same : key = name
    · subst same
      have missing : (key, entry) ∉ rest := fun member => absent (List.mem_map.mpr ⟨_, member, rfl⟩)
      simp [get?, missing, eq_comm]
    · simp [get?, same, ih later, Ne.symm same]

theorem get?_eq_none_iff {table : Table α} {name : String} : table.get? name = none ↔ name ∉ table.map Prod.fst := by
  induction table with
  | nil => simp [get?]
  | cons first rest ih =>
    obtain ⟨key, entry⟩ := first
    by_cases same : key = name
    · simp [get?, same]
    · simpa [get?, same, Ne.symm same] using ih

end Table

namespace FilterDraft

variable {draft : FilterDraft} {condition : Predicate}

/-- A condition about a field that has a name goes into the slot of that name. -/
theorem slot_of_field {field : String} (about : condition.field? = some field) (named : field ≠ "") :
    slot condition = field := by
  unfold slot
  rw [about]
  split
  next same => exact absurd (Option.some.inj same) named
  next same => cases same
  next _ same => exact (Option.some.inj same).symm

theorem slot_words (query : String) : slot (.words query) = "text" := rfl

/-- No two slots have the same name. -/
def Distinct (draft : FilterDraft) : Prop := (draft.slots.map Prod.fst).Nodup

theorem distinct_empty : ({} : FilterDraft).Distinct := List.nodup_nil

theorem Distinct.set (distinct : draft.Distinct) (condition : Predicate) :
    (draft.set condition).Distinct :=
  Table.nodup_names_put distinct _ _

theorem Distinct.mergeRange (distinct : draft.Distinct) (field : String) (gte lte : Option Value) :
    (draft.mergeRange field gte lte).Distinct :=
  Table.nodup_names_put distinct _ _

theorem Distinct.congr {other : FilterDraft} (distinct : draft.Distinct) (same : other.slots = draft.slots) :
    other.Distinct := by
  unfold Distinct
  rw [same]
  exact distinct

theorem get?_congr {other : FilterDraft} (same : other.slots = draft.slots) (name : String) :
    other.get? name = draft.get? name := by
  unfold get?
  rw [same]

@[simp] theorem get?_empty (name : String) : ({} : FilterDraft).get? name = none := rfl

theorem get?_set (name : String) :
    (draft.set condition).get? name = if slot condition = name then some condition else draft.get? name := by
  simp only [set, get?]
  split
  next same => rw [same, Table.get?_put_self]
  next different => exact Table.get?_put_of_ne _ _ (Ne.symm different)

theorem get?_mergeRange (field : String) (gte lte : Option Value) (name : String) :
    (draft.mergeRange field gte lte).get? name =
      if field = name then some (.range field (mergedBounds (draft.get? field) gte lte))
      else draft.get? name := by
  simp only [mergeRange, get?]
  split
  next same => rw [← same, Table.get?_put_self]
  next different => exact Table.get?_put_of_ne _ _ (Ne.symm different)

@[simp] theorem get?_require (name : String) : (draft.require condition).get? name = draft.get? name := rfl

@[simp] theorem get?_either (name : String) : (draft.either condition).get? name = draft.get? name := rfl

theorem slots_either : (draft.either condition).slots = draft.slots := rfl

@[simp] theorem required_set : (draft.set condition).required = draft.required := rfl

@[simp] theorem required_mergeRange (field : String) (gte lte : Option Value) :
    (draft.mergeRange field gte lte).required = draft.required := rfl

@[simp] theorem required_require : (draft.require condition).required = draft.required ++ [condition] := rfl

@[simp] theorem required_either : (draft.either condition).required = draft.required := rfl

@[simp] theorem alternatives_set : (draft.set condition).alternatives = draft.alternatives := rfl

@[simp] theorem alternatives_mergeRange (field : String) (gte lte : Option Value) :
    (draft.mergeRange field gte lte).alternatives = draft.alternatives := rfl

@[simp] theorem alternatives_require : (draft.require condition).alternatives = draft.alternatives := rfl

@[simp] theorem alternatives_either :
    (draft.either condition).alternatives = draft.alternatives ++ [condition] := rfl

variable {record : Value}

/-- No condition of the draft goes without an answer on the record. -/
structure Settled (draft : FilterDraft) (record : Value) : Prop where
  slots : ∀ name condition, draft.get? name = some condition → condition.Settled record
  required : ∀ condition ∈ draft.required, condition.Settled record
  alternatives : ∀ condition ∈ draft.alternatives, condition.Settled record

theorem forall_slots_iff (distinct : draft.Distinct) {property : Predicate → Prop} :
    (∀ condition ∈ draft.slots.map Prod.snd, property condition) ↔
      ∀ name condition, draft.get? name = some condition → property condition := by
  constructor
  · intro all name condition found
    exact all _ (List.mem_map.mpr ⟨_, (Table.get?_eq_some_iff distinct).mp found, rfl⟩)
  · intro all condition member
    obtain ⟨⟨name, _⟩, entry, rfl⟩ := List.mem_map.mp member
    exact all name _ ((Table.get?_eq_some_iff distinct).mpr entry)

theorem Settled.filter (settled : draft.Settled record) (distinct : draft.Distinct) :
    draft.filter.Settled record := by
  apply Predicate.settled_all
  simp only [clauses, List.forall_mem_append]
  refine ⟨⟨(forall_slots_iff distinct).mpr settled.slots, settled.required⟩, ?_⟩
  split
  · simp
  · intro clause member
    rw [List.mem_singleton.mp member]
    exact Predicate.settled_any settled.alternatives

/-- A record satisfies the finished filter when it satisfies the condition in each slot, all that is
required, and one of the alternatives if there are any. -/
theorem filter_holds_iff (distinct : draft.Distinct) (settled : draft.Settled record) :
    draft.filter.Holds record ↔
      (∀ name condition, draft.get? name = some condition → condition.Holds record) ∧
      (∀ condition ∈ draft.required, condition.Holds record) ∧
      (draft.alternatives ≠ [] → ∃ condition ∈ draft.alternatives, condition.Holds record) := by
  rw [filter, Predicate.holds_all_iff]
  simp only [clauses, List.forall_mem_append, forall_slots_iff distinct, and_assoc]
  refine and_congr_right fun _ => and_congr_right fun _ => ?_
  by_cases none : draft.alternatives = []
  · simp [none]
  · simp [none, Predicate.holds_any_iff settled.alternatives]

end FilterDraft

end MailSearch

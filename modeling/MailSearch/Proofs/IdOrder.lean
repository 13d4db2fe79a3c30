import MailSearch.Predicate.Matching
import MailSearch.Store.Sorting

/-! The order of ids of one kind: whole numbers, or texts. Ids of a kind are totally ordered, agree as keys
only when they are equal, and a list that is sorted by them is in order. -/

namespace MailSearch

/-- The kinds of id that the documents of a collection may have. -/
inductive IdKind where
  | number
  | text
  deriving DecidableEq, Repr

/-- The id is of the kind. -/
inductive IdKind.Has : IdKind → Value → Prop where
  | number (n : Int) : Has .number (.int n)
  | text (s : String) : Has .text (.text s)

namespace Value

/-- One id stands before another. -/
def Precedes (a b : Value) : Prop := a.compareWith b = .ordered .lt

instance (a b : Value) : Decidable (a.Precedes b) := inferInstanceAs (Decidable (_ = _))

theorem compareWith_int (a b : Int) : (Value.int a).compareWith (.int b) = .ordered (compare a b) := by
  simp only [compareWith, quantity?, Quantity.ofInt, Quantity.compare?, Comparison.ofNumbers, Option.map,
    Option.getD, Rat.intCast_lt_intCast, Rat.intCast_inj]
  rfl

private theorem compareWith_text (a b : String) : (Value.text a).compareWith (.text b) = .ordered (compare a b) := by
  simp only [compareWith]

end Value

namespace IdKind

variable {kind : IdKind} {a b c : Value}

/-- Two ids of a kind have an order, and it tells whether they are equal. -/
theorem compareWith_eq (first : kind.Has a) (second : kind.Has b) :
    ∃ order, a.compareWith b = .ordered order ∧ b.compareWith a = .ordered order.swap ∧
      (order = .eq ↔ a = b) := by
  cases first with
  | number n =>
    cases second with
    | number m =>
      rw [Value.compareWith_int, Value.compareWith_int, Std.OrientedOrd.eq_swap (a := m)]
      exact ⟨_, rfl, rfl, by simp⟩
  | text s =>
    cases second with
    | text t =>
      rw [Value.compareWith_text, Value.compareWith_text, Std.OrientedOrd.eq_swap (a := t)]
      exact ⟨_, rfl, rfl, by simp⟩

theorem precedes_trans (first : kind.Has a) (second : kind.Has b) (third : kind.Has c)
    (before : a.Precedes b) (after : b.Precedes c) : a.Precedes c := by
  cases first with
  | number n =>
    cases second with
    | number m =>
      cases third with
      | number k =>
        simp only [Value.Precedes, Value.compareWith_int, Value.Comparison.ordered.injEq] at before after ⊢
        exact Std.TransCmp.lt_trans before after
  | text s =>
    cases second with
    | text t =>
      cases third with
      | text u =>
        simp only [Value.Precedes, Value.compareWith_text, Value.Comparison.ordered.injEq] at before after ⊢
        exact Std.TransCmp.lt_trans before after

theorem not_precedes_self (id : kind.Has a) : ¬a.Precedes a := by
  obtain ⟨order, compared, -, equal⟩ := compareWith_eq id id
  rw [equal.mpr rfl] at compared
  simp [Value.Precedes, compared]

theorem precedes_asymm (first : kind.Has a) (second : kind.Has b) (before : a.Precedes b) : ¬b.Precedes a :=
  fun after => not_precedes_self first (precedes_trans first second first before after)

theorem eq_of_not_precedes (first : kind.Has a) (second : kind.Has b) (before : ¬a.Precedes b)
    (after : ¬b.Precedes a) : a = b := by
  obtain ⟨order, compared, swapped, equal⟩ := compareWith_eq first second
  refine equal.mp ?_
  cases order with
  | lt => exact absurd compared before
  | eq => rfl
  | gt => exact absurd swapped after

private theorem precedes_of_not_before (first : kind.Has a) (second : kind.Has b) (third : kind.Has c)
    (before : a.Precedes b) (least : ¬c.Precedes b) : a.Precedes c := by
  by_cases more : b.Precedes c
  · exact precedes_trans first second third before more
  · rw [eq_of_not_precedes third second least more]
    exact before

private theorem compareWith_cases (first : kind.Has a) (second : kind.Has b) :
    a.compareWith b = .ordered .lt ∧ a.Precedes b ∨ a.compareWith b = .ordered .eq ∧ a = b ∨
      a.compareWith b = .ordered .gt ∧ b.Precedes a := by
  obtain ⟨order, compared, swapped, equal⟩ := compareWith_eq first second
  cases order with
  | lt => exact .inl ⟨compared, compared⟩
  | eq => exact .inr (.inl ⟨compared, equal.mp rfl⟩)
  | gt => exact .inr (.inr ⟨compared, swapped⟩)

theorem agrees_iff (first : kind.Has a) (second : kind.Has b) : a.agrees b = true ↔ a = b := by
  cases first with
  | number n =>
    cases second with
    | number m =>
      simp only [Value.agrees, Value.quantity?, Quantity.ofInt, Quantity.compare?, Rat.intCast_lt_intCast,
        Rat.intCast_inj, Value.int.injEq]
      split
      · simp; omega
      · simp
  | text s =>
    cases second with
    | text t => simp [Value.agrees]

theorem Has.isHashable (id : kind.Has a) : a.isHashable = true := by
  cases id <;> rfl

theorem Has.given?_eq (id : kind.Has a) : a.given? = some a := by
  cases id <;> rfl

theorem Has.candidates_eq (id : kind.Has a) : Value.candidates (some a) = [a] := by
  cases id <;> rfl

theorem passes_within_iff (first : kind.Has a) (second : kind.Has b) :
    Bounds.passes a (some b) (· == .gt) = true ↔ ¬b.Precedes a := by
  rcases compareWith_cases first second with ⟨compared, less⟩ | ⟨compared, rfl⟩ | ⟨compared, more⟩
  · simp [Bounds.passes, compared, precedes_asymm first second less]
  · simp [Bounds.passes, compared, not_precedes_self first]
  · simp [Bounds.passes, compared, more]

private theorem passes_after_iff (first : kind.Has a) (second : kind.Has b) :
    Bounds.passes a (some b) (· != .gt) = true ↔ b.Precedes a := by
  rcases compareWith_cases first second with ⟨compared, less⟩ | ⟨compared, rfl⟩ | ⟨compared, more⟩
  · simp [Bounds.passes, compared, precedes_asymm first second less]
  · simp [Bounds.passes, compared, not_precedes_self first]
  · simp [Bounds.passes, compared, more]

theorem passes_after_last_iff (own : kind.Has a) {last : Option Value} (bounded : ∀ id, last = some id → kind.Has id) :
    Bounds.passes a last (· != .gt) = true ↔ ∀ id, last = some id → id.Precedes a := by
  cases last with
  | none => simp [Bounds.passes]
  | some id => simp [passes_after_iff own (bounded id rfl)]

section Sorting

variable {α : Type}

theorem areOrdered (kind : IdKind) (ids : List Value) (all : ∀ id ∈ ids, kind.Has id) : Value.areOrdered ids = true := by
  have same : ∃ ordered, ∀ id ∈ ids, id.orderedKind? = some ordered := by
    cases kind with
    | number => exact ⟨.number, fun id member => by cases all id member; rfl⟩
    | text => exact ⟨.text, fun id member => by cases all id member; rfl⟩
  obtain ⟨ordered, same⟩ := same
  cases ids with
  | nil => rfl
  | cons first rest =>
    obtain ⟨here, later⟩ := List.forall_mem_cons.mp same
    simp only [Value.areOrdered, here, Option.isSome_some, Bool.true_and, List.all_eq_true]
    intro id member
    simp [later id member]

theorem allows_ascending_iff : SortOrder.ascending.allows a b = true ↔ ¬b.Precedes a := by
  simp [SortOrder.allows, Value.Precedes]

theorem allows_descending_iff : SortOrder.descending.allows a b = true ↔ ¬a.Precedes b := by
  simp [SortOrder.allows, Value.Precedes]

private theorem allows_trans (order : SortOrder) (first : kind.Has a) (second : kind.Has b) (third : kind.Has c)
    (before : order.allows a b = true) (after : order.allows b c = true) : order.allows a c = true := by
  cases order with
  | ascending =>
    rw [allows_ascending_iff] at before after ⊢
    exact fun less => after (precedes_of_not_before third first second less before)
  | descending =>
    rw [allows_descending_iff] at before after ⊢
    exact fun less => before (precedes_of_not_before first third second less after)

theorem pairwise_mergeSort (kind : IdKind) (order : SortOrder) (items : List (Value × α))
    (all : ∀ item ∈ items, kind.Has item.1) :
    (items.mergeSort fun a b => order.allows a.1 b.1).Pairwise fun a b => order.allows a.1 b.1 = true := by
  let listed := items.attachWith (fun item => kind.Has item.1) all
  have sorted : (listed.mergeSort fun a b => order.allows a.1.1 b.1.1).Pairwise
      fun a b => order.allows a.1.1 b.1.1 = true := by
    refine List.pairwise_mergeSort (fun a b c before after => ?_) (fun a b => ?_) listed
    · exact allows_trans order a.2 b.2 c.2 before after
    have orders : ¬a.1.1.Precedes b.1.1 ∨ ¬b.1.1.Precedes a.1.1 := by
      by_cases less : a.1.1.Precedes b.1.1
      · exact .inr (precedes_asymm a.2 b.2 less)
      · exact .inl less
    cases order with
    | ascending => simpa [allows_ascending_iff] using orders.symm
    | descending => simpa [allows_descending_iff] using orders
  have moved : (listed.mergeSort fun a b => order.allows a.1.1 b.1.1).map Subtype.val =
      (listed.map Subtype.val).mergeSort (fun a b => order.allows a.1 b.1) := by
    rw [List.map_mergeSort]
    exact fun _ _ _ _ => rfl
  have same : listed.map Subtype.val = items := List.attachWith_map_subtype_val all
  rw [← same, ← moved]
  exact List.pairwise_map.mpr sorted

end Sorting

end IdKind

end MailSearch

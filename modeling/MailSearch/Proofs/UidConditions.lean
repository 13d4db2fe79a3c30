import Mathlib.Data.List.Sort
import MailSearch.Proofs.IdOrder
import MailSearch.Proofs.PredicateMeaning
import MailSearch.Proofs.UidReading

/-! The conditions that expressions for message numbers put on a field. A record that holds a number in the field
satisfies the condition exactly when the expression stands for the number. -/

namespace MailSearch

theorem Text.pathNames_of_undotted {path : String} (undotted : '.' ∉ path.toList) : Text.pathNames path = [path] := by
  have whole : Text.sections '.' path.toList = [path.toList] :=
    Text.sections_eq_iff.mpr ⟨by simp, by simpa using undotted⟩
  rw [Text.pathNames, whole, List.map_singleton, String.ofList_toList]

@[simp] theorem Bounds.passes_none {value : Value} {refused : Ordering → Bool} :
    passes value none refused = true := rfl

namespace UidRange

/-- The number is in the set that was read. -/
def Includes (n : Int) : UidRange → Prop
  | .single uid => n = uid
  | .listed uids => ∃ uid ∈ uids, n = (uid : Nat)
  | .between low high => low ≤ n ∧ n ≤ high
  | .atLeast low => low ≤ n

variable {field : String} {n : Int}

private theorem candidatesAt_field (undotted : '.' ∉ field.toList) :
    (Value.object [(field, .int n)]).candidatesAt field = [.int n] := by
  rw [Value.candidatesAt, Value.at?_object (Text.pathNames_of_undotted undotted)]
  simp [Table.get?, Value.candidates]

private theorem passes_least_number {low : Nat} :
    Bounds.passes (.int n) (some (.int low)) (· == .lt) = true ↔ low ≤ n := by
  simp [Bounds.passes, Value.compareWith_int, compare_lt_iff_lt]

private theorem passes_most_number {high : Nat} :
    Bounds.passes (.int n) (some (.int high)) (· == .gt) = true ↔ n ≤ high := by
  simp [Bounds.passes, Value.compareWith_int, compare_gt_iff_gt]

private theorem agrees_number {m : Int} : (Value.int n).agrees (.int m) = true ↔ n = m :=
  (IdKind.agrees_iff (.number n) (.number m)).trans (iff_of_eq (Value.int.injEq n m))

/-- A number in the field satisfies the condition that it is in the set exactly when it is. -/
theorem holds_toPredicate_iff (undotted : '.' ∉ field.toList) (range : UidRange) :
    (range.toPredicate field).Holds (.object [(field, .int n)]) ↔ range.Includes n := by
  have offered := candidatesAt_field (n := n) undotted
  cases range with
  | single uid =>
    rw [toPredicate, Predicate.holds_eq_iff, Value.Offers, offered]
    simp [Value.same, Value.isUndefined, agrees_number, Includes]
  | listed uids =>
    rw [toPredicate, Predicate.holds_memberOf_iff, offered]
    simp [Predicate.isListed, agrees_number, Includes]
  | between low high =>
    rw [toPredicate, Predicate.holds_range_iff, offered]
    simp [Bounds.admits, passes_least_number, passes_most_number, Includes]
  | atLeast low =>
    rw [toPredicate, Predicate.holds_range_iff, offered]
    simp [Bounds.admits, passes_least_number, Includes]

private theorem settled_toPredicate (range : UidRange) (record : Value) : (range.toPredicate field).Settled record := by
  cases range <;> exact Predicate.settled_of_field rfl

end UidRange

namespace UidExpression

variable {n : Int} {field : String}

/-- What is read includes the numbers that the expression stands for. -/
theorem includes_range_iff (expression : UidExpression) : expression.range.Includes n ↔ expression.Contains n := by
  cases expression with
  | single => rfl
  | listed first second others =>
    simp only [range, UidRange.ofList, UidRange.Includes, Contains, List.mem_mergeSort, List.mem_map,
      exists_exists_and_eq_and]
  | between one other =>
    simp only [range, UidRange.ofEnds, Contains]
    split
    next same =>
      simp only [UidRange.Includes, same]
      omega
    next => simp [UidRange.Includes]
  | onwards => rfl

/-- The condition on a field that an expression gives: one number, an ascending list of all the numbers that are
written, or bounds of which the lower is less than the upper. -/
inductive Gives (field : String) : UidExpression → Predicate → Prop where
  | single (run : DigitRun) : Gives field (.single run) (.eq field (.int run.amount))
  | listed {first second : DigitRun} {others : List DigitRun} {uids : List Nat}
      (ascending : uids.Pairwise (· ≤ ·)) (all : uids.Perm ((first :: second :: others).map DigitRun.amount)) :
      Gives field (.listed first second others) (.memberOf field (uids.map fun (uid : Nat) => .int uid))
  | equal {one other : DigitRun} (same : one.amount = other.amount) :
      Gives field (.between one other) (.eq field (.int one.amount))
  | between {one other : DigitRun} {low high : Nat} (least : low = min one.amount other.amount)
      (most : high = max one.amount other.amount) (less : low < high) :
      Gives field (.between one other) (.range field { gte := some (.int low), lte := some (.int high) })
  | onwards (least : DigitRun) : Gives field (.onwards least) (.range field { gte := some (.int least.amount) })

private theorem gives_toPredicate (expression : UidExpression) :
    expression.Gives field (expression.range.toPredicate field) := by
  cases expression with
  | single run => exact .single run
  | listed first second others =>
    refine .listed ?_ (List.mergeSort_perm _ _)
    exact List.pairwise_mergeSort' (· ≤ ·) _
  | between one other =>
    simp only [range, UidRange.ofEnds]
    split
    next same => exact .equal same
    next differ => exact .between rfl rfl (by omega)
  | onwards least => exact .onwards least

/-- A text gives no condition exactly when it is of none of the forms. One that is of a form gives the condition of
that form, and a record that holds a number in the field satisfies it exactly when the expression stands for the
number. -/
theorem conditions_mean_their_expressions {expression : Option String}
    (readable : ∀ s, expression = some s → Numeral.Readable s) {field : String} (undotted : '.' ∉ field.toList) :
    (UidRange.predicate? expression field = .ok none ↔ ¬∃ known : UidExpression, expression = some known.text) ∧
    ∀ known : UidExpression, expression = some known.text → ∃ condition,
      UidRange.predicate? expression field = .ok (some condition) ∧ known.Gives field condition ∧
      ∀ n : Int, condition.Settled (.object [(field, .int n)]) ∧
        (condition.Holds (.object [(field, .int n)]) ↔ known.Contains n) := by
  have read (known : UidExpression) (written : expression = some known.text) :
      UidRange.predicate? expression field = .ok (some (known.range.toPredicate field)) := by
    subst written
    exact predicate?_of_not_overlong (not_overlong_of_readable readable) field
  refine ⟨⟨?_, ?_⟩, ?_⟩
  · intro nothing given
    obtain ⟨known, written⟩ := given
    cases nothing.symm.trans (read known written)
  · intro unknown
    exact predicate?_unknown (not_exists.mp unknown)
  · intro known written
    refine ⟨known.range.toPredicate field, read known written, known.gives_toPredicate, fun n => ⟨?_, ?_⟩⟩
    · exact UidRange.settled_toPredicate known.range _
    · exact (UidRange.holds_toPredicate_iff undotted known.range).trans known.includes_range_iff

/-- The numerals 3 and 12, the first with a leading zero. -/
def three : DigitRun := ⟨['0', '3'], nofun, by simp⟩

def twelve : DigitRun := ⟨['1', '2'], nofun, by simp⟩

theorem conditions_mean_their_expressions_of_a_reversed_range :
    Numeral.Readable "12:03" ∧ '.' ∉ "uid".toList ∧ ∃ condition,
      UidRange.predicate? (some "12:03") "uid" = .ok (some condition) ∧ (between twelve three).Gives "uid" condition ∧
      ∀ n : Int, condition.Settled (.object [("uid", .int n)]) ∧
        (condition.Holds (.object [("uid", .int n)]) ↔ (between twelve three).Contains n) := by
  have readable : Numeral.Readable "12:03" := Numeral.readable_of_length_le (by decide)
  have undotted : '.' ∉ "uid".toList := by decide
  refine ⟨readable, undotted, ?_⟩
  exact (conditions_mean_their_expressions (by rintro _ ⟨⟩; exact readable) undotted).2 (between twelve three) rfl

end UidExpression

end MailSearch

import Mathlib.Data.Nat.Digits.Defs
import Mathlib.Data.Set.List
import MailSearch.UidRange

/-! The written forms of expressions for message numbers, as a grammar, and what reading makes of each: an expression
of one of the forms gives its numbers, unless a numeral in it is too long, and any other text gives none. -/

namespace MailSearch

namespace Text

variable {separator : Char}

private theorem openSections_append {run chars : List Char} (plain : separator ∉ run) :
    openSections separator (run ++ chars) =
      (run ++ (openSections separator chars).1, (openSections separator chars).2) := by
  induction run with
  | nil => rfl
  | cons c rest ih =>
    obtain ⟨other, plain⟩ := not_or.mp (List.mem_cons.not.mp plain)
    rw [List.cons_append, openSections, ih plain]
    simp [Ne.symm other]

private theorem openSections_joined {later : List (List Char)} (plain : ∀ part ∈ later, separator ∉ part) :
    openSections separator (later.flatMap (separator :: ·)) = ([], later) := by
  induction later with
  | nil => rfl
  | cons part rest ih =>
    obtain ⟨here, others⟩ := List.forall_mem_cons.mp plain
    rw [List.flatMap_cons, List.cons_append, openSections, openSections_append here, ih others]
    simp

private theorem joined_openSections (chars : List Char) :
    chars = (openSections separator chars).1 ++ (openSections separator chars).2.flatMap (separator :: ·) ∧
      separator ∉ (openSections separator chars).1 ∧ ∀ part ∈ (openSections separator chars).2, separator ∉ part := by
  induction chars with
  | nil => simp [openSections]
  | cons c rest ih =>
    obtain ⟨whole, first, later⟩ := ih
    simp only [openSections]
    split
    next same =>
      subst same
      refine ⟨?_, nofun, List.forall_mem_cons.mpr ⟨first, later⟩⟩
      simpa using whole
    next other =>
      refine ⟨?_, ?_, later⟩
      · simpa using whole
      · simpa [Ne.symm other] using first

/-- The sections of a text are what joins to it by the separator and does not hold that. -/
theorem sections_eq_iff {chars first : List Char} {later : List (List Char)} :
    sections separator chars = first :: later ↔
      chars = first ++ later.flatMap (separator :: ·) ∧ ∀ part ∈ first :: later, separator ∉ part := by
  constructor
  · intro divided
    obtain ⟨whole, plain⟩ := @joined_openSections separator chars
    rw [sections, List.cons.injEq] at divided
    rw [divided.1, divided.2] at whole plain
    exact ⟨whole, List.forall_mem_cons.mpr plain⟩
  · intro joined
    obtain ⟨rfl, plain⟩ := joined
    obtain ⟨here, others⟩ := List.forall_mem_cons.mp plain
    simp [sections, openSections_append here, openSections_joined others]

end Text

/-- A numeral: a run of ASCII digits, at least one. -/
structure DigitRun where
  chars : List Char
  nonempty : chars ≠ []
  digits : ∀ c ∈ chars, '0' ≤ c ∧ c ≤ '9'

namespace DigitRun

/-- The number that the digits write, the last of them being the least. -/
def amount (run : DigitRun) : Nat := Nat.ofDigits 10 (run.chars.reverse.map fun c => c.toNat - '0'.toNat)

def IsLong (run : DigitRun) : Prop := Numeral.digitLimit < run.chars.length

instance (run : DigitRun) : Decidable run.IsLong := inferInstanceAs (Decidable (_ < _))

variable {run : DigitRun}

private theorem isNumeral_iff {chars : List Char} :
    UidRange.isNumeral chars = true ↔ ∃ run : DigitRun, run.chars = chars := by
  simp only [UidRange.isNumeral, Bool.and_eq_true, Bool.not_eq_true', List.isEmpty_eq_false_iff, List.all_eq_true,
    Text.isAsciiDigit, decide_eq_true_eq]
  constructor
  · intro numeral
    exact ⟨⟨chars, numeral.1, numeral.2⟩, rfl⟩
  · rintro ⟨run, rfl⟩
    exact ⟨run.nonempty, run.digits⟩

private theorem isNumeral (run : DigitRun) : UidRange.isNumeral run.chars = true := isNumeral_iff.mpr ⟨run, rfl⟩

private theorem not_mem {c : Char} (other : ¬('0' ≤ c ∧ c ≤ '9')) :
    c ∉ run.chars := fun member => other (run.digits c member)

private theorem natOfDigits_eq (digits : List Nat) : Numeral.natOfDigits digits = Nat.ofDigits 10 digits.reverse := by
  rw [Numeral.natOfDigits, Nat.ofDigits_eq_foldr, List.foldr_reverse]
  simp [Nat.add_comm]

/-- A numeral that is not too long is read as the number that it writes. -/
theorem readDigits (run : DigitRun) :
    Numeral.readDigits run.chars = if run.IsLong then .error (.tooLong run.chars.length) else .ok run.amount := by
  unfold Numeral.readDigits IsLong amount
  rw [natOfDigits_eq, List.map_reverse]
  rfl

end DigitRun

/-- An expression for message numbers, by its form: a number, a list of two or more, a range between two ends, or one
without an end. -/
inductive UidExpression where
  | single (run : DigitRun)
  | listed (first second : DigitRun) (others : List DigitRun)
  | between (one other : DigitRun)
  | onwards (least : DigitRun)

namespace UidExpression

/-- The numerals of an expression, in the order in which they are written. -/
def runs : UidExpression → List DigitRun
  | single run => [run]
  | listed first second others => first :: second :: others
  | between one other => [one, other]
  | onwards least => [least]

/-- How an expression is written. -/
def chars : UidExpression → List Char
  | single run => run.chars
  | listed first second others => first.chars ++ (second :: others).flatMap fun run => ',' :: run.chars
  | between one other => one.chars ++ ':' :: other.chars
  | onwards least => least.chars ++ [':', '*']

def text (expression : UidExpression) : String := String.ofList expression.chars

/-- The numbers that an expression stands for. The ends of a range may come in either order. -/
def Contains (n : Int) : UidExpression → Prop
  | single run => n = run.amount
  | listed first second others => ∃ run ∈ first :: second :: others, n = run.amount
  | between one other => min one.amount other.amount ≤ n ∧ n ≤ max one.amount other.amount
  | onwards least => least.amount ≤ n

/-- What an expression is read as. -/
def range : UidExpression → UidRange
  | single run => .single run.amount
  | listed first second others => .ofList ((first :: second :: others).map DigitRun.amount)
  | between one other => .ofEnds one.amount other.amount
  | onwards least => .atLeast least.amount

/-- The first numeral of the expression that is too long. -/
def firstLong? (expression : UidExpression) : Option DigitRun := expression.runs.find? (·.IsLong)

theorem isLong_of_firstLong? {expression : UidExpression} {run : DigitRun} (first : expression.firstLong? = some run) :
    run.IsLong := by
  simpa using List.find?_some first

variable {chars : List Char}

private theorem mapM_readDigits (runs : List DigitRun) :
    (runs.map DigitRun.chars).mapM Numeral.readDigits =
      match runs.find? (·.IsLong) with
      | some run => .error (.tooLong run.chars.length)
      | none => .ok (runs.map DigitRun.amount) := by
  induction runs with
  | nil => rfl
  | cons run rest ih =>
    rw [List.map_cons, List.mapM_cons, run.readDigits, ih]
    by_cases long : run.IsLong
    · simp [long, bind, Except.bind]
    · cases found : rest.find? (·.IsLong) <;> simp [long, found, bind, Except.bind, pure, Except.pure]

private theorem not_isNumeral {c : Char} (member : c ∈ chars) (other : ¬('0' ≤ c ∧ c ≤ '9')) :
    UidRange.isNumeral chars = false := by
  by_contra numeral
  obtain ⟨run, rfl⟩ := DigitRun.isNumeral_iff.mp (Bool.not_eq_false _ ▸ numeral)
  exact run.not_mem other member

private theorem sections_listed (first : DigitRun) (others : List DigitRun) :
    Text.sections ',' (first.chars ++ others.flatMap fun run => ',' :: run.chars) =
      (first :: others).map DigitRun.chars := by
  refine Text.sections_eq_iff.mpr ⟨by rw [List.flatMap_map], ?_⟩
  have plain (run : DigitRun) : ',' ∉ run.chars := run.not_mem (by decide)
  simp [plain]

private theorem sections_ends (low : DigitRun) {high : List Char} (plain : ':' ∉ high) :
    Text.sections ':' (low.chars ++ ':' :: high) = [low.chars, high] := by
  refine Text.sections_eq_iff.mpr ⟨by simp, ?_⟩
  have plainLow : ':' ∉ low.chars := low.not_mem (by decide)
  simp [plain, plainLow]

private theorem sections_comma {high : List Char} (low : DigitRun) (plain : ',' ∉ high) :
    Text.sections ',' (low.chars ++ ':' :: high) = [low.chars ++ ':' :: high] := by
  refine Text.sections_eq_iff.mpr ⟨by simp, ?_⟩
  have plainLow : ',' ∉ low.chars := low.not_mem (by decide)
  simp [plain, plainLow]

/-- Reading an expression gives its numbers, or the length of the first numeral that is too long. -/
theorem read_chars (expression : UidExpression) :
    UidRange.read expression.chars =
      match expression.firstLong? with
      | some run => .error (.tooLong run.chars.length)
      | none => .ok (some expression.range) := by
  cases expression with
  | single run =>
    unfold UidRange.read
    by_cases long : run.IsLong <;>
      simp [chars, firstLong?, runs, range, run.isNumeral, run.readDigits, long, Except.map]
  | listed first second others =>
    have comma : ',' ∈ (listed first second others).chars := by simp [chars]
    have whole : UidRange.isNumeral (listed first second others).chars = false := not_isNumeral comma (by decide)
    have parts : Text.sections ',' (listed first second others).chars =
        (first :: second :: others).map DigitRun.chars := sections_listed first (second :: others)
    have all : ((first :: second :: others).map DigitRun.chars).all UidRange.isNumeral = true := by
      simp [DigitRun.isNumeral]
    unfold UidRange.read
    rw [whole, parts, all, mapM_readDigits]
    unfold firstLong? runs range
    simp only [Bool.false_eq_true, if_false, if_true]
    cases (first :: second :: others).find? (·.IsLong) <;> rfl
  | between one other =>
    have colon : ':' ∈ (between one other).chars := by simp [chars]
    have whole : UidRange.isNumeral (between one other).chars = false := not_isNumeral colon (by decide)
    have undivided : Text.sections ',' (between one other).chars = [(between one other).chars] :=
      sections_comma one (other.not_mem (by decide))
    have ends : Text.sections ':' (between one other).chars = [one.chars, other.chars] :=
      sections_ends one (other.not_mem (by decide))
    have unbounded : other.chars ≠ ['*'] := by
      intro star
      have member : '*' ∈ other.chars := by simp [star]
      exact other.not_mem (by decide) member
    unfold UidRange.read
    rw [undivided, ends]
    simp only [whole, List.all_cons, List.all_nil, one.isNumeral, other.isNumeral, unbounded, one.readDigits,
      other.readDigits, firstLong?, runs, range]
    by_cases long : one.IsLong
    · simp [long, bind, Except.bind]
    · by_cases longOther : other.IsLong <;> simp [long, longOther, bind, Except.bind, pure, Except.pure]
  | onwards least =>
    have colon : ':' ∈ (onwards least).chars := by simp [chars]
    have whole : UidRange.isNumeral (onwards least).chars = false := not_isNumeral colon (by decide)
    have undivided : Text.sections ',' (onwards least).chars = [(onwards least).chars] :=
      sections_comma least (by decide)
    have ends : Text.sections ':' (onwards least).chars = [least.chars, ['*']] := sections_ends least (by decide)
    unfold UidRange.read
    rw [undivided, ends]
    simp only [whole, List.all_cons, List.all_nil, least.isNumeral, least.readDigits, firstLong?, runs, range]
    by_cases long : least.IsLong <;> simp [long, Except.map]

/-- What is written in none of the forms is read as no expression. -/
theorem read_unknown (unknown : ∀ expression : UidExpression, expression.chars ≠ chars) :
    UidRange.read chars = .ok none := by
  have single (run : DigitRun) : run.chars ≠ chars := unknown (.single run)
  unfold UidRange.read
  split
  next numeral =>
    obtain ⟨run, written⟩ := DigitRun.isNumeral_iff.mp numeral
    exact absurd written (single run)
  split
  next all =>
    obtain ⟨runs, parts⟩ : Text.sections ',' chars ∈ Set.range (List.map DigitRun.chars) := by
      rw [Set.range_list_map]
      exact fun part member => DigitRun.isNumeral_iff.mp (List.all_eq_true.mp all part member)
    match runs, parts with
    | [run], parts =>
      obtain ⟨joined, -⟩ := Text.sections_eq_iff.mp parts.symm
      exact absurd (by simpa using joined.symm) (single run)
    | first :: second :: others, parts =>
      obtain ⟨joined, -⟩ := Text.sections_eq_iff.mp parts.symm
      refine absurd ?_ (unknown (.listed first second others))
      rw [joined, List.flatMap_map]
      rfl
  split
  next low high ends =>
    obtain ⟨joined, -⟩ := Text.sections_eq_iff.mp ends
    replace joined : chars = low ++ ':' :: high := by simpa using joined
    split
    · rfl
    next numeral =>
      obtain ⟨least, rfl⟩ := DigitRun.isNumeral_iff.mp (by simpa using numeral)
      split
      next star => exact absurd (by rw [joined, star]; rfl) (unknown (.onwards least))
      split
      · rfl
      next numeralHigh =>
        obtain ⟨other, rfl⟩ := DigitRun.isNumeral_iff.mp (by simpa using numeralHigh)
        exact absurd joined.symm (unknown (.between least other))
  next => rfl

variable {expression : Option String} {field : String}

theorem predicate?_text (expression : UidExpression) (field : String) :
    UidRange.predicate? (some expression.text) field =
      match expression.firstLong? with
      | some run => .error (.badValue (.ofNumeral expression.text (.tooLong run.chars.length)))
      | none => .ok (some (expression.range.toPredicate field)) := by
  simp only [UidRange.predicate?, text, String.toList_ofList, read_chars]
  cases expression.firstLong? <;> rfl

theorem predicate?_unknown (unknown : ∀ known : UidExpression, expression ≠ some known.text) :
    UidRange.predicate? expression field = .ok none := by
  cases expression with
  | none => rfl
  | some s =>
    have unread : UidRange.read s.toList = .ok none := by
      refine read_unknown fun known written => unknown known ?_
      rw [text, written, String.ofList_toList]
    simp only [UidRange.predicate?, unread, Option.map_none]

end UidExpression

end MailSearch

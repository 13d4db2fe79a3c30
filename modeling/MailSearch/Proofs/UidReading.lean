import MailSearch.CriteriaFilter
import MailSearch.Proofs.UidExpressions

/-! Expressions for message numbers are read without a fault unless they are of a known form and a numeral in them is
too long, and so the criteria with such an expression can be drafted. -/

namespace MailSearch

/-- No run of digits in the text is too long to be read as a numeral. -/
def Numeral.Readable (s : String) : Prop :=
  ∀ digits, digits <:+: s.toList → digits.all Text.isAsciiDigit = true → digits.length ≤ Numeral.digitLimit

theorem Numeral.readable_of_length_le {s : String} (short : s.toList.length ≤ Numeral.digitLimit) :
    Numeral.Readable s :=
  fun _ inside _ => Nat.le_trans inside.length_le short

namespace UidExpression

private theorem isInfix_of_mem_runs {known : UidExpression} {run : DigitRun} (member : run ∈ known.runs) :
    run.chars <:+: known.chars := by
  cases known with
  | single => exact List.mem_singleton.mp member ▸ List.infix_refl _
  | listed first second others =>
    rcases List.mem_cons.mp member with rfl | later
    · exact (List.prefix_append _ _).isInfix
    · have written : ',' :: run.chars <:+: (second :: others).flatMap fun run => ',' :: run.chars := by
        rw [List.flatMap_def]
        exact List.infix_of_mem_flatten (List.mem_map_of_mem later)
      exact ((List.suffix_cons _ _).isInfix.trans written).trans (List.suffix_append _ _).isInfix
  | between one other =>
    rcases (by simpa [runs] using member : run = one ∨ run = other) with rfl | rfl
    · exact (List.prefix_append _ _).isInfix
    · exact ((List.suffix_cons _ _).trans (List.suffix_append _ _)).isInfix
  | onwards => exact List.mem_singleton.mp member ▸ (List.prefix_append _ _).isInfix

/-- The expression is of one of the forms and a numeral in it is too long. -/
def Overlong (expression : Option String) : Prop :=
  ∃ known : UidExpression, expression = some known.text ∧ ∃ run ∈ known.runs, run.IsLong

variable {expression : Option String}

theorem not_overlong_of_readable (readable : ∀ s, expression = some s → Numeral.Readable s) : ¬Overlong expression := by
  rintro ⟨known, rfl, run, member, long⟩
  have inside : run.chars <:+: known.text.toList := by
    rw [text, String.toList_ofList]
    exact isInfix_of_mem_runs member
  have digits : run.chars.all Text.isAsciiDigit = true := by
    simpa [Text.isAsciiDigit] using run.digits
  exact absurd (readable known.text rfl run.chars inside digits) (Nat.not_le.mpr long)

theorem predicate?_of_overlong (overlong : Overlong expression) (field : String) :
    ∃ digits, Numeral.digitLimit < digits ∧
      UidRange.predicate? expression field = .error (.badValue (.longNumeral digits)) := by
  obtain ⟨known, rfl, run, member, long⟩ := overlong
  rw [known.predicate?_text]
  cases first : known.firstLong? with
  | none => exact absurd (decide_eq_true long) (List.find?_eq_none.mp first run member)
  | some run => exact ⟨run.chars.length, isLong_of_firstLong? first, rfl⟩

theorem predicate?_of_not_overlong {known : UidExpression} (readable : ¬Overlong (some known.text)) (field : String) :
    UidRange.predicate? (some known.text) field = .ok (some (known.range.toPredicate field)) := by
  have short : known.firstLong? = none := by
    refine List.find?_eq_none.mpr fun run member long => ?_
    exact readable ⟨known, rfl, run, member, of_decide_eq_true long⟩
  rw [known.predicate?_text, short]

theorem exists_predicate?_iff (field : String) :
    (∃ condition, UidRange.predicate? expression field = .ok condition) ↔ ¬Overlong expression := by
  constructor
  · intro read overlong
    obtain ⟨condition, read⟩ := read
    obtain ⟨digits, -, failed⟩ := predicate?_of_overlong overlong field
    cases read.symm.trans failed
  · intro readable
    by_cases known : ∃ known : UidExpression, expression = some known.text
    · obtain ⟨known, rfl⟩ := known
      exact ⟨_, predicate?_of_not_overlong readable field⟩
    · exact ⟨none, predicate?_unknown (not_exists.mp known)⟩

end UidExpression

namespace Criteria

open UidExpression

variable {criteria : Criteria}

/-- The expression for message numbers is read only where a scope is settled. -/
theorem exists_draft_iff {user : String} {scope : Option MailboxScope} :
    (∃ draft, criteria.draft user scope = .ok draft) ↔ ¬(scope.isSome = true ∧ Overlong criteria.uids) := by
  rw [not_and, ← exists_predicate?_iff "uid"]
  unfold draft
  cases scope with
  | none => exact ⟨nofun, fun _ => ⟨_, rfl⟩⟩
  | some scope =>
    simp only [addScope]
    cases UidRange.predicate? criteria.uids "uid" <;> simp [Except.map]

/-- A condition on message numbers that can be read lets the whole draft be made. -/
theorem draft_of_readable (readable : ∀ s, criteria.uids = some s → Numeral.Readable s) (user : String)
    (scope : Option MailboxScope) : ∃ draft, criteria.draft user scope = .ok draft :=
  exists_draft_iff.mpr fun overlong => not_overlong_of_readable readable overlong.2

end Criteria

end MailSearch

import MailSearch.Proofs.IndexedTerms

/-! The regular expressions that patterns are written as. Each reads in just one way, as atoms that stand for the
characters of the pattern's text one by one, so a text never acts as anything but itself. Texts with half a pair of
code units are not among those that a pattern can be made of. -/

namespace MailSearch

namespace Text

def isAlphanumeric (c : Char) : Bool := isWordChar c && c != '_'

end Text

namespace Pattern

open Text

/-- The characters that mean more than themselves in a regular expression. -/
def metaChars : List Char := ".^$*+?\x7b\x7d[]\\|()".toList

/-- A piece of a regular expression that stands for one character: a character without a meaning of its own for
itself, and one that is no letter or digit after a backslash. -/
inductive Atom where
  | plain (c : Char) (ordinary : c ∉ metaChars)
  | escaped (c : Char) (symbol : isAlphanumeric c = false)

namespace Atom

/-- The character that the atom stands for. -/
def char : Atom → Char
  | plain c _ => c
  | escaped c _ => c

/-- How the atom is written. -/
def chars : Atom → List Char
  | plain c _ => [c]
  | escaped c _ => ['\\', c]

private theorem isAlphanumeric_of_special {c : Char} (special : c ∈ specialChars) : isAlphanumeric c = false := by
  have all : specialChars.all (!isAlphanumeric ·) = true := by decide +kernel
  simpa using List.all_eq_true.mp all c special

private theorem special_of_meta {c : Char} (isMeta : c ∈ metaChars) : c ∈ specialChars := by
  have all : metaChars.all (specialChars.contains ·) = true := by decide +kernel
  exact List.contains_iff_mem.mp (List.all_eq_true.mp all c isMeta)

def ofChar (c : Char) : Atom :=
  if special : c ∈ specialChars then escaped c (isAlphanumeric_of_special special)
  else plain c fun isMeta => special (special_of_meta isMeta)

@[simp] theorem char_ofChar (c : Char) : (ofChar c).char = c := by
  unfold ofChar
  split <;> rfl

private theorem chars_ofChar (c : Char) : (ofChar c).chars = escapeChar c := by
  by_cases special : c ∈ specialChars <;> simp [ofChar, escapeChar, special, chars]

/-- A backslash is no atom by itself, so it always belongs to the character after it. -/
theorem append_chars_inj {one other : Atom} {rest rest' : List Char}
    (same : one.chars ++ rest = other.chars ++ rest') : one = other ∧ rest = rest' := by
  have backslash : '\\' ∈ metaChars := by decide
  cases one with
  | plain c ordinary =>
    cases other with
    | plain d _ =>
      cases same
      exact ⟨rfl, rfl⟩
    | escaped d _ =>
      cases same
      exact absurd backslash ordinary
  | escaped c _ =>
    cases other with
    | plain d ordinary =>
      cases same
      exact absurd backslash ordinary
    | escaped d _ =>
      cases same
      exact ⟨rfl, rfl⟩

private theorem chars_ne_nil (atom : Atom) : atom.chars ≠ [] := by
  cases atom <;> exact List.cons_ne_nil _ _

/-- A text that is made of atoms is made of them in just one way. -/
theorem flatMap_chars_inj {atoms others : List Atom} (same : atoms.flatMap chars = others.flatMap chars) :
    atoms = others := by
  induction atoms generalizing others with
  | nil =>
    cases others with
    | nil => rfl
    | cons first rest => exact absurd (List.append_eq_nil_iff.mp same.symm).1 first.chars_ne_nil
  | cons atom atoms ih =>
    cases others with
    | nil => exact absurd (List.append_eq_nil_iff.mp same).1 atom.chars_ne_nil
    | cons first rest =>
      obtain ⟨rfl, later⟩ := append_chars_inj same
      rw [ih later]

private theorem flatMap_chars_ne_caret (atoms : List Atom) (rest : List Char) : atoms.flatMap chars ≠ '^' :: rest := by
  intro same
  cases atoms with
  | nil => cases same
  | cons atom atoms =>
    cases atom with
    | plain c ordinary =>
      have caret : '^' ∈ metaChars := by decide
      cases same
      exact ordinary caret
    | escaped c _ => cases same

end Atom

/-- A regular expression that is made of atoms, and may be tied to the start of a text. -/
structure LiteralExpression where
  anchored : Bool
  atoms : List Atom

namespace LiteralExpression

def written (expression : LiteralExpression) : String :=
  String.ofList ((if expression.anchored then ['^'] else []) ++ expression.atoms.flatMap Atom.chars)

/-- The characters that the atoms stand for. -/
def literal (expression : LiteralExpression) : List Char := expression.atoms.map Atom.char

/-- The atoms match a segment of the text one by one, letters counting as equal when they differ at most in case. -/
def Finds (expression : LiteralExpression) (s : String) : Prop :=
  ∃ before found after, s.toList = before ++ (found ++ after) ∧ (expression.anchored = true → before = []) ∧
    List.Forall₂ (fun atom c => sameLetter atom.char c = true) expression.atoms found

def ofPattern (pattern : Pattern) : LiteralExpression := ⟨pattern.anchored, pattern.text.toList.map Atom.ofChar⟩

variable {pattern : Pattern} {s : String}

private theorem written_ofPattern (pattern : Pattern) : (ofPattern pattern).written = pattern.regex := by
  have atoms : (pattern.text.toList.map Atom.ofChar).flatMap Atom.chars = pattern.text.toList.flatMap escapeChar := by
    rw [List.flatMap_map]
    exact List.flatMap_congr fun c _ => Atom.chars_ofChar c
  rw [written, ofPattern, atoms, regex]

private theorem literal_ofPattern (pattern : Pattern) : (ofPattern pattern).literal = pattern.text.toList := by
  rw [literal, ofPattern, List.map_map]
  exact (List.map_congr_left fun c _ => Atom.char_ofChar c).trans (List.map_id _)

private theorem written_inj {one other : LiteralExpression} : one.written = other.written ↔ one = other := by
  refine ⟨fun same => ?_, congrArg written⟩
  obtain ⟨anchored, atoms⟩ := one
  obtain ⟨anchored', others⟩ := other
  have chars := String.ofList_inj.mp same
  cases anchored with
  | true =>
    cases anchored' with
    | true =>
      obtain rfl : atoms = others := Atom.flatMap_chars_inj (List.cons_inj_right _ |>.mp chars)
      rfl
    | false => exact absurd chars.symm (Atom.flatMap_chars_ne_caret _ _)
  | false =>
    cases anchored' with
    | true => exact absurd chars (Atom.flatMap_chars_ne_caret _ _)
    | false =>
      obtain rfl : atoms = others := Atom.flatMap_chars_inj chars
      rfl

private theorem finds_iff {expression : LiteralExpression} : expression.Finds s ↔
    ∃ before found after, s.toList = before ++ (found ++ after) ∧ (expression.anchored = true → before = []) ∧
      Alike expression.literal found := by
  simp only [Finds, Alike, literal, List.forall₂_map_left_iff]

private theorem finds_ofPattern_iff : (ofPattern pattern).Finds s ↔ pattern.accepts s = true := by
  rw [finds_iff, literal_ofPattern]
  obtain ⟨text, anchored⟩ := pattern
  cases anchored with
  | true =>
    rw [accepts_anchored_iff]
    constructor
    · intro holds
      obtain ⟨before, found, after, whole, start, alike⟩ := holds
      rw [start rfl, List.nil_append] at whole
      exact ⟨found, after, whole, alike⟩
    · intro holds
      obtain ⟨found, after, whole, alike⟩ := holds
      exact ⟨[], found, after, whole, fun _ => rfl, alike⟩
  | false =>
    rw [accepts_free_iff]
    constructor
    · intro holds
      obtain ⟨before, found, after, whole, -, alike⟩ := holds
      exact ⟨before, found, after, whole, alike⟩
    · intro holds
      obtain ⟨before, found, after, whole, alike⟩ := holds
      exact ⟨before, found, after, whole, nofun, alike⟩

end LiteralExpression

/-- The regular expression of a pattern reads in just one way, as the characters of the pattern's text, and no other
pattern has it. A record satisfies the pattern just when the expression finds something in a text of the field: a
segment that differs from the pattern's text at most in case, at the start where the pattern is anchored. -/
theorem expressions_read_literally (pattern : Pattern) :
    (∃ expression : LiteralExpression,
      (∀ other : LiteralExpression, other.written = pattern.regex ↔ other = expression) ∧
      expression.anchored = pattern.anchored ∧ expression.literal = pattern.text.toList ∧
      ∀ field record, ∃ answer, (Predicate.pattern field pattern).holds? record = some answer ∧
        (answer = true ↔ ∃ s, .text s ∈ record.candidatesAt field ∧ expression.Finds s) ∧
        (answer = true ↔ ∃ s, .text s ∈ record.candidatesAt field ∧
          ∃ before found after, s.toList = before ++ (found ++ after) ∧ (pattern.anchored = true → before = []) ∧
            Alike pattern.text.toList found)) ∧
      ∀ other : Pattern, other.regex = pattern.regex ↔ other = pattern := by
  have literal := LiteralExpression.literal_ofPattern pattern
  refine ⟨⟨.ofPattern pattern, fun other => ?_, rfl, literal, fun field record => ?_⟩, fun other => ?_⟩
  · rw [← LiteralExpression.written_ofPattern, LiteralExpression.written_inj]
  · have settled : (Predicate.pattern field pattern).Settled record := Predicate.settled_pattern field pattern
    obtain ⟨answer, evaluated⟩ := Predicate.settled_iff.mp settled
    have finds : answer = true ↔
        ∃ s, .text s ∈ record.candidatesAt field ∧ (LiteralExpression.ofPattern pattern).Finds s := by
      simp only [LiteralExpression.finds_ofPattern_iff]
      rw [← Value.OffersText, ← Predicate.holds_pattern_iff, Predicate.Holds, evaluated, Option.some.injEq]
    refine ⟨answer, evaluated, finds, finds.trans ?_⟩
    simp only [LiteralExpression.finds_iff, literal]
    rfl
  · refine ⟨fun same => ?_, congrArg regex⟩
    rw [← LiteralExpression.written_ofPattern, ← LiteralExpression.written_ofPattern,
      LiteralExpression.written_inj] at same
    have texts : other.text.toList = pattern.text.toList := by
      rw [← literal, ← same, LiteralExpression.literal_ofPattern]
    obtain ⟨text, anchored⟩ := other
    rw [Pattern.mk.injEq]
    exact ⟨String.toList_inj.mp texts, congrArg LiteralExpression.anchored same⟩

end Pattern

end MailSearch

import Mathlib.Data.List.Infix
import MailSearch.Proofs.IndexedTerms
import MailSearch.Proofs.QueryMeaning
import MailSearch.Proofs.UidConditions

/-! What the clauses of literal patterns match on the search server. A text is escaped so that the server reads it back
character by character between two runs, and its clause matches just the texts that contain it, or begin with it.
Texts with half a pair of code units are left out on both sides. -/

namespace MailSearch

namespace Elastic.Wildcard

/-- What a place of a wildcard pattern stands for: any characters, any one character, or this one. -/
inductive Piece where
  | run
  | one
  | literal (c : Char)
  deriving DecidableEq, Repr

/-- The pieces of a pattern; a backslash makes the next character literal. -/
def pieces : List Char → List Piece
  | [] => []
  | '*' :: rest => .run :: pieces rest
  | '?' :: rest => .one :: pieces rest
  | '\\' :: c :: rest => .literal c :: pieces rest
  | c :: rest => .literal c :: pieces rest

/-- Whether the pieces match all of a text, where `alike` tells which characters are taken for each other. -/
def fits (alike : Char → Char → Bool) : List Piece → List Char → Bool
  | [], chars => chars.isEmpty
  | .run :: rest, chars => chars.tails.any (fits alike rest)
  | .one :: rest, chars =>
    match chars with
    | [] => false
    | _ :: later => fits alike rest later
  | .literal c :: rest, chars =>
    match chars with
    | [] => false
    | d :: later => alike c d && fits alike rest later

/-- The escaped text is read back as its characters. -/
theorem pieces_escaped (text rest : List Char) :
    pieces (text.flatMap Query.escapeWildcard ++ rest) = text.map .literal ++ pieces rest := by
  induction text with
  | nil => rfl
  | cons c text ih =>
    rw [List.flatMap_cons, List.append_assoc, List.map_cons, List.cons_append, ← ih]
    by_cases special : c ∈ Query.wildcardChars
    · have escaped : Query.escapeWildcard c = ['\\', c] := by simp [Query.escapeWildcard, special]
      rw [escaped]
      rfl
    · have alone : Query.escapeWildcard c = [c] := by simp [Query.escapeWildcard, special]
      obtain ⟨backslash, star, question⟩ : c ≠ '\\' ∧ c ≠ '*' ∧ c ≠ '?' := by
        simpa [Query.wildcardChars] using special
      rw [alone, List.singleton_append, pieces]
      · exact star
      · exact question
      · exact fun _ _ first => absurd first backslash

private theorem pieces_containing (text : String) :
    pieces (Query.containing text).toList = .run :: (text.toList.map .literal ++ [.run]) := by
  rw [Query.containing, String.toList_ofList, List.cons_append, pieces, pieces_escaped]
  rfl

section Fitting

variable {alike : Char → Char → Bool} {rest : List Piece} {text chars : List Char}

private theorem fits_run_iff : fits alike (.run :: rest) chars = true ↔
    ∃ before after, chars = before ++ after ∧ fits alike rest after = true := by
  rw [fits, List.any_eq_true]
  constructor
  · intro holds
    obtain ⟨after, member, fit⟩ := holds
    obtain ⟨before, whole⟩ := (List.mem_tails _ _).mp member
    exact ⟨before, after, whole.symm, fit⟩
  · intro holds
    obtain ⟨before, after, rfl, fit⟩ := holds
    exact ⟨after, (List.mem_tails _ _).mpr (List.suffix_append before after), fit⟩

private theorem fits_any (chars : List Char) : fits alike [.run] chars = true :=
  fits_run_iff.mpr ⟨chars, [], (List.append_nil chars).symm, rfl⟩

private theorem fits_literals_iff : fits alike (text.map .literal ++ rest) chars = true ↔
    ∃ found after, chars = found ++ after ∧ List.Forall₂ (alike · · = true) text found ∧
      fits alike rest after = true := by
  induction text generalizing chars with
  | nil =>
    constructor
    · intro fit
      exact ⟨[], chars, rfl, .nil, fit⟩
    · intro holds
      obtain ⟨found, after, rfl, none_, fit⟩ := holds
      cases none_
      exact fit
  | cons c text ih =>
    cases chars with
    | nil =>
      refine ⟨nofun, fun holds => ?_⟩
      obtain ⟨found, after, whole, same, -⟩ := holds
      cases same
      cases whole
    | cons d chars =>
      rw [List.map_cons, List.cons_append, fits, Bool.and_eq_true, ih]
      constructor
      · intro holds
        obtain ⟨here, found, after, rfl, same, fit⟩ := holds
        exact ⟨d :: found, after, rfl, .cons here same, fit⟩
      · intro holds
        obtain ⟨found, after, whole, same, fit⟩ := holds
        cases same with
        | cons here same =>
          cases whole
          exact ⟨here, _, after, rfl, same, fit⟩

/-- Literal characters before a run match the texts that begin with them. -/
theorem fits_beginning_iff : fits alike (text.map .literal ++ [.run]) chars = true ↔
    ∃ start after, chars = start ++ after ∧ List.Forall₂ (alike · · = true) text start := by
  simp only [fits_literals_iff, fits_any, and_true]

/-- Literal characters between two runs match the texts that contain them. -/
theorem fits_containing_iff : fits alike (.run :: (text.map .literal ++ [.run])) chars = true ↔
    ∃ before found after, chars = before ++ (found ++ after) ∧ List.Forall₂ (alike · · = true) text found := by
  rw [fits_run_iff]
  constructor
  · intro holds
    obtain ⟨before, later, rfl, fit⟩ := holds
    obtain ⟨found, after, rfl, same⟩ := fits_beginning_iff.mp fit
    exact ⟨before, found, after, rfl, same⟩
  · intro holds
    obtain ⟨before, found, after, rfl, same⟩ := holds
    exact ⟨before, found ++ after, rfl, fits_beginning_iff.mpr ⟨found, after, rfl, same⟩⟩

end Fitting

/-- Whether a clause, as it is sent, matches a document that holds the text `s` in one field. A prefix is what its
characters say, and then anything; the case of letters counts unless the clause says that it does not. -/
def textLeaf (alike : Char → Char → Bool) (field s : String) : Value → Bool
  | .object [(kind, .object [(name, .object [("value", .text given), ("case_insensitive", .bool caseless)])])] =>
    let same := if caseless then alike else (· == ·)
    name == field &&
      match kind with
      | "prefix" => fits same (given.toList.map .literal ++ [.run]) s.toList
      | "wildcard" => fits same (pieces given.toList) s.toList
      | _ => false
  | _ => false

variable {alike : Char → Char → Bool} {field text s : String}

private theorem matched_beginning_iff :
    Query.matched (textLeaf alike field s) (Predicate.pattern field ⟨text, true⟩).clause = true ↔
      ∃ start after, s.toList = start ++ after ∧ List.Forall₂ (alike · · = true) text.toList start := by
  have asked : Query.matched (textLeaf alike field s) (Predicate.pattern field ⟨text, true⟩).clause =
      (field == field && fits alike (text.toList.map .literal ++ [.run]) s.toList) := rfl
  rw [asked, beq_self_eq_true, Bool.true_and, fits_beginning_iff]

private theorem matched_containing_iff :
    Query.matched (textLeaf alike field s) (Predicate.pattern field ⟨text, false⟩).clause = true ↔
      ∃ before found after, s.toList = before ++ (found ++ after) ∧
        List.Forall₂ (alike · · = true) text.toList found := by
  have asked : Query.matched (textLeaf alike field s) (Predicate.pattern field ⟨text, false⟩).clause =
      (field == field && fits alike (pieces (Query.containing text).toList) s.toList) := rfl
  rw [asked, beq_self_eq_true, Bool.true_and, pieces_containing, fits_containing_iff]

end Elastic.Wildcard

open Elastic Elastic.Wildcard

private theorem Predicate.holds_pattern_on_text {field s : String} {literal : Pattern} (undotted : '.' ∉ field.toList) :
    (pattern field literal).Holds (.object [(field, .text s)]) ↔ literal.accepts s = true := by
  rw [holds_pattern_iff, Value.OffersText, Value.candidatesAt, Value.at?_object (Text.pathNames_of_undotted undotted)]
  simp [Table.get?, Value.candidates]

/-- Whatever characters a text holds, and whichever are taken for each other, the clause of its pattern matches just
the texts that contain it, or begin with it where the pattern is anchored. So where these are the letters that differ
at most in case, a document is found by the clause just when it satisfies the pattern. -/
theorem literal_clauses_match_as_read (field text s : String) :
    (∀ alike, Query.matched (textLeaf alike field s) (Predicate.pattern field ⟨text, false⟩).clause = true ↔
        ∃ before found after, s.toList = before ++ (found ++ after) ∧
          List.Forall₂ (alike · · = true) text.toList found) ∧
      (∀ alike, Query.matched (textLeaf alike field s) (Predicate.pattern field ⟨text, true⟩).clause = true ↔
        ∃ start after, s.toList = start ++ after ∧ List.Forall₂ (alike · · = true) text.toList start) ∧
      ('.' ∉ field.toList → ∀ anchored,
        (Query.matched (textLeaf Text.sameLetter field s) (Predicate.pattern field ⟨text, anchored⟩).clause = true ↔
          (Predicate.pattern field ⟨text, anchored⟩).Holds (.object [(field, .text s)]))) := by
  refine ⟨fun alike => matched_containing_iff, fun alike => matched_beginning_iff, fun undotted anchored => ?_⟩
  rw [Predicate.holds_pattern_on_text undotted]
  cases anchored with
  | true => exact matched_beginning_iff.trans Pattern.accepts_anchored_iff.symm
  | false => exact matched_containing_iff.trans Pattern.accepts_free_iff.symm

/-- A text with a star and a backslash is found in one that has another case. -/
theorem literal_clauses_match_as_read_of_a_star :
    '.' ∉ "subject".toList ∧
      Query.matched (textLeaf Text.sameLetter "subject" "5*\\A")
        (Predicate.pattern "subject" ⟨"*\\a", false⟩).clause = true ∧
      (Predicate.pattern "subject" ⟨"*\\a", false⟩).Holds (.object [("subject", .text "5*\\A")]) := by
  have undotted : '.' ∉ "subject".toList := by decide
  have matched : Query.matched (textLeaf Text.sameLetter "subject" "5*\\A")
      (Predicate.pattern "subject" ⟨"*\\a", false⟩).clause = true := by decide +kernel
  exact ⟨undotted, matched, ((literal_clauses_match_as_read _ _ _).2.2 undotted false).mp matched⟩

end MailSearch

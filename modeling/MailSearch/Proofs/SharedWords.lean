import MailSearch.Proofs.LoweredPieces
import MailSearch.Proofs.PredicateMeaning

/-! What a full-text search finds. Its query is divided at the blanks alone, but the texts of a record at each character
that is not part of a word. A term with such a character is found in no record, not even in one that holds it. A text
with half a pair of code units is none of the texts meant here, and gives no words. -/

namespace MailSearch.Predicate

variable {record : Value} {query term word : String}

/-- The word stands by itself in a text of the record that full-text search looks into. -/
def HoldsWord (record : Value) (word : String) : Prop :=
  ∃ field ∈ textFields, ∃ s, .text s ∈ record.candidatesAt field ∧ word ∈ Text.pieces s

/-- The term is, in lower case, one of the words into which the texts of the record are divided. -/
def Finds (record : Value) (term : String) : Prop := (Text.lower term).toList ∈ recordWords record

private theorem mem_recordWords_iff {chars : List Char} : chars ∈ recordWords record ↔
    ∃ field ∈ textFields, ∃ s, .text s ∈ record.candidatesAt field ∧ chars ∈ Text.wordRuns (Text.lower s).toList := by
  simp only [recordWords, List.mem_flatMap, Text.lower, String.toList_ofList]
  constructor
  · intro holds
    obtain ⟨value, ⟨field, among, offered⟩, member⟩ := holds
    cases value with
    | text s => exact ⟨field, among, s, offered, member⟩
    | _ => cases member
  · intro holds
    obtain ⟨field, among, s, offered, member⟩ := holds
    exact ⟨.text s, ⟨field, among, offered⟩, member⟩

/-- A search finds the records in which it finds one of its terms. -/
theorem holds_words_iff_finds : (words query).Holds record ↔ ∃ term ∈ Text.pieces query, Finds record term := by
  simp only [holds_words_iff, sharesWord, Text.runs_lowerChars, Text.pieces, List.any_eq_true, List.mem_map,
    List.contains_iff_mem, exists_exists_and_eq_and, Finds, Text.lower, String.toList_ofList]

private theorem Finds.isWordChar (found : Finds record term) :
    ∀ c ∈ (Text.lower term).toList, Text.isWordChar c = true := by
  obtain ⟨field, among, s, offered, member⟩ := mem_recordWords_iff.mp found
  exact fun c inside => ((Text.of_mem_runs member).2 c inside).2

/-- A word that the record holds is found there, if it is made of word characters. -/
theorem HoldsWord.finds (own : HoldsWord record word)
    (plain : ∀ c ∈ (Text.lower word).toList, Text.isWordChar c = true) : Finds record word := by
  obtain ⟨field, among, s, offered, member⟩ := own
  refine mem_recordWords_iff.mpr ⟨field, among, s, offered, ?_⟩
  have lowered : Text.lower word ∈ Text.pieces (Text.lower s) := by
    rw [Text.pieces_lower]
    exact List.mem_map_of_mem member
  obtain ⟨run, piece, spelled⟩ := List.mem_map.mp lowered
  rw [← spelled, String.toList_ofList] at plain ⊢
  refine Text.mem_runs_of_narrower (fun c blank => ?_) piece plain
  exact Text.not_isWordChar_of_isBlank (by simpa using blank)

/-- A search that has a term in common with a record finds the record just when that term is made of word characters, or
another of its terms is found there. -/
theorem shared_word_is_found_of_word_characters (asked : term ∈ Text.pieces query) (own : HoldsWord record word)
    (same : Text.lower term = Text.lower word) :
    (words query).Holds record ↔ (∀ c ∈ (Text.lower word).toList, Text.isWordChar c = true) ∨
      ∃ other ∈ Text.pieces query, Text.lower other ≠ Text.lower term ∧ Finds record other := by
  have alike : Finds record term ↔ Finds record word := by rw [Finds, same, Finds]
  rw [holds_words_iff_finds]
  constructor
  · intro found
    obtain ⟨other, among, there⟩ := found
    by_cases equal : Text.lower other = Text.lower term
    · rw [← same, ← equal]
      exact .inl there.isWordChar
    · exact .inr ⟨other, among, equal, there⟩
  · rintro (plain | ⟨other, among, -, there⟩)
    · exact ⟨term, asked, alike.mpr (own.finds plain)⟩
    · exact ⟨other, among, there⟩

section Subjects

theorem shared_word_is_found_of_word_characters_of_a_lunch :
    "LUNCH" ∈ Text.pieces "dinner LUNCH" ∧ HoldsWord (.object [("subject", .text "Lunch on Friday?")]) "Lunch" ∧
    Text.lower "LUNCH" = Text.lower "Lunch" ∧
    (words "dinner LUNCH").Holds (.object [("subject", .text "Lunch on Friday?")]) := by
  have asked : "LUNCH" ∈ Text.pieces "dinner LUNCH" := by decide +kernel
  have own : HoldsWord (.object [("subject", .text "Lunch on Friday?")]) "Lunch" :=
    ⟨"subject", by decide, "Lunch on Friday?", List.mem_singleton_self _, by decide +kernel⟩
  have same : Text.lower "LUNCH" = Text.lower "Lunch" := by decide +kernel
  have plain : (Text.lower "Lunch").toList.all Text.isWordChar = true := by decide +kernel
  refine ⟨asked, own, same, (shared_word_is_found_of_word_characters asked own same).mpr (.inl ?_)⟩
  exact List.all_eq_true.mp plain

/-- A hyphen keeps a search from the very text that it repeats. -/
theorem hyphenated_word_is_not_found :
    "e-mail" ∈ Text.pieces "e-mail" ∧ HoldsWord (.object [("subject", .text "Your e-mail")]) "e-mail" ∧
    ¬(words "e-mail").Holds (.object [("subject", .text "Your e-mail")]) := by
  refine ⟨by decide +kernel, ⟨"subject", by decide, "Your e-mail", List.mem_singleton_self _, by decide +kernel⟩, ?_⟩
  rw [holds_words_iff]
  decide +kernel

end Subjects

end MailSearch.Predicate

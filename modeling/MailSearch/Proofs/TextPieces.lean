import MailSearch.Text.Normal

/-! What lowering, trimming and dividing a text leave of it. -/

namespace MailSearch.Text

/-- The character is its own lower case, whatever its neighbours. -/
def IsLow (c : Char) : Prop := ∀ before after, lowerChar before c after = [c]

private theorem closeRun_ne_nil {run : List Char} {later : List (List Char)} (some_ : run ≠ [] ∨ later ≠ []) :
    closeRun run later ≠ [] := by
  unfold closeRun
  split
  next empty =>
    rcases some_ with some | some
    · exact absurd (List.isEmpty_iff.mp empty) some
    · exact some
  next => simp

private theorem runs_ne_nil {keep : Char → Bool} {chars : List Char} (kept : ∃ c ∈ chars, keep c = true) :
    runs keep chars ≠ [] := by
  have opened : ((openRuns keep chars).1 ≠ [] ∨ (openRuns keep chars).2 ≠ []) := by
    induction chars with
    | nil => simp at kept
    | cons c rest ih =>
      by_cases here : keep c = true
      · exact .inl (by simp [openRuns, here])
      · obtain ⟨d, member, keptLater⟩ := kept
        rcases List.mem_cons.mp member with rfl | later
        · exact absurd keptLater here
        · rcases ih ⟨d, later, keptLater⟩ with run | others
          · exact .inr (by simpa [openRuns, here] using closeRun_ne_nil (.inl run))
          · exact .inr (by simpa [openRuns, here] using closeRun_ne_nil (.inr others))
  exact closeRun_ne_nil opened

theorem eq_or_mem_of_closeRun {run first : List Char} {later : List (List Char)} (member : run ∈ closeRun first later) :
    run = first ∧ first ≠ [] ∨ run ∈ later := by
  unfold closeRun at member
  split at member
  · exact .inr member
  next some_ =>
    rcases List.mem_cons.mp member with rfl | there
    · exact .inl ⟨rfl, mt List.isEmpty_iff.mpr some_⟩
    · exact .inr there

/-- Each run holds characters of the text, and only such as are kept. -/
theorem of_mem_runs {keep : Char → Bool} {chars run : List Char} (member : run ∈ runs keep chars) :
    run ≠ [] ∧ ∀ c ∈ run, c ∈ chars ∧ keep c = true := by
  have opened : (∀ c ∈ (openRuns keep chars).1, c ∈ chars ∧ keep c = true) ∧
      ∀ run ∈ (openRuns keep chars).2, run ≠ [] ∧ ∀ c ∈ run, c ∈ chars ∧ keep c = true := by
    clear member
    induction chars with
    | nil => exact ⟨nofun, nofun⟩
    | cons c rest ih =>
      obtain ⟨first, later⟩ := ih
      have wider {d : Char} (inside : d ∈ rest ∧ keep d = true) : d ∈ c :: rest ∧ keep d = true :=
        ⟨List.mem_cons_of_mem c inside.1, inside.2⟩
      simp only [openRuns]
      split
      next kept =>
        refine ⟨List.forall_mem_cons.mpr ⟨⟨List.mem_cons_self, kept⟩, fun d inside => wider (first d inside)⟩, ?_⟩
        exact fun run there => ⟨(later run there).1, fun d inside => wider ((later run there).2 d inside)⟩
      next =>
        refine ⟨nofun, fun run closed => ?_⟩
        rcases eq_or_mem_of_closeRun closed with ⟨rfl, some_⟩ | there
        · exact ⟨some_, fun d inside => wider (first d inside)⟩
        · exact ⟨(later run there).1, fun d inside => wider ((later run there).2 d inside)⟩
  rcases eq_or_mem_of_closeRun member with ⟨rfl, some_⟩ | there
  · exact ⟨some_, opened.1⟩
  · exact opened.2 run there

/-- What trimming leaves, if it leaves anything, holds a character that it does not remove. -/
theorem exists_kept_of_trim {drop : Char → Bool} {chars : List Char} (left : trim drop chars ≠ []) :
    ∃ c ∈ trim drop chars, drop c = false := by
  have bare (list : List Char) (rest : list.dropWhile drop ≠ []) :
      ∃ c ∈ list.dropWhile drop, drop c = false := by
    induction list with
    | nil => simp at rest
    | cons c others ih =>
      by_cases here : drop c = true
      · simp only [List.dropWhile_cons, here, ↓reduceIte] at rest ⊢
        exact ih rest
      · exact ⟨c, by simp [here], by simpa using here⟩
  obtain ⟨c, member, kept⟩ := bare (chars.dropWhile drop).reverse (by simpa [trim] using left)
  exact ⟨c, by simpa [trim] using member, kept⟩

/-- A text in normal form that is not empty has a word. -/
theorem pieces_normalized_ne_nil {s : String} (nonblank : normalized s ≠ "") : pieces (normalized s) ≠ [] := by
  unfold pieces
  rw [ne_eq, List.map_eq_nil_iff]
  apply runs_ne_nil
  simp only [normalized, strip, String.toList_ofList]
  have left : stripChars (lower s).toList ≠ [] := by
    intro empty
    exact nonblank (by simp [normalized, strip, empty])
  obtain ⟨c, member, kept⟩ := exists_kept_of_trim left
  exact ⟨c, member, by simp [kept]⟩

private theorem mem_dropWhile {drop : Char → Bool} {chars : List Char} {c : Char} (member : c ∈ chars)
    (kept : drop c = false) : c ∈ chars.dropWhile drop := by
  induction chars with
  | nil => cases member
  | cons first rest ih =>
    rw [List.dropWhile_cons]
    split
    next dropped =>
      cases member with
      | head => simp [kept] at dropped
      | tail _ later => exact ih later
    next => exact member

/-- Trimming leaves every character that it is not to remove. -/
theorem mem_trim {drop : Char → Bool} {chars : List Char} {c : Char} (member : c ∈ chars) (kept : drop c = false) :
    c ∈ trim drop chars := by
  have inside : c ∈ (chars.dropWhile drop).reverse := List.mem_reverse.mpr (mem_dropWhile member kept)
  exact List.mem_reverse.mpr (mem_dropWhile inside kept)

private theorem mem_lowerFrom {c : Char} (low : IsLow c) {before chars : List Char} (member : c ∈ chars) :
    c ∈ lowerFrom before chars := by
  induction chars generalizing before with
  | nil => cases member
  | cons first rest ih =>
    rw [lowerFrom, List.mem_append]
    cases member with
    | head => exact .inl (by simp [low before rest])
    | tail _ later => exact .inr (ih later)

/-- A character that is no blank and its own lower case is there in the normal form of the text. -/
theorem mem_normalized {s : String} {c : Char} (member : c ∈ s.toList) (kept : isBlank c = false) (low : IsLow c) :
    c ∈ (normalized s).toList := by
  have lowered : c ∈ (lower s).toList := by
    rw [lower, String.toList_ofList]
    exact mem_lowerFrom low member
  rw [normalized, strip, String.toList_ofList]
  exact mem_trim lowered kept

theorem normalized_ne_empty {s : String} {c : Char} (member : c ∈ s.toList) (kept : isBlank c = false) (low : IsLow c) :
    normalized s ≠ "" := by
  intro empty
  have left := mem_normalized member kept low
  rw [empty] at left
  cases left

end MailSearch.Text

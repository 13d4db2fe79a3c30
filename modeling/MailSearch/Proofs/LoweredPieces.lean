import MailSearch.Proofs.NormalTexts
import MailSearch.Text.WordChar

/-! The runs of a text between characters that are left out, and what lowering makes of the runs between blanks. A
blank stays as it is, no other character becomes one, and no letter is lowered in view of what stands beyond a blank;
so it comes to the same whether a text is lowered before it is divided at its blanks or afterwards. -/

namespace MailSearch.Text

section Runs

variable {keep wider : Char → Bool} {chars first later run : List Char} {c : Char}

private theorem closeRun_eq_append (run : List Char) (later : List (List Char)) :
    closeRun run later = closeRun run [] ++ later := by
  cases run <;> rfl

/-- A character that is left out parts the runs before it from those after it. -/
theorem runs_append_cons (left : keep c = false) (first later : List Char) :
    runs keep (first ++ c :: later) = runs keep first ++ runs keep later := by
  have opened : openRuns keep (first ++ c :: later) =
      ((openRuns keep first).1, (openRuns keep first).2 ++ runs keep later) := by
    induction first with
    | nil => simp [openRuns, left, runs]
    | cons head rest ih =>
      simp only [List.cons_append, openRuns, ih]
      split
      · rfl
      · simp only [closeRun_eq_append _ (_ ++ _), closeRun_eq_append _ (openRuns keep rest).2, List.append_assoc]
  simp only [runs, opened]
  rw [closeRun_eq_append, closeRun_eq_append _ (openRuns keep first).2, List.append_assoc]

/-- A text of which nothing is left out is one run. -/
theorem runs_of_forall_keep (kept : ∀ c ∈ chars, keep c = true) : runs keep chars = closeRun chars [] := by
  have opened : openRuns keep chars = (chars, []) := by
    induction chars with
    | nil => rfl
    | cons head rest ih =>
      obtain ⟨here, others⟩ := List.forall_mem_cons.mp kept
      simp [openRuns, here, ih others]
  simp only [runs, opened]

/-- Texts are of which nothing is left out, or they are parted by a character that is. -/
theorem parted_induction {motive : List Char → Prop} (keep : Char → Bool)
    (whole : ∀ chars, (∀ c ∈ chars, keep c = true) → motive chars)
    (parted : ∀ first c later, keep c = false → motive first → motive later → motive (first ++ c :: later))
    (chars : List Char) : motive chars := by
  by_cases kept : ∀ c ∈ chars, keep c = true
  · exact whole chars kept
  · simp only [not_forall, Bool.not_eq_true] at kept
    obtain ⟨c, member, left⟩ := kept
    obtain ⟨first, later, split⟩ := List.append_of_mem member
    have shorter : first.length < chars.length ∧ later.length < chars.length := by
      rw [split, List.length_append, List.length_cons]
      omega
    rw [split]
    exact parted first c later left (parted_induction keep whole parted first) (parted_induction keep whole parted later)
termination_by chars.length

/-- A run that has only characters of a narrower kind is a run of these. -/
theorem mem_runs_of_narrower (narrower : ∀ c, wider c = false → keep c = false) (member : run ∈ runs wider chars)
    (kept : ∀ c ∈ run, keep c = true) : run ∈ runs keep chars := by
  induction chars using parted_induction wider with
  | whole chars all =>
    rw [runs_of_forall_keep all] at member
    rcases eq_or_mem_of_closeRun member with ⟨rfl, -⟩ | never
    · rwa [runs_of_forall_keep kept]
    · cases never
  | parted first c later left before after =>
    rw [runs_append_cons left] at member
    rw [runs_append_cons (narrower c left)]
    exact List.mem_append.mpr ((List.mem_append.mp member).imp before after)

end Runs

section Blanks

private theorem insideChanges_cons_cons {first second code : Nat} {rest : List Nat} :
    insideChanges (first :: second :: rest) code = true ↔
      first ≤ code ∧ (code < second ∨ second ≤ code ∧ insideChanges rest code = true) := by
  simp only [insideChanges]
  split
  next below => simp [Nat.not_le_of_lt below]
  next reached =>
    split
    next inside => simp [inside, Nat.le_of_not_lt reached]
    next beyond => simp [beyond, Nat.le_of_not_lt reached, Nat.le_of_not_lt beyond]

/-- The code points of the blanks. -/
def blankCodes : List Nat := [0x9, 0xA, 0xB, 0xC, 0xD, 0x1C, 0x1D, 0x1E, 0x1F, 0x20, 0x85, 0xA0, 0x1680, 0x2000, 0x2001,
  0x2002, 0x2003, 0x2004, 0x2005, 0x2006, 0x2007, 0x2008, 0x2009, 0x200A, 0x2028, 0x2029, 0x202F, 0x205F, 0x3000]

variable {blank c d : Char} {before after chars : List Char}

private theorem mem_blankCodes (isBlank : isBlank blank = true) : blank.toNat ∈ blankCodes := by
  unfold Text.isBlank CharSet.contains at isBlank
  generalize blank.toNat = code at *
  have outside : insideChanges [] code = false := rfl
  simp only [blankChars, insideChanges_cons_cons, outside, Bool.false_eq_true, and_false, or_false] at isBlank
  simp only [blankCodes, List.mem_cons, List.not_mem_nil, or_false]
  omega

/-- No blank is a letter with case, one that case looks through or part of a word, and lowering moves no character to or
from a blank. -/
theorem blankCodes_plain : ∀ code ∈ blankCodes, insideChanges casedChars.changes code = false ∧
    insideChanges transparentChars.changes code = false ∧ insideChanges wordChars.changes code = false ∧
    ∀ run ∈ lowerRuns, run.covers code = false ∧ (Nat.ble run.low code && Nat.ble code run.high) = false := by
  decide +kernel

private theorem isLow_of_isBlank (blank_ : isBlank blank = true) : IsLow blank :=
  isLow_of_unmoved fun run member => ((blankCodes_plain _ (mem_blankCodes blank_)).2.2.2 run member).1

theorem not_isWordChar_of_isBlank (blank_ : isBlank blank = true) : isWordChar blank = false :=
  (blankCodes_plain _ (mem_blankCodes blank_)).2.2.1

private theorem not_isBlank_of_mem_lowerChar (visible : isBlank c = false) (member : d ∈ lowerChar before c after) :
    isBlank d = false := by
  unfold lowerChar at member
  split at member
  · have sigma : d = finalSigma ∨ d = smallSigma := by
      split at member <;> simp_all
    rcases sigma with rfl | rfl <;> decide +kernel
  split at member
  · have parts : d = 'i' ∨ d = combiningDot := by simpa using member
    rcases parts with rfl | rfl <;> decide +kernel
  obtain rfl := List.mem_singleton.mp member
  unfold simpleLower CaseRun.apply
  split
  next run found =>
    have covered : run.covers c.toNat = true := by simpa using List.find?_some found
    simp only [CaseRun.covers, Bool.and_eq_true, decide_eq_true_eq, beq_iff_eq] at covered
    refine Bool.eq_false_iff.mpr fun blank_ => ?_
    have between := ((blankCodes_plain _ (mem_blankCodes blank_)).2.2.2 run (List.mem_of_find?_eq_some found)).2
    by_cases valid : (c.toNat + run.shift).toNat.isValidChar
    · have code : (Char.ofNat (c.toNat + run.shift).toNat).toNat = (c.toNat + run.shift).toNat := by
        rw [Char.ofNat, dif_pos valid]
        rfl
      rw [code] at between
      have inside : (Nat.ble run.low (c.toNat + run.shift).toNat && Nat.ble (c.toNat + run.shift).toNat run.high) = true := by
        rw [Bool.and_eq_true, Nat.ble_eq, Nat.ble_eq, CaseRun.low, CaseRun.high]
        omega
      exact Bool.false_ne_true (between.symm.trans inside)
    · rw [Char.ofNat, dif_neg valid] at blank_
      revert blank_
      decide +kernel
  next => exact visible

/-- Case does not look beyond a blank. -/
theorem casedAhead_append_cons (blank_ : isBlank blank = true) (near far : List Char) :
    casedAhead (near ++ blank :: far) = casedAhead near := by
  obtain ⟨uncased, opaque_, -⟩ := blankCodes_plain _ (mem_blankCodes blank_)
  have stops : isTransparent blank = false := opaque_
  have plain : isCased blank = false := uncased
  induction near with
  | nil => simp [casedAhead, stops, plain]
  | cons first rest ih =>
    unfold casedAhead at ih ⊢
    by_cases through : isTransparent first = true
    · simpa [through] using ih
    · simp [through]

private theorem lowerChar_before_blank (blank_ : isBlank blank = true) (before near far : List Char) (c : Char) :
    lowerChar before c (near ++ blank :: far) = lowerChar before c near := by
  simp only [lowerChar, casedAhead_append_cons blank_]

private theorem lowerFrom_after_blank (blank_ : isBlank blank = true) (near far chars : List Char) :
    lowerFrom (near ++ blank :: far) chars = lowerFrom near chars := by
  induction chars generalizing near with
  | nil => rfl
  | cons c rest ih =>
    simp only [lowerFrom, lowerChar, casedAhead_append_cons blank_]
    exact congrArg _ (ih (c :: near))

/-- A blank parts a text into pieces that are lowered each by itself. -/
theorem lowerFrom_append_cons (blank_ : isBlank blank = true) (before first later : List Char) :
    lowerFrom before (first ++ blank :: later) = lowerFrom before first ++ blank :: lowerChars later := by
  induction first generalizing before with
  | nil =>
    change lowerChar before blank later ++ lowerFrom (blank :: before) later = blank :: lowerChars later
    rw [isLow_of_isBlank blank_ before later]
    exact congrArg (blank :: ·) (lowerFrom_after_blank blank_ [] before later)
  | cons c rest ih =>
    simp only [List.cons_append, lowerFrom, lowerChar_before_blank blank_, ih, List.append_assoc]

private theorem lowerChar_ne_nil (before : List Char) (c : Char) (after : List Char) :
    lowerChar before c after ≠ [] := by
  unfold lowerChar
  split
  · split <;> simp
  · split <;> simp

private theorem lowerFrom_isEmpty (before chars : List Char) : (lowerFrom before chars).isEmpty = chars.isEmpty := by
  cases chars with
  | nil => rfl
  | cons c rest => simp [lowerFrom, lowerChar_ne_nil]

private theorem not_isBlank_of_mem_lowerFrom (visible : ∀ c ∈ chars, isBlank c = false)
    (member : d ∈ lowerFrom before chars) : isBlank d = false := by
  induction chars generalizing before with
  | nil => cases member
  | cons c rest ih =>
    obtain ⟨here, others⟩ := List.forall_mem_cons.mp visible
    rw [lowerFrom, List.mem_append] at member
    exact member.elim (not_isBlank_of_mem_lowerChar here) (ih others)

/-- The pieces of a text in lower case are its pieces, each in lower case. -/
theorem runs_lowerChars (chars : List Char) :
    runs (!isBlank ·) (lowerChars chars) = (runs (!isBlank ·) chars).map lowerChars := by
  induction chars using parted_induction (!isBlank ·) with
  | whole chars all =>
    have visible : ∀ c ∈ chars, isBlank c = false := by simpa using all
    have lowered : ∀ d ∈ lowerChars chars, (!isBlank d) = true := fun d member => by
      simp [not_isBlank_of_mem_lowerFrom visible member]
    rw [runs_of_forall_keep all, runs_of_forall_keep lowered]
    simp only [closeRun, lowerChars, lowerFrom_isEmpty]
    split <;> rfl
  | parted first c later left before after =>
    have blank_ : isBlank c = true := by simpa using left
    rw [lowerChars, lowerFrom_append_cons blank_, runs_append_cons left, runs_append_cons left, List.map_append, after]
    exact congrArg (· ++ _) before

theorem pieces_lower (s : String) : pieces (lower s) = (pieces s).map lower := by
  simp only [pieces, lower, String.toList_ofList, runs_lowerChars, List.map_map]
  refine List.map_congr_left fun run _ => ?_
  simp [lower]

end Blanks

end MailSearch.Text

import Mathlib.Data.List.Basic
import MailSearch.Proofs.TextPieces

/-! Texts in normal form. Lowering leaves only characters that are their own lower case, since no run of the table of
letters moves a character to one that a run moves; so lowering and trimming change nothing of what they have made. -/

namespace MailSearch.Text

namespace CaseRun

/-- The code points to which the ends of the run are moved. -/
def low (run : CaseRun) : Nat := (run.first + run.shift).toNat

def high (run : CaseRun) : Nat := (run.last + run.shift).toNat

/-- The run may move a code point to one that the other run covers: the images reach into the other run, and do not
all fall between the code points of that. -/
def meets (run other : CaseRun) : Bool :=
  Nat.ble other.first run.high && Nat.ble run.low other.last &&
    !(other.step == 2 && (run.step == 2 || run.first == run.last) && 0 < run.low && (run.low + other.first) % 2 == 1)

variable {run other : CaseRun} {code : Nat}

private theorem not_covers_of_apart (apart : run.meets other = false) (covered : run.covers code = true) :
    other.covers (code + run.shift).toNat = false := by
  refine Bool.eq_false_iff.mpr fun met => ?_
  simp only [covers, Bool.and_eq_true, decide_eq_true_eq, beq_iff_eq] at covered met
  obtain ⟨⟨least, most⟩, spaced⟩ := covered
  obtain ⟨⟨above, below⟩, spacedOther⟩ := met
  have reaches : other.first ≤ run.high ∧ run.low ≤ other.last := by
    unfold low high
    omega
  have between : other.step = 2 ∧ (run.step ≠ 2 → run.first = run.last) ∧ 0 < run.low ∧
      (run.low + other.first) % 2 = 1 := by
    simpa [meets, Nat.ble_eq, reaches, and_assoc] using apart
  obtain ⟨double, single, positive, odd⟩ := between
  rw [double] at spacedOther
  unfold low at positive odd
  by_cases twice : run.step = 2
  · rw [twice] at spaced
    omega
  · have alone := single twice
    omega

end CaseRun

/-- No run of the table of letters moves the code point. -/
def Unmoved (code : Nat) : Prop := ∀ run ∈ lowerRuns, run.covers code = false

instance (code : Nat) : Decidable (Unmoved code) := inferInstanceAs (Decidable (∀ run ∈ lowerRuns, _))

private theorem runs_apart : (lowerRuns.any fun run => lowerRuns.any run.meets) = false := by
  decide +kernel

private theorem unmoved_image {run : CaseRun} (member : run ∈ lowerRuns) {code : Nat}
    (covered : run.covers code = true) : Unmoved (code + run.shift).toNat := by
  intro other there
  have apart : run.meets other = false := by
    simpa using List.any_eq_false.mp (by simpa using List.any_eq_false.mp runs_apart run member) other there
  exact CaseRun.not_covers_of_apart apart covered

private theorem unmoved_simpleLower (c : Char) : Unmoved (simpleLower c).toNat := by
  unfold simpleLower CaseRun.apply
  split
  next run found =>
    have covered : run.covers c.toNat = true := by simpa using List.find?_some found
    have image : Unmoved (c.toNat + run.shift).toNat := unmoved_image (List.mem_of_find?_eq_some found) covered
    -- a code point that is no character becomes the character zero
    by_cases valid : (c.toNat + run.shift).toNat.isValidChar
    · rw [Char.ofNat, dif_pos valid]
      exact image
    · rw [Char.ofNat, dif_neg valid]
      decide +kernel
  next none => exact fun run member => by simpa using List.find?_eq_none.mp none run member

theorem isLow_of_unmoved {c : Char} (unmoved : Unmoved c.toNat) : IsLow c := by
  intro before after
  have sigma : c ≠ capitalSigma := by
    rintro rfl
    revert unmoved
    decide +kernel
  have dotted : c ≠ capitalDottedI := by
    rintro rfl
    revert unmoved
    decide +kernel
  have same : simpleLower c = c := by
    have unfound : lowerRuns.find? (·.covers c.toNat) = none :=
      List.find?_eq_none.mpr fun run member => by simp [unmoved run member]
    simp only [simpleLower, CaseRun.apply, unfound]
  simp only [lowerChar, sigma, dotted, same, ↓reduceIte]

private theorem isLow_of_mem_lowerChar {before after : List Char} {c d : Char} (member : d ∈ lowerChar before c after) :
    IsLow d := by
  apply isLow_of_unmoved
  unfold lowerChar at member
  split at member
  · have sigma : d = finalSigma ∨ d = smallSigma := by
      split at member <;> simp_all
    rcases sigma with rfl | rfl <;> decide +kernel
  split at member
  · have parts : d = 'i' ∨ d = combiningDot := by simpa using member
    rcases parts with rfl | rfl <;> decide +kernel
  · obtain rfl := List.mem_singleton.mp member
    exact unmoved_simpleLower c

private theorem isLow_of_mem_lowerFrom {before chars : List Char} {c : Char} (member : c ∈ lowerFrom before chars) :
    IsLow c := by
  induction chars generalizing before with
  | nil => cases member
  | cons first rest ih =>
    rw [lowerFrom, List.mem_append] at member
    rcases member with here | later
    · exact isLow_of_mem_lowerChar here
    · exact ih later

private theorem lowerFrom_of_low {before chars : List Char} (low : ∀ c ∈ chars, IsLow c) :
    lowerFrom before chars = chars := by
  induction chars generalizing before with
  | nil => rfl
  | cons first rest ih =>
    obtain ⟨here, later⟩ := List.forall_mem_cons.mp low
    rw [lowerFrom, here, ih later, List.singleton_append]

/-- The texts that lowering leaves as they are have just characters that are their own lower case. -/
theorem lower_eq_self_iff {s : String} : lower s = s ↔ ∀ c ∈ s.toList, IsLow c := by
  constructor
  · intro same c member
    rw [← same, lower, String.toList_ofList] at member
    exact isLow_of_mem_lowerFrom member
  · intro low
    rw [lower, lowerChars, lowerFrom_of_low low, String.ofList_toList]

/-- No blank stands at an end of the text. -/
def Unpadded (chars : List Char) : Prop :=
  (∀ c ∈ chars.head?, isBlank c = false) ∧ ∀ c ∈ chars.getLast?, isBlank c = false

section Trimming

variable {drop : Char → Bool} {chars : List Char} {c : Char}

private theorem kept_of_head? (first : (chars.dropWhile drop).head? = some c) : drop c = false := by
  simpa [first] using List.head?_dropWhile_not drop chars

private theorem getLast?_of_dropWhile (last : (chars.dropWhile drop).getLast? = some c) : chars.getLast? = some c := by
  obtain ⟨dropped, whole⟩ := List.dropWhile_suffix drop (l := chars)
  rw [← whole, List.getLast?_append, last, Option.some_or]

private theorem dropWhile_of_head? (kept : ∀ c ∈ chars.head?, drop c = false) : chars.dropWhile drop = chars := by
  cases chars with
  | nil => rfl
  | cons first rest => simp [kept first rfl]

private theorem unpadded_stripChars (chars : List Char) : Unpadded (stripChars chars) := by
  unfold stripChars trim
  constructor
  · intro c first
    rw [List.head?_reverse] at first
    have leading := getLast?_of_dropWhile first
    rw [List.getLast?_reverse] at leading
    exact kept_of_head? leading
  · intro c last
    rw [List.getLast?_reverse] at last
    exact kept_of_head? last

private theorem stripChars_of_unpadded (unpadded : Unpadded chars) : stripChars chars = chars := by
  obtain ⟨first, last⟩ := unpadded
  unfold stripChars trim
  rw [dropWhile_of_head? first, dropWhile_of_head? (by rwa [List.head?_reverse]), List.reverse_reverse]

private theorem strip_eq_self_iff {s : String} : strip s = s ↔ Unpadded s.toList := by
  constructor
  · intro same
    rw [← same, strip, String.toList_ofList]
    exact unpadded_stripChars s.toList
  · intro unpadded
    rw [strip, stripChars_of_unpadded unpadded, String.ofList_toList]

private theorem mem_of_trim (member : c ∈ trim drop chars) : c ∈ chars := by
  have inside : c ∈ (chars.dropWhile drop).reverse :=
    (List.dropWhile_suffix drop).subset (List.mem_reverse.mp member)
  exact (List.dropWhile_suffix drop).subset (List.mem_reverse.mp inside)

end Trimming

/-- A text that is not empty, in lower case and without blanks at its ends. -/
structure IsNormal (s : String) : Prop where
  nonempty : s ≠ ""
  lowered : lower s = s
  stripped : strip s = s

variable {s t : String}

theorem isNormal_normalized (nonblank : normalized s ≠ "") : IsNormal (normalized s) := by
  refine ⟨nonblank, lower_eq_self_iff.mpr fun c member => ?_, strip_eq_self_iff.mpr ?_⟩
  · rw [normalized, strip, String.toList_ofList] at member
    have lowered : c ∈ (lower s).toList := mem_of_trim member
    rw [lower, String.toList_ofList] at lowered
    exact isLow_of_mem_lowerFrom lowered
  · rw [normalized, strip, String.toList_ofList]
    exact unpadded_stripChars _

private theorem IsNormal.toList_ne_nil (normal : IsNormal s) : s.toList ≠ [] := by
  rw [ne_eq, String.toList_eq_nil_iff]
  exact normal.nonempty

private theorem IsNormal.joined (first : IsNormal s) (second : IsNormal t) : IsNormal (s ++ " " ++ t) := by
  refine ⟨?_, lower_eq_self_iff.mpr fun c member => ?_, strip_eq_self_iff.mpr ⟨fun c leading => ?_, fun c last => ?_⟩⟩
  · simp
  · have part : c ∈ s.toList ∨ c = ' ' ∨ c ∈ t.toList := by simpa using member
    rcases part with before | rfl | after
    · exact lower_eq_self_iff.mp first.lowered c before
    · exact isLow_of_unmoved (by decide +kernel)
    · exact lower_eq_self_iff.mp second.lowered c after
  · rw [String.toList_append, String.toList_append, List.append_assoc,
      List.head?_append_of_ne_nil _ first.toList_ne_nil] at leading
    exact (strip_eq_self_iff.mp first.stripped).1 c leading
  · rw [String.toList_append, List.getLast?_append_of_ne_nil _ second.toList_ne_nil] at last
    exact (strip_eq_self_iff.mp second.stripped).2 c last

theorem isNormal_intercalate {texts : List String} (some_ : texts ≠ []) (each : ∀ s ∈ texts, IsNormal s) :
    IsNormal (String.intercalate " " texts) := by
  induction texts with
  | nil => exact absurd rfl some_
  | cons first rest ih =>
    obtain ⟨here, later⟩ := List.forall_mem_cons.mp each
    cases rest with
    | nil => rwa [String.intercalate_singleton]
    | cons second rest =>
      rw [String.intercalate_cons_cons]
      exact here.joined (ih (List.cons_ne_nil _ _) later)

/-- A text that is not empty, in lower case and without any blanks. -/
structure IsWord (s : String) : Prop where
  nonempty : s ≠ ""
  lowered : lower s = s
  unbroken : ∀ c ∈ s.toList, isBlank c = false

theorem isWord_of_mem_pieces (lowered : lower s = s) (member : t ∈ pieces s) : IsWord t := by
  obtain ⟨run, inside, rfl⟩ := List.mem_map.mp member
  obtain ⟨some_, kept⟩ := of_mem_runs inside
  refine ⟨?_, lower_eq_self_iff.mpr ?_, ?_⟩
  · simpa using some_
  · intro c there
    rw [String.toList_ofList] at there
    exact lower_eq_self_iff.mp lowered c (kept c there).1
  · intro c there
    rw [String.toList_ofList] at there
    simpa using (kept c there).2

end MailSearch.Text

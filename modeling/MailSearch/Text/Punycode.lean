/-! Texts in ASCII letters and digits. The ASCII characters of a text come first; the others follow as
numbers, in the order of their code points: each says how far a walk through all code points and all
places goes on until it meets the next character to insert. -/

namespace MailSearch.Text.Punycode

def isAscii (c : Char) : Bool := c.toNat < 0x80

/-- The letters stand for the digits up to 25, the figures for those from 26 to 35. -/
def digitChar (digit : Nat) : Char :=
  if digit < 26 then Char.ofNat (97 + digit) else Char.ofNat (22 + digit)

/-- The least digit that does not end a number, at a place counted in steps of 36. -/
def threshold (bias place : Nat) : Nat :=
  if place ≤ bias then 1 else if bias + 26 ≤ place then 26 else place - bias

theorem threshold_pos (bias place : Nat) : 0 < threshold bias place := by
  unfold threshold
  split
  · omega
  · split <;> omega

/-- A number in digits, the lowest first; a digit below its threshold ends it. -/
def writeNumber (bias place n : Nat) : List Char :=
  let least := threshold bias place
  if n < least then [digitChar n]
  else
    digitChar (least + (n - least) % (36 - least)) ::
      writeNumber bias (place + 36) ((n - least) / (36 - least))
termination_by n
decreasing_by
  have positive := threshold_pos bias place
  have atMost := Nat.div_le_self (n - threshold bias place) (36 - threshold bias place)
  omega

/-- Scales a step down to the range in which one digit is likely to do. -/
def scaled (place step : Nat) : Nat :=
  if step ≤ 455 then place + 36 * step / (step + 38) else scaled (place + 36) (step / 35)
termination_by step
decreasing_by omega

/-- The bias after a step that made a text of `count` characters. -/
def adapted (step count : Nat) (isFirst : Bool) : Nat :=
  let damped := if isFirst then step / 700 else step / 2
  scaled 0 (damped + damped / count)

/-- How far a walk has come: the length of the step so far, the bias, how many characters are in place,
whether none was inserted yet, and what is written. -/
structure Walk where
  step : Nat
  bias : Nat
  placed : Nat
  isFirst : Bool
  written : List Char

/-- Passes one character of the text while looking for `code`. -/
def Walk.pass (code : Nat) (walk : Walk) (c : Char) : Walk :=
  if c.toNat < code then { walk with step := walk.step + 1 }
  else if c.toNat = code then
    { step := 0
      bias := adapted walk.step (walk.placed + 1) walk.isFirst
      placed := walk.placed + 1
      isFirst := false
      written := walk.written ++ writeNumber walk.bias 36 walk.step }
  else walk

/-- Walks through the text once for each of the ascending `codes`. -/
def walkThrough (chars : List Char) : List Nat → Nat → Walk → Walk
  | [], _, walk => walk
  | code :: rest, reached, walk =>
    let started := { walk with step := walk.step + (code - reached) * (walk.placed + 1) }
    let passed := chars.foldl (Walk.pass code) started
    walkThrough chars rest (code + 1) { passed with step := passed.step + 1 }

/-- The distinct code points beyond ASCII, ascending. -/
def furtherCodes (chars : List Char) : List Nat :=
  ((chars.filter (!isAscii ·)).map Char.toNat).mergeSort.eraseReps

/-- The text in ASCII. -/
def encode (chars : List Char) : List Char :=
  let basic := chars.filter isAscii
  let start : Walk := ⟨0, 72, basic.length, true, []⟩
  (if basic.isEmpty then [] else basic ++ ['-']) ++
    (walkThrough chars (furtherCodes chars) 0x80 start).written

/-- The digit that a letter in lower case or a figure stands for. -/
def charDigit? (c : Char) : Option Nat :=
  if 'a' ≤ c ∧ c ≤ 'z' then some (c.toNat - 97)
  else if '0' ≤ c ∧ c ≤ '9' then some (c.toNat - 22)
  else none

/-- Reads a number in digits, the lowest first, of which the first counts `weight` times. -/
def readNumber? (bias place weight : Nat) : List Char → Option (Nat × List Char)
  | [] => none
  | c :: rest =>
    (charDigit? c).bind fun digit =>
      let least := threshold bias place
      if digit < least then some (digit * weight, rest)
      else
        (readNumber? bias (place + 36) (weight * (36 - least)) rest).map fun (higher, rest) =>
          (digit * weight + higher, rest)

/-- A number takes at least one digit. -/
theorem length_lt_of_readNumber? {bias place weight n : Nat} {chars rest : List Char}
    (found : readNumber? bias place weight chars = some (n, rest)) : rest.length < chars.length := by
  induction chars generalizing place weight n with
  | nil => simp [readNumber?] at found
  | cons c later ih =>
    obtain ⟨digit, -, found⟩ := Option.bind_eq_some_iff.1 found
    dsimp only at found
    split at found
    · obtain ⟨-, rfl⟩ := Prod.mk.inj (Option.some.inj found)
      simp
    · obtain ⟨⟨higher, last⟩, read, same⟩ := Option.map_eq_some_iff.1 found
      obtain ⟨-, rfl⟩ := Prod.mk.inj same
      exact Nat.lt_succ_of_lt (ih read)

/-- Inserts a character for each number that the digits give: so many steps on from `place` in the walk,
which goes through all places of the text once for each code point from `code` on. -/
def insertAll? (code place bias : Nat) (isFirst : Bool) (chars digits : List Char) : Option (List Char) :=
  if digits.isEmpty then some chars
  else
    match found : readNumber? bias 36 1 digits with
    | none => none
    | some (step, rest) =>
      let count := chars.length + 1
      let next := code + (place + step) / count
      let before := (place + step) % count
      have := length_lt_of_readNumber? found
      if next.isValidChar then
        insertAll? next (before + 1) (adapted step count isFirst) false
          (chars.take before ++ Char.ofNat next :: chars.drop before) rest
      else none
termination_by digits.length

/-- The text that an encoded one stands for. -/
def decode? (encoded : List Char) : Option (List Char) :=
  let isDigit (c : Char) : Bool := c != '-'
  let basic := ((encoded.reverse.dropWhile isDigit).drop 1).reverse
  insertAll? 0x80 0 72 true basic (encoded.reverse.takeWhile isDigit).reverse

end MailSearch.Text.Punycode

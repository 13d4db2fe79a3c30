import MailSearch.Time.Iso

/-! Reading timestamps from what callers write: dates and times in several forms, and numbers that
count seconds or milliseconds from the start of 1970. -/

namespace MailSearch.Timestamp

open Text

/-- Why something gives no timestamp. -/
inductive Fault where
  | malformed
  | yearZero
  | outOfRange
  deriving DecidableEq, Repr

/-- The first day of the year 1. -/
def firstDay : Int := Date.toDays ⟨1, 1, 1⟩

/-- A timestamp, unless it lies in the year zero or before. -/
def inCalendar (t : Timestamp) : Except Fault Timestamp :=
  if t.day < firstDay then .error .yearZero else .ok t

/-- Reads the part of a second after its point: at least one digit, of which six count. -/
def readFraction? (chars : List Char) : Option (Nat × List Char) :=
  let digits := chars.takeWhile isAsciiDigit
  if digits.isEmpty then none
  else
    let padded := (digits ++ List.replicate 5 '0').take 6
    some (Numeral.natOfDigits (padded.map fun c => c.toNat - 48), chars.dropWhile isAsciiDigit)

/-- Adds the seconds that follow a time of hours and minutes, if any are written; a point or a comma
stands before their places. -/
def readWrittenSeconds? (clock : Clock) : List Char → Option (Clock × List Char)
  | ':' :: rest => do
    let (second, rest) ← fixedDigits? 2 rest
    match expect? ['.', ','] rest with
    | some rest => do
      let (microsecond, rest) ← readFraction? rest
      some ({ clock with second, microsecond }, rest)
    | none => some ({ clock with second }, rest)
  | chars => some (clock, chars)

def minusSign : Char := Char.ofNat 0x2212

/-- Reads what ends a time: nothing, a `Z`, or an offset of hours and minutes. -/
def readOffset? : List Char → Option (Option Int)
  | [] => some none
  | ['Z'] | ['z'] => some (some 0)
  | sign :: rest => do
    let _ ← expect? ['+', '-', minusSign] [sign]
    let (hour, rest) ← fixedDigits? 2 rest
    let (minute, rest) ← fixedDigits? 2 ((expect? [':'] rest).getD rest)
    if rest.isEmpty && hour < 24 && minute < 60 then
      some (some (Binary64.signed (sign != '+') (Clock.toMicroseconds ⟨hour, minute, 0, 0⟩)))
    else none

/-- Reads a date, alone or with a time of day after a `T`, a blank or an underscore. -/
def readWritten? (chars : List Char) : Option Timestamp := do
  let (date, rest) ← readDate? chars
  if rest.isEmpty then some (ofClock date ⟨0, 0, 0, 0⟩ none)
  else
    let (clock, rest) ← readMinutes? (← expect? ['T', 't', ' ', '_'] rest)
    let (clock, rest) ← readWrittenSeconds? clock rest
    let offset ← readOffset? rest
    if clock.hour < 24 ∧ clock.minute < 60 ∧ clock.second < 60 then some (ofClock date clock offset)
    else none

/-- The size up to which a number counts seconds; above it, milliseconds. -/
def largestSeconds : Nat := 20000000000

def firstSecond : Int := Date.toDays ⟨0, 1, 1⟩ * 86400
def lastSecond : Int := Date.toDays ⟨9999, 12, 31⟩ * 86400 + 86399

/-- The timestamp so many seconds and microseconds after the start of 1970. -/
def ofCount (second : Int) (microsecond : Nat) : Except Fault Timestamp :=
  if firstSecond ≤ second ∧ second ≤ lastSecond then inCalendar (ofEpoch second microsecond)
  else .error .outOfRange

/-- The timestamp that a whole number counts to. -/
def ofInt (n : Int) : Except Fault Timestamp :=
  if n.natAbs ≤ largestSeconds then ofCount n 0
  else ofCount (n / 1000) ((n % 1000).toNat * 1000)

/-- The timestamp that a number counts to, in seconds or in milliseconds. What the number leaves over
after a whole count is rounded to a number of microseconds, and that to a whole number. -/
def ofBinary64 (x : Binary64) : Except Fault Timestamp :=
  let unit := if Binary64.exceeds largestSeconds x then 1000 else 1000000
  match x.floor? with
  | none => .error .outOfRange
  | some (count, part) =>
    let microsecond := count * unit + (Binary64.scale unit part).nearestNat
    ofCount (microsecond / 1000000) (microsecond % 1000000).toNat

/-- Reads a decimal as a count from the start of 1970. An exponent needs a point before it. -/
def readCount (chars : List Char) : Except Fault Timestamp :=
  match Numeral.readDecimal? chars with
  | none => .error .malformed
  | some decimal =>
    if chars.contains '.' then ofBinary64 decimal.toBinary64
    else if chars.any (fun c => c == 'e' || c == 'E') then .error .malformed
    else ofInt (Binary64.signed decimal.negative
      (Numeral.natOfDigits (decimal.whole.map fun c => c.toNat - 48)))

/-- Reads a written timestamp, or else a count from the start of 1970. -/
def read (chars : List Char) : Except Fault Timestamp :=
  match readWritten? chars with
  | some t => inCalendar t
  | none => readCount chars

end MailSearch.Timestamp

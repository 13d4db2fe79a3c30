import MailSearch.Number.Numeral
import MailSearch.Time.Timestamp

/-! Reading timestamps in the one form that `Timestamp.iso` writes, and the parts that it shares with
other forms. -/

namespace MailSearch.Timestamp

open Text

/-- Reads exactly `count` ASCII digits. -/
def fixedDigits? (count : Nat) (chars : List Char) : Option (Nat × List Char) :=
  let digits := chars.take count
  if digits.length = count ∧ digits.all isAsciiDigit then
    some (Numeral.natOfDigits (digits.map fun c => c.toNat - 48), chars.drop count)
  else none

/-- Reads one character of `allowed`. -/
def expect? (allowed : List Char) : List Char → Option (List Char)
  | [] => none
  | c :: rest => if allowed.contains c then some rest else none

/-- Reads a date of the form `YYYY-MM-DD` that the calendar has. -/
def readDate? (chars : List Char) : Option (Date × List Char) := do
  let (year, rest) ← fixedDigits? 4 chars
  let (month, rest) ← fixedDigits? 2 (← expect? ['-'] rest)
  let (day, rest) ← fixedDigits? 2 (← expect? ['-'] rest)
  let date : Date := ⟨year, month, day⟩
  if date.isValid then some (date, rest) else none

/-- Reads a span of hours and minutes. -/
def readMinutes? (chars : List Char) : Option (Clock × List Char) := do
  let (hour, rest) ← fixedDigits? 2 chars
  let (minute, rest) ← fixedDigits? 2 (← expect? [':'] rest)
  some (⟨hour, minute, 0, 0⟩, rest)

/-- Adds the seconds that follow a span of hours and minutes, and their six places if they are
written. -/
def readSeconds? (clock : Clock) (chars : List Char) : Option (Clock × List Char) := do
  let (second, rest) ← fixedDigits? 2 (← expect? [':'] chars)
  match rest with
  | '.' :: rest => do
    let (microsecond, rest) ← fixedDigits? 6 rest
    some ({ clock with second, microsecond }, rest)
  | rest => some ({ clock with second }, rest)

/-- Reads what ends a time: nothing, or an offset. -/
def readIsoOffset? : List Char → Option (Option Int)
  | [] => some none
  | sign :: rest => do
    let _ ← expect? ['+', '-'] [sign]
    let (clock, rest) ← readMinutes? rest
    let (clock, rest) ← if rest.isEmpty then some (clock, rest) else readSeconds? clock rest
    if rest.isEmpty then some (some (Binary64.signed (sign == '-') clock.toMicroseconds)) else none

/-- Reads a timestamp as `Timestamp.iso` writes it. -/
def ofIso? (chars : List Char) : Option Timestamp := do
  let (date, rest) ← readDate? chars
  let (clock, rest) ← readMinutes? (← expect? ['T'] rest)
  let (clock, rest) ← readSeconds? clock rest
  let offset ← readIsoOffset? rest
  some (ofClock date clock offset)

end MailSearch.Timestamp

import MailSearch.Time.Calendar

/-! Points in time: a calendar day, the microseconds into it, and possibly an offset from universal
time. Two timestamps with offsets compare as instants; without offsets, as local times; a timestamp
with an offset has no order with one that lacks it. -/

namespace MailSearch

/-- A local time of day on a day counted from 1970-01-01, and its offset east of universal time, if it
is known; both in microseconds. -/
structure Timestamp where
  day : Int
  microsecond : Nat
  offset : Option Int
  deriving DecidableEq, Repr

/-- A span of time as hours, minutes, seconds and microseconds. -/
structure Clock where
  hour : Nat
  minute : Nat
  second : Nat
  microsecond : Nat
  deriving DecidableEq, Repr

namespace Clock

def ofMicroseconds (count : Nat) : Clock :=
  let second := count / 1000000
  ⟨second / 3600, second / 60 % 60, second % 60, count % 1000000⟩

def toMicroseconds (clock : Clock) : Nat :=
  ((clock.hour * 60 + clock.minute) * 60 + clock.second) * 1000000 + clock.microsecond

/-- The decimal digits of `n`, at least `width` of them. -/
def padded (width n : Nat) : String :=
  let digits := Nat.toDigits 10 n
  String.ofList (List.replicate (width - digits.length) '0' ++ digits)

/-- The microseconds after a point, where they are not zero. -/
def fractionText (clock : Clock) : String :=
  if clock.microsecond = 0 then "" else "." ++ padded 6 clock.microsecond

def secondsText (clock : Clock) : String := ":" ++ padded 2 clock.second ++ clock.fractionText

def minutesText (clock : Clock) : String := padded 2 clock.hour ++ ":" ++ padded 2 clock.minute

end Clock

namespace Timestamp

open Clock (padded)

def microsecondsPerDay : Nat := 86400000000

def ofClock (date : Date) (clock : Clock) (offset : Option Int) : Timestamp :=
  ⟨date.toDays, clock.toMicroseconds, offset⟩

/-- The timestamp so many seconds and microseconds after the start of 1970, in universal time. -/
def ofEpoch (second : Int) (microsecond : Nat) : Timestamp :=
  ⟨second / 86400, (second % 86400).toNat * 1000000 + microsecond, some 0⟩

/-- Microseconds since the start of 1970 on the timestamp's own clock. -/
def localMicroseconds (t : Timestamp) : Int := t.day * microsecondsPerDay + t.microsecond

/-- The order of two timestamps, when both or neither have an offset. -/
def compare? (a b : Timestamp) : Option Ordering :=
  match a.offset, b.offset with
  | none, none => some (compare a.localMicroseconds b.localMicroseconds)
  | some east, some otherEast =>
    some (compare (a.localMicroseconds - east) (b.localMicroseconds - otherEast))
  | _, _ => none

def clock (t : Timestamp) : Clock := .ofMicroseconds t.microsecond

/-- An offset as hours and minutes, and seconds where they are not zero. -/
def offsetText (east : Int) : String :=
  let size := Clock.ofMicroseconds east.natAbs
  (if east < 0 then "-" else "+") ++ size.minutesText ++
    (if size.second = 0 ∧ size.microsecond = 0 then "" else size.secondsText)

/-- The date, `separator`, and the time; microseconds only where they are not zero. -/
def toText (separator : String) (t : Timestamp) : String :=
  let date := Date.ofDays t.day
  padded 4 date.year.toNat ++ "-" ++ padded 2 date.month ++ "-" ++ padded 2 date.day ++ separator ++
    t.clock.minutesText ++ t.clock.secondsText ++ (t.offset.map offsetText).getD ""

/-- The date and the time with a `T` between them. -/
def iso (t : Timestamp) : String := t.toText "T"

end Timestamp

end MailSearch

import MailSearch.Failure
import MailSearch.Predicate.Basic
import MailSearch.Text.Section

/-! Expressions for sets of message numbers: a number, a list as in `1,3,7`, or a range as in `10:20` or
`10:*`, whose ends may come in either order. -/

namespace MailSearch

/-- A set of message numbers as an expression gives it. -/
inductive UidRange where
  | single (uid : Nat)
  | listed (uids : List Nat)
  | between (low high : Nat)
  | atLeast (low : Nat)
  deriving DecidableEq, Repr

namespace UidRange

open Text

def isNumeral (chars : List Char) : Bool := !chars.isEmpty && chars.all isAsciiDigit

/-- The range between two ends, the smaller first; equal ends give one number. -/
def ofEnds (a b : Nat) : UidRange :=
  if a = b then .single a else .between (min a b) (max a b)

/-- The ascending list of some numbers. -/
def ofList (uids : List Nat) : UidRange := .listed (uids.mergeSort (· ≤ ·))

/-- Reads an expression; `none` when it is of no known form, and a fault when a numeral is too long. -/
def read (chars : List Char) : Except Numeral.Fault (Option UidRange) :=
  if isNumeral chars then (Numeral.readDigits chars).map (some ∘ .single)
  else if (sections ',' chars).all isNumeral then
    ((sections ',' chars).mapM Numeral.readDigits).map (some ∘ ofList)
  else match sections ':' chars with
    | [low, high] =>
      if !isNumeral low then .ok none
      else if high = ['*'] then (Numeral.readDigits low).map (some ∘ .atLeast)
      else if !isNumeral high then .ok none
      else do
        let a ← Numeral.readDigits low
        let b ← Numeral.readDigits high
        return some (ofEnds a b)
    | _ => .ok none

/-- The condition that a field holds one of the numbers. -/
def toPredicate (field : String) : UidRange → Predicate
  | .single uid => .eq field (.int uid)
  | .listed uids => .memberOf field (uids.map fun (uid : Nat) => .int uid)
  | .between low high => .range field { gte := some (.int low), lte := some (.int high) }
  | .atLeast low => .range field { gte := some (.int low) }

/-- The condition that an expression puts on a field; `none` where there is no expression or it is of
no known form. -/
def predicate? (expression : Option String) (field : String) : Except Failure (Option Predicate) :=
  match expression with
  | none => .ok none
  | some s =>
    match read s.toList with
    | .ok range => .ok (range.map (toPredicate field))
    | .error fault => .error (.badValue (.ofNumeral s fault))

end UidRange

end MailSearch

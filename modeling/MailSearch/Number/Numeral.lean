import MailSearch.Number.Binary64
import MailSearch.Text.Blank
import MailSearch.Text.Digit
import MailSearch.Text.Section

/-! Numerals as texts write them: whole numbers with grouped digits, and decimals with a point and an
exponent. Reading a whole number is limited to `digitLimit` digits. -/

namespace MailSearch.Numeral

open Text

/-- The most digits a numeral of a whole number may have. -/
def digitLimit : Nat := 4300

/-- Why a text is no whole number. -/
inductive Fault where
  | malformed
  | tooLong (digits : Nat)
  deriving DecidableEq, Repr

def natOfDigits (digits : List Nat) : Nat := digits.foldl (fun n digit => 10 * n + digit) 0

/-- The digits of a text in which single underscores may stand between digits. -/
def groupedDigits? (value? : Char → Option Nat) : List Char → Option (List Nat)
  | [] => none
  | c :: rest =>
    (value? c).bind fun digit =>
      match rest with
      | [] => some [digit]
      | '_' :: more => (groupedDigits? value? more).map (digit :: ·)
      | more => (groupedDigits? value? more).map (digit :: ·)

/-- Splits a sign off; the first part tells whether it was a minus. -/
def splitSign : List Char → Bool × List Char
  | '-' :: rest => (true, rest)
  | '+' :: rest => (false, rest)
  | chars => (false, chars)

def signedNat (negative : Bool) (digits : List Nat) : Int :=
  Binary64.signed negative (natOfDigits digits)

/-- Reads a run of ASCII digits that is known to be one. -/
def readDigits (chars : List Char) : Except Fault Nat :=
  if digitLimit < chars.length then .error (.tooLong chars.length)
  else .ok (natOfDigits (chars.map fun c => c.toNat - 48))

/-- Reads a whole number in the digits of any script, between white space. The run of digits is
judged before what follows it. -/
def readInt (chars : List Char) : Except Fault Int :=
  let (negative, body) := splitSign (chars.dropWhile isWhiteSpace)
  let inRun (c : Char) : Bool := (digitValue? c).isSome || c == '_'
  match groupedDigits? digitValue? (body.takeWhile inRun) with
  | none => .error .malformed
  | some digits =>
    if digitLimit < digits.length then .error (.tooLong digits.length)
    else if ((body.dropWhile inRun).dropWhile isWhiteSpace).isEmpty then .ok (signedNat negative digits)
    else .error .malformed

/-- Takes single underscores out from between other characters. A text with an underscore at an end, or
with two side by side, stays as it is. -/
def ungrouped (chars : List Char) : List Char :=
  let groups := sections '_' chars
  if groups.any List.isEmpty then chars else groups.flatten

/-- Passes over zeros, and underscores among them, after a first one. A lone last one stays, and so does
one before a point; a sign may follow them. -/
def skipZeros? (last : Char) : List Char → Option (List Char)
  | [] => some [last]
  | c :: rest =>
    if c == '0' || c == '_' then skipZeros? c rest
    else if c == '.' then some (last :: c :: rest)
    else if isAsciiDigit c || c == '-' then some (c :: rest)
    else none

def withoutZeros? : List Char → Option (List Char)
  | [] => none
  | c :: rest =>
    if c == '0' then skipZeros? c rest
    else if isAsciiDigit c || c == '-' then some (c :: rest)
    else none

/-- A numeral without a plus sign and without leading zeros. -/
def significant? : List Char → Option (List Char)
  | '+' :: '-' :: _ => none
  | '+' :: rest => withoutZeros? rest
  | '-' :: rest => (withoutZeros? rest).map ('-' :: ·)
  | chars => withoutZeros? chars

/-- Leaves out a fraction of zeros: a point and nothing but zeros after it. -/
def withoutZeroFraction (chars : List Char) : List Char :=
  match chars.dropWhile (· != '.') with
  | '.' :: zeros =>
    if !zeros.isEmpty && zeros.all (· == '0') then chars.takeWhile (· != '.') else chars
  | _ => chars

/-- Reads ASCII digits, of which the first is not a needless zero, after a minus or none. The run of
digits is judged before what follows it. -/
def readPlainInt (chars : List Char) : Except Fault Int :=
  let negative := chars.head? == some '-'
  let body := if negative then chars.drop 1 else chars
  let digits := body.takeWhile isAsciiDigit
  if digits.head? == some '0' then
    if body == ['0'] then .ok 0 else .error .malformed
  else if digitLimit < digits.length then .error (.tooLong digits.length)
  else if digits.isEmpty || digits.length < body.length then .error .malformed
  else .ok (signedNat negative (digits.map fun c => c.toNat - 48))

/-- Takes white space, leading zeros, underscores between digits and a fraction of zeros out of a
numeral. -/
def plain? (chars : List Char) : Option (List Char) :=
  (significant? (trim isWhiteSpace chars)).map fun digits => ungrouped (withoutZeroFraction digits)

/-- Reads a whole number in ASCII digits, plain or else after what `plain?` takes out. A numeral that is
not plain and too long is malformed. -/
def readLenientInt (chars : List Char) : Except Fault Int :=
  match readPlainInt chars with
  | .error .malformed =>
    match (plain? chars).map readPlainInt with
    | some (.ok n) => .ok n
    | _ => .error .malformed
  | outcome => outcome

/-- A decimal: its sign, the digits before and after the point, and the exponent. -/
structure Decimal where
  negative : Bool
  whole : List Char
  fraction : List Char
  exponent : Int

def Decimal.toBinary64 (decimal : Decimal) : Binary64 :=
  Binary64.ofDecimal decimal.negative
    (natOfDigits ((decimal.whole ++ decimal.fraction).map fun c => c.toNat - 48))
    (decimal.exponent - decimal.fraction.length)

/-- Splits an exponent off: a letter e, a sign, and at least one digit. -/
def splitExponent : List Char → Option (Int × List Char)
  | [] => some (0, [])
  | c :: rest =>
    if c == 'e' || c == 'E' then
      let (negative, body) := splitSign rest
      let digits := body.takeWhile isAsciiDigit
      if digits.isEmpty then none
      else
        some (Binary64.signed negative (natOfDigits (digits.map fun d => d.toNat - 48)),
          body.dropWhile isAsciiDigit)
    else some (0, c :: rest)

/-- Splits a fraction off: a point and the digits after it, possibly none. -/
def splitFraction : List Char → List Char × List Char
  | '.' :: rest => (rest.takeWhile isAsciiDigit, rest.dropWhile isAsciiDigit)
  | chars => ([], chars)

/-- Reads a whole text as a decimal with digits before or after the point. -/
def readDecimal? (chars : List Char) : Option Decimal :=
  let (negative, body) := splitSign chars
  let whole := body.takeWhile isAsciiDigit
  let (fraction, tail) := splitFraction (body.dropWhile isAsciiDigit)
  if whole.isEmpty && fraction.isEmpty then none
  else match splitExponent tail with
    | some (exponent, []) => some ⟨negative, whole, fraction, exponent⟩
    | _ => none

/-- Reads a floating-point number: a decimal, or the name of an infinity or of the undefined number
in any case. -/
def readBinary64? (chars : List Char) : Option Binary64 :=
  let (negative, body) := splitSign chars
  match String.ofList (body.map Char.toLower) with
  | "inf" | "infinity" => some (.infinite negative)
  | "nan" => some (.undefined 0)
  | _ => (readDecimal? chars).map Decimal.toBinary64

/-- Reads a floating-point number between white space, or else one with underscores in it. -/
def readLenientBinary64? (chars : List Char) : Option Binary64 :=
  readBinary64? (trim isWhiteSpace chars) <|> readBinary64? (ungrouped chars)

end MailSearch.Numeral

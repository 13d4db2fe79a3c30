import MailSearch.Value.Basic
import MailSearch.Number.Numeral
import MailSearch.Text.Quoted

/-! Reading JSON text. Whole numbers keep every digit, the words `NaN` and `Infinity` are numbers, a
repeated name keeps its first place and its last value, and nothing but blanks may follow the value. -/

namespace MailSearch.Json

open Text

def isSpace (c : Char) : Bool := c == ' ' || c == '\t' || c == '\n' || c == '\r'

def skipSpace (chars : List Char) : List Char := chars.dropWhile isSpace

def hexValue? (c : Char) : Option Nat :=
  if '0' ≤ c ∧ c ≤ '9' then some (c.toNat - 48)
  else if 'a' ≤ c ∧ c ≤ 'f' then some (c.toNat - 87)
  else if 'A' ≤ c ∧ c ≤ 'F' then some (c.toNat - 55)
  else none

/-- The character that a backslash and this letter stand for. -/
def simpleEscape? (c : Char) : Option Char :=
  if c = doubleQuote ∨ c = backslash ∨ c = '/' then some c
  else match c with
    | 'b' => some (Char.ofNat 8)
    | 'f' => some (Char.ofNat 12)
    | 'n' => some '\n'
    | 'r' => some '\r'
    | 't' => some '\t'
    | _ => none

/-- Reads a text from after its opening quotation mark to after its closing one, as code units: an
escape may give one half of a pair. -/
def readUnits : List Char → Option (List Nat × List Char)
  | [] => none
  | c :: rest =>
    if c = doubleQuote then some ([], rest)
    else if c.toNat < 0x20 then none
    else if c ≠ backslash then (readUnits rest).map fun (units, rest) => (c.toNat :: units, rest)
    else match rest with
      | 'u' :: a :: b :: c :: d :: rest => do
        let unit := (((← hexValue? a) * 16 + (← hexValue? b)) * 16 + (← hexValue? c)) * 16 + (← hexValue? d)
        let (units, rest) ← readUnits rest
        some (unit :: units, rest)
      | letter :: rest => do
        let escaped ← simpleEscape? letter
        let (units, rest) ← readUnits rest
        some (escaped.toNat :: units, rest)
      | [] => none

def isHighHalf (unit : Nat) : Bool := 0xD800 ≤ unit && unit ≤ 0xDBFF
def isLowHalf (unit : Nat) : Bool := 0xDC00 ≤ unit && unit ≤ 0xDFFF

/-- A unit that is no half as a character. -/
def wholeChar? (unit : Nat) : Option Char :=
  if isHighHalf unit || isLowHalf unit then none else some (Char.ofNat unit)

/-- Joins the two halves of each pair into one character; a half alone is no character. -/
def joinHalves? : List Nat → Option (List Char)
  | [] => some []
  | [unit] => (wholeChar? unit).map ([·])
  | high :: low :: rest =>
    if isHighHalf high && isLowHalf low then
      (joinHalves? rest).map (Char.ofNat (0x10000 + (high - 0xD800) * 1024 + (low - 0xDC00)) :: ·)
    else (wholeChar? high).bind fun c => (joinHalves? (low :: rest)).map (c :: ·)

/-- Reads a text; what is read is `none` where half a pair stands alone in it. -/
def readText? (chars : List Char) : Option (Option String × List Char) :=
  (readUnits chars).map fun (units, rest) => ((joinHalves? units).map String.ofList, rest)

def textValue (text : Option String) : Value := (text.map Value.text).getD (.unpaired .text)

/-- An object with such names. -/
def objectValue (entries : List (Option String × Value)) : Value :=
  match entries.mapM fun (name, value) => name.map (·, value) with
  | some entries => .object (Table.ofEntries entries)
  | none => .unpaired .object

/-- Splits a literal word off. -/
def word? (word : String) (chars : List Char) : Option (List Char) :=
  if word.toList.isPrefixOf chars then some (chars.drop word.length) else none

/-- Splits the fraction of a number off: a point with digits after it. What does not have that form
is left. -/
def numberFraction (chars : List Char) : List Char × List Char :=
  match chars with
  | '.' :: rest =>
    let digits := rest.takeWhile isAsciiDigit
    if digits.isEmpty then ([], chars) else (digits, rest.dropWhile isAsciiDigit)
  | _ => ([], chars)

/-- Why a text is not read as JSON. -/
inductive Fault where
  | malformed
  | longNumber
  | tooDeep
  deriving DecidableEq, Repr

/-- The most digits that a whole number may have, and how many lists and objects may stand inside each
other. -/
structure Limits where
  digits : Nat
  nesting : Nat

def wellFormed {α : Type} : Option α → Except Fault α
  | some result => .ok result
  | none => .error .malformed

/-- Reads a number. It is whole when it has neither a fraction nor an exponent. -/
def readNumber (limits : Limits) (chars : List Char) : Except Fault (Value × List Char) :=
  let negative := chars.head? == some '-'
  let body := if negative then chars.drop 1 else chars
  let digits := body.takeWhile isAsciiDigit
  let whole := if digits.head? == some '0' then ['0'] else digits
  if whole.isEmpty then .error .malformed
  else
    let (fraction, afterFraction) := numberFraction (body.drop whole.length)
    let (exponent, rest) := (Numeral.splitExponent afterFraction).getD (0, afterFraction)
    if fraction.isEmpty && rest.length == afterFraction.length then
      if limits.digits < whole.length then .error .longNumber
      else .ok (.int (Numeral.signedNat negative (whole.map fun c => c.toNat - 48)), rest)
    else .ok (.float (Numeral.Decimal.toBinary64 ⟨negative, whole, fraction, exponent⟩), rest)

/-- Reads one of the words that stand for a value. -/
def readWord? (chars : List Char) : Option (Value × List Char) :=
  let named (word : String) (value : Value) := (word? word chars).map fun rest => (value, rest)
  named "null" .null <|> named "true" (.bool true) <|> named "false" (.bool false) <|>
    named "NaN" (.float (.undefined 0)) <|> named "Infinity" (.float (.infinite false)) <|>
    named "-Infinity" (.float (.infinite true))

/-- Reads a word or a number. -/
def readPlain (limits : Limits) (chars : List Char) : Except Fault (Value × List Char) :=
  match readWord? chars with
  | some reading => .ok reading
  | none => readNumber limits chars

mutual

/-- Reads one value. The second argument bounds the nesting and the number of items together. -/
def readValue (limits : Limits) : Nat → Nat → List Char → Except Fault (Value × List Char)
  | _, 0, _ => .error .malformed
  | depth, bound + 1, chars =>
    match chars with
    | [] => .error .malformed
    | '[' :: rest =>
      if limits.nesting ≤ depth then .error .tooDeep
      else match skipSpace rest with
        | ']' :: rest => .ok (.list [], rest)
        | rest =>
          (readItems limits (depth + 1) bound rest).map fun (items, rest) => (.list items, rest)
    | '{' :: rest =>
      if limits.nesting ≤ depth then .error .tooDeep
      else match skipSpace rest with
        | '}' :: rest => .ok (.object [], rest)
        | rest =>
          (readEntries limits (depth + 1) bound rest).map fun (entries, rest) =>
            (objectValue entries, rest)
    | c :: rest =>
      if c = doubleQuote then
        (wellFormed (readText? rest)).map fun (text, rest) => (textValue text, rest)
      else readPlain limits (c :: rest)

/-- Reads the items of a list and its closing bracket. -/
def readItems (limits : Limits) : Nat → Nat → List Char → Except Fault (List Value × List Char)
  | _, 0, _ => .error .malformed
  | depth, bound + 1, chars => do
    let (item, rest) ← readValue limits depth bound chars
    match skipSpace rest with
    | ']' :: rest => .ok ([item], rest)
    | ',' :: rest => do
      let (items, rest) ← readItems limits depth bound (skipSpace rest)
      .ok (item :: items, rest)
    | _ => .error .malformed

/-- Reads the entries of an object and its closing brace. -/
def readEntries (limits : Limits) :
    Nat → Nat → List Char → Except Fault (List (Option String × Value) × List Char)
  | _, 0, _ => .error .malformed
  | depth, bound + 1, chars =>
    if chars.head? ≠ some doubleQuote then .error .malformed
    else do
      let (name, rest) ← wellFormed (readText? (chars.drop 1))
      match skipSpace rest with
      | ':' :: rest => do
        let (value, rest) ← readValue limits depth bound (skipSpace rest)
        match skipSpace rest with
        | '}' :: rest => .ok ([(name, value)], rest)
        | ',' :: rest => do
          let (entries, rest) ← readEntries limits depth bound (skipSpace rest)
          .ok ((name, value) :: entries, rest)
        | _ => .error .malformed
      | _ => .error .malformed

end

/-- Reads a text that holds one JSON value within the limits. -/
def readWithin (limits : Limits) (text : String) : Except Fault Value := do
  let chars := skipSpace text.toList
  let (value, rest) ← readValue limits 0 (2 * chars.length + 2) chars
  if (skipSpace rest).isEmpty then return value else .error .malformed

/-- Reads a text that holds one JSON value, whatever its size. -/
def read? (text : String) : Option Value :=
  match readWithin ⟨text.length, text.length⟩ text with
  | .ok value => some value
  | .error _ => none

end MailSearch.Json

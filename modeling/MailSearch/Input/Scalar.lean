import MailSearch.Input.Checked
import MailSearch.Text.Utf8
import MailSearch.Time.Reader
import MailSearch.Value.Basic

/-! Reading texts, truth values, numbers, timestamps and lists from dynamic values. Each reader takes a
few neighbouring kinds of value as well: numbers and truth values may come as text, text as bytes. A
text without characters is badly encoded, whatever is to be read from it. -/

namespace MailSearch.Value

open Checked Text

/-- The text of a text or of well-formed bytes. -/
def readText : Value → Checked String
  | .text s => .valid s
  | .bytes data => ofOption .badEncoding ((Utf8.decode? data).map String.ofList)
  | .unpaired .text => fault .badEncoding
  | _ => fault .notText

def yesWords : List String := ["1", "on", "t", "true", "y", "yes"]
def noWords : List String := ["0", "off", "f", "false", "n", "no"]

/-- The truth value that a word stands for, in any case. -/
def boolWord? (s : String) : Option Bool :=
  let word := String.ofList (s.toList.map Char.toLower)
  if yesWords.contains word then some true
  else if noWords.contains word then some false
  else none

/-- The truth value that 0 or 1 stands for. -/
def boolNumber? (n : Int) : Option Bool :=
  if n = 0 then some false else if n = 1 then some true else none

/-- Whether a whole number fits into 64 bits with its sign. -/
def fitsWord (n : Int) : Bool := -(twoTo 63 : Int) ≤ n && n < twoTo 63

/-- Whether a whole number and its opposite both fit into 64 bits with a sign. -/
def fitsWordEitherWay (n : Int) : Bool := fitsWord n && fitsWord (-n)

def readBool : Value → Checked Bool
  | .text s => ofOption .malformedBool (boolWord? s)
  | .bytes data =>
    ofOption .malformedBool ((Utf8.decode? data).bind fun chars => boolWord? (String.ofList chars))
  | .bool b => .valid b
  | .int n => if fitsWord n then ofOption .malformedBool (boolNumber? n) else fault .notBool
  | .float x =>
    match x.toInt? with
    | some n => if fitsWordEitherWay n then ofOption .malformedBool (boolNumber? n) else fault .notBool
    | none => fault .notBool
  | .unpaired .text => fault .badEncoding
  | _ => fault .notBool

def readIntText (chars : List Char) : Checked Int :=
  match Numeral.readLenientInt chars with
  | .ok n => .valid n
  | .error .malformed => fault .malformedInt
  | .error (.tooLong _) => fault .longInt

def readInt : Value → Checked Int
  | .int n => .valid n
  | .bool b => .valid (if b then 1 else 0)
  | .float x =>
    match x with
    | .finite _ _ _ =>
      (ofOption .fractionalInt x.toInt?).andThen fun n =>
        if fitsWordEitherWay n then .valid n else fault .longInt
    | _ => fault .infiniteInt
  | .text s => readIntText s.toList
  | .bytes data => (ofOption .malformedInt (Utf8.decode? data)).andThen readIntText
  | .unpaired .text => fault .badEncoding
  | _ => fault .notInt

/-- A whole number of at least `least`. -/
def readIntFrom (least : Int) (value : Value) : Checked Int :=
  value.readInt.andThen fun n => if n < least then fault .tooSmall else .valid n

def readFloatText (chars : List Char) : Checked Binary64 :=
  ofOption .malformedFloat (Numeral.readLenientBinary64? chars)

def readFloat : Value → Checked Binary64
  | .int n => if (Binary64.ofInt n).isInfinite then fault .notFloat else .valid (.ofInt n)
  | .bool b => .valid (.ofInt (if b then 1 else 0))
  | .float x => .valid x
  | .text s => readFloatText s.toList
  | .bytes data => (ofOption .malformedFloat (Utf8.decode? data)).andThen readFloatText
  | .unpaired .text => fault .badEncoding
  | _ => fault .notFloat

def readTimeText (chars : List Char) : Checked Timestamp :=
  match Timestamp.read chars with
  | .ok t => .valid t
  | .error .yearZero => fault .timeOutOfRange
  | .error _ => fault .malformedTime

def ofCount : Except Timestamp.Fault Timestamp → Checked Timestamp
  | .ok t => .valid t
  | .error _ => fault .timeOutOfRange

/-- A timestamp as such, as text, or as a count from the start of 1970. -/
def readTime : Value → Checked Timestamp
  | .time t => .valid t
  | .text s => readTimeText s.toList
  | .bytes data => (ofOption .malformedTime (Utf8.decode? data)).andThen readTimeText
  | .int n => if (Binary64.ofInt n).isInfinite then fault .notTime else ofCount (Timestamp.ofInt n)
  | .float x => ofCount (Timestamp.ofBinary64 x)
  | .unpaired .text => fault .badEncoding
  | _ => fault .notTime

/-- Nothing, or what `read` makes of the value. -/
def readOptional {α : Type} (read : Value → Checked α) : Value → Checked (Option α)
  | .null => .valid none
  | value => some <$> read value

/-- A list or a tuple whose members are all texts. -/
def readTexts (value : Value) : Checked (List String) :=
  match value.elements? with
  | some items => allFrom readText 0 items
  | none => fault .notList

/-- An object whose values are all texts. -/
def readTextTable : Value → Checked (List (String × String))
  | .object entries => allNamed readText entries
  | _ => fault .notDictionary

/-- What `read` makes of the entries of an object. -/
def readObject {α : Type} (read : Fields → Checked α) : Value → Checked α
  | .object entries => read entries
  | .unpaired .object => fault .badEncoding
  | _ => fault .notObject

end MailSearch.Value

namespace MailSearch.Fields

open Checked

/-- The value under a field's written name, or else under its plain one. -/
def field? (fields : Fields) (written plain : String) : Option Value :=
  match fields.get? written with
  | some value => some value
  | none => fields.get? plain

variable {α : Type}

/-- Checks a field that must be there. -/
def require (fields : Fields) (name : String) (read : Value → Checked α) : Checked α :=
  within (.name name) (match fields.get? name with
    | some value => read value
    | none => fault .missing)

/-- Checks a field that has both a written and a plain name, and a standard value. -/
def aliased (fields : Fields) (written plain : String) (standard : α) (read : Value → Checked α) :
    Checked α :=
  match fields.field? written plain with
  | some value => within (.name written) (read value)
  | none => .valid standard

/-- Checks a field that has a standard value. -/
def withDefault (fields : Fields) (name : String) (standard : α) (read : Value → Checked α) :
    Checked α :=
  fields.aliased name name standard read

end MailSearch.Fields

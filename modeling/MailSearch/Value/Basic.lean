import MailSearch.Number.Binary64
import MailSearch.Table
import MailSearch.Time.Timestamp

/-! Dynamic values, as documents, filters and requests hold them. An object is a table of values. Texts are sequences of
characters. One that holds half a pair of code units alone, as an escape in JSON can give it, is not among them: it is
kept as a value of its own kind, which agrees with nothing, has no words and gets into no search fields. Whatever is
stated about texts is stated about the others. -/

namespace MailSearch

/-- What a code unit that is half a pair can stand in: a text, or the name of an entry of an object. -/
inductive Unpaired where
  | text
  | object
  deriving DecidableEq, Repr

/-- A value of a document, a filter or a request. -/
inductive Value where
  | null
  | bool (b : Bool)
  | int (n : Int)
  | float (x : Binary64)
  | text (s : String)
  | time (t : Timestamp)
  | bytes (data : List UInt8)
  | list (items : List Value)
  | tuple (items : List Value)
  | object (entries : List (String × Value))
  /-- What JSON gives where an escape stands for half a pair alone: its characters are not known. -/
  | unpaired (kind : Unpaired)
  deriving Repr, Inhabited

/-- The named values of an object. -/
abbrev Fields := Table Value

namespace Value

/-- What a value counts for where a yes or no is asked: nothing, zero and empty values are a no. -/
def isTruthy : Value → Bool
  | .null => false
  | .bool b => b
  | .int n => n != 0
  | .float x => !x.isZero
  | .text s => s != ""
  | .time _ => true
  | .bytes data => !data.isEmpty
  | .list items | .tuple items => !items.isEmpty
  | .object entries => !entries.isEmpty
  | .unpaired _ => true

def isUndefined : Value → Bool
  | .float x => x.isUndefined
  | _ => false

/-- The number a value compares as; the truth values are 0 and 1. -/
def quantity? : Value → Option Quantity
  | .bool b => some (.ofInt (if b then 1 else 0))
  | .int n => some (.ofInt n)
  | .float x => some x.quantity
  | _ => none

/-- The elements of a list or a tuple. -/
def elements? : Value → Option (List Value)
  | .list items | .tuple items => some items
  | _ => none

/-- What a walk through the value meets: the elements of a list or a tuple, the names of an object, the
characters of a text, and bytes as numbers. -/
def members? : Value → Option (List Value)
  | .list items | .tuple items => some items
  | .object entries => some (entries.map fun (name, _) => .text name)
  | .text s => some (s.toList.map fun c => .text c.toString)
  | .bytes data => some (data.map fun byte => .int byte.toNat)
  | _ => none

def text? : Value → Option String
  | .text s => some s
  | _ => none

def fields? : Value → Option Fields
  | .object entries => some entries
  | _ => none

/-- The value, unless it is nothing. -/
def given? : Value → Option Value
  | .null => none
  | value => some value

/-- A text, or nothing. -/
def ofText? (text : Option String) : Value := (text.map Value.text).getD .null

end Value

end MailSearch

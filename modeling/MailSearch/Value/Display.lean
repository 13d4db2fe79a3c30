import MailSearch.Value.Basic
import MailSearch.Number.Shortest
import MailSearch.Number.Numeral
import MailSearch.Text.Quoted

/-! Values as text. A text stands for itself; inside a sequence or an object it is quoted, and
timestamps and byte strings are written out as expressions. -/

namespace MailSearch

/-- An offset as days, seconds and microseconds, leaving out those that are zero. -/
def Timestamp.offsetExpression (east : Int) : String :=
  if east = 0 then "datetime.timezone.utc"
  else
    let second := east / 1000000
    let parts := [("days=", second / 86400), ("seconds=", second % 86400), ("microseconds=", east % 1000000)]
    let shown := parts.filterMap fun (name, n) => if n = 0 then none else some (name ++ toString n)
    "datetime.timezone(datetime.timedelta(" ++ String.intercalate ", " shown ++ "))"

/-- A timestamp as an expression that gives its parts, leaving out zero seconds and microseconds. -/
def Timestamp.expression (t : Timestamp) : String :=
  let date := Date.ofDays t.day
  let clock := t.clock
  let fine :=
    if clock.microsecond ≠ 0 then [clock.second, clock.microsecond]
    else if clock.second ≠ 0 then [clock.second] else []
  let parts := [toString date.year, toString date.month, toString date.day, toString clock.hour,
    toString clock.minute] ++ fine.map (fun n => toString n)
  let zone := match t.offset with
    | some east => ["tzinfo=" ++ offsetExpression east]
    | none => []
  "datetime.datetime(" ++ String.intercalate ", " (parts ++ zone) ++ ")"

namespace Value

def boolText (b : Bool) : String := if b then "True" else "False"

/-- A character in the place of what is none. -/
def replacement : String := "�"

def floatText (x : Binary64) : String := x.toText .standard

/-- A list of one needs no comma, a tuple of one does. -/
def tupleText : List String → String
  | [item] => "(" ++ item ++ ",)"
  | items => "(" ++ String.intercalate ", " items ++ ")"

mutual

/-- The value as it is written inside another one. -/
def expression : Value → String
  | .null => "None"
  | .bool b => boolText b
  | .int n => toString n
  | .float x => floatText x
  | .text s => Text.quoted s
  | .time t => t.expression
  | .bytes data => Text.quotedBytes data
  | .list items => "[" ++ String.intercalate ", " (expressions items) ++ "]"
  | .tuple items => tupleText (expressions items)
  | .object entries => "\x7b" ++ String.intercalate ", " (entryExpressions entries) ++ "\x7d"
  | .unpaired _ => Text.quoted replacement

def expressions : List Value → List String
  | [] => []
  | item :: rest => expression item :: expressions rest

def entryExpressions : List (String × Value) → List String
  | [] => []
  | (name, value) :: rest => (Text.quoted name ++ ": " ++ expression value) :: entryExpressions rest

end

/-- The value as text. -/
def display : Value → String
  | .text s => s
  | .time t => t.toText " "
  | value => value.expression

/-- Whether a whole number has more digits than a numeral may have. -/
def isLongInt (n : Int) : Bool := tenTo Numeral.digitLimit ≤ n.natAbs

/-- Whether the value holds a whole number too long to be written. -/
def hasLongInt : Value → Bool
  | .int n => isLongInt n
  | .list items | .tuple items => anyLong items
  | .object entries => anyLongEntry entries
  | _ => false
where
  anyLong : List Value → Bool
    | [] => false
    | item :: rest => hasLongInt item || anyLong rest
  anyLongEntry : List (String × Value) → Bool
    | [] => false
    | (_, value) :: rest => hasLongInt value || anyLongEntry rest

end Value

end MailSearch

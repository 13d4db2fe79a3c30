import MailSearch.Value.Display

/-! Log lines for reading by eye: the level, the event and the logger come first, the other values
follow by name, and a stack and an exception stand below on lines of their own. -/

namespace MailSearch.Logging

open Text

/-- Characters that may not stand in a value without quotation marks. -/
def isMarking (c : Char) : Bool :=
  [' ', '\t', '=', '\r', '\n', doubleQuote, singleQuote].contains c

/-- A value after its name; a text is quoted only where it must be. -/
def plainValue : Value → String
  | .text s => if s.toList.any isMarking then quoted s else s
  | value => value.expression

/-- The least width of the column of events. -/
def eventWidth : Nat := 30

def padEvent (event : String) : String :=
  event ++ String.ofList (List.replicate (eventWidth - event.length) ' ')

def bracketed (text : String) : String := "[" ++ text ++ "]"

/-- The values that have a place of their own on a line, and how they are written there. -/
def columns : List (String × (String → String)) :=
  [("level", bracketed), ("event", padEvent), ("logger", bracketed), ("logger_name", bracketed)]

def stackName : String := "stack"
def exceptionName : String := "exception"

/-- Whether a value is shown after its name. -/
def isPlain (name : String) : Bool :=
  !(columns.map Prod.fst).contains name && name != stackName && name != exceptionName

def headText (line : Fields) : String :=
  let placed := columns.filterMap fun (name, write) => (line.get? name).map fun value => write value.display
  let others := line.filter fun (name, _) => isPlain name
  String.intercalate " " (placed ++ others.map fun (name, value) => name ++ "=" ++ plainValue value)

/-- A text that may be left out; other values have no place below a line. -/
def belowText? (value : Option Value) : Option (Option String) :=
  match value with
  | none | some .null => some none
  | some (.text s) => some (some s)
  | some _ => none

/-- A rule between a stack and an exception. -/
def separatingRule : String := String.ofList (List.replicate 79 '=')

/-- The text of a line; `none` where its stack or its exception is no text. -/
def plainText? (line : Fields) : Option String := do
  let stack ← belowText? (line.get? stackName)
  let exception ← belowText? (line.get? exceptionName)
  let upper := (stack.map ("\n" ++ ·)).getD ""
  let lower := (exception.map ("\n" ++ ·)).getD ""
  let rule := if stack.isSome && exception.isSome then "\n\n" ++ separatingRule ++ "\n" else ""
  return headText line ++ upper ++ rule ++ lower

end MailSearch.Logging

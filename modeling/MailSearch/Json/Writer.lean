import MailSearch.Value.Display

/-! Writing values as JSON, in ASCII alone. What JSON has no form for is written as the text of its
expression. -/

namespace MailSearch.Json

open Text

def layout : DecimalLayout := { DecimalLayout.standard with infinityText := "Infinity", undefinedText := "NaN" }

/-- A code unit of 16 bits, written by its number. -/
def writeUnit (unit : Nat) : List Char := backslash :: 'u' :: hexDigits 4 unit

/-- A character: by itself where it is a printable one of ASCII, and otherwise by its code units. -/
def writeChar (c : Char) : List Char :=
  match namedEscape? doubleQuote c with
  | some escape => escape
  | none =>
    if 0x20 ≤ c.toNat ∧ c.toNat < 0x7F then [c]
    else if c.toNat < 0x10000 then writeUnit c.toNat
    else
      let past := c.toNat - 0x10000
      writeUnit (0xD800 + past / 1024) ++ writeUnit (0xDC00 + past % 1024)

def writeText (s : String) : String :=
  String.ofList (doubleQuote :: s.toList.flatMap writeChar ++ [doubleQuote])

mutual

def write : Value → String
  | .null => "null"
  | .bool b => if b then "true" else "false"
  | .int n => toString n
  | .float x => x.toText layout
  | .text s => writeText s
  | .time t => writeText t.expression
  | .bytes data => writeText (quotedBytes data)
  | .list items | .tuple items => "[" ++ String.intercalate ", " (writeItems items) ++ "]"
  | .object entries => "\x7b" ++ String.intercalate ", " (writeEntries entries) ++ "\x7d"
  | .unpaired _ => writeText Value.replacement

def writeItems : List Value → List String
  | [] => []
  | item :: rest => write item :: writeItems rest

def writeEntries : List (String × Value) → List String
  | [] => []
  | (name, value) :: rest => (writeText name ++ ": " ++ write value) :: writeEntries rest

end

end MailSearch.Json

import MailSearch.Text.CharSet

/-! Line breaks, and the number of lines they end. -/

namespace MailSearch.Text

/-- Line, form and paragraph ends, and the ASCII separators that end records. -/
def lineBreaks : CharSet := ⟨[0xA, 0xE, 0x1C, 0x1F, 0x85, 0x86, 0x2028, 0x202A]⟩

/-- The number of line breaks; a carriage return and a line feed after it are one. -/
def countBreaks : List Char → Nat
  | [] => 0
  | '\r' :: '\n' :: rest => countBreaks rest + 1
  | c :: rest => if lineBreaks.contains c then countBreaks rest + 1 else countBreaks rest

/-- The number of lines that a text takes when a line feed is written after it. -/
def lineCount (s : String) : Nat := countBreaks (s.toList ++ ['\n'])

end MailSearch.Text

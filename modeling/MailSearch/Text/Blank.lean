import MailSearch.Text.CharSet

/-! Blank characters, trimming, and the division of a text at blanks. -/

namespace MailSearch.Text

/-- Spaces of every width except the zero-width ones, line and paragraph ends, and the four ASCII
separators. -/
def blankChars : CharSet := ⟨[
  0x9, 0xE, 0x1C, 0x21, 0x85, 0x86, 0xA0, 0xA1, 0x1680, 0x1681, 0x2000, 0x200B, 0x2028, 0x202A,
  0x202F, 0x2030, 0x205F, 0x2060, 0x3000, 0x3001]⟩

def isBlank (c : Char) : Bool := blankChars.contains c

/-- White space in the sense of the character database: the blanks without the ASCII separators. -/
def isWhiteSpace (c : Char) : Bool := isBlank c && !(0x1C ≤ c.toNat && c.toNat ≤ 0x1F)

/-- Removes the characters satisfying `drop` from both ends. -/
def trim (drop : Char → Bool) (chars : List Char) : List Char :=
  ((chars.dropWhile drop).reverse.dropWhile drop).reverse

def stripChars (chars : List Char) : List Char := trim isBlank chars

/-- The text without the blanks at its ends. -/
def strip (s : String) : String := String.ofList (stripChars s.toList)

/-- The pieces of a text between its blanks. -/
def pieces (s : String) : List String := (runs (!isBlank ·) s.toList).map String.ofList

end MailSearch.Text

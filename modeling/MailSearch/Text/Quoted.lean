import MailSearch.Text.Printable

/-! Quoted texts and byte strings. The quotation mark is single unless that alone occurs inside;
controls and unprintable characters are written by their code. -/

namespace MailSearch.Text

def singleQuote : Char := Char.ofNat 0x27
def doubleQuote : Char := Char.ofNat 0x22
def backslash : Char := Char.ofNat 0x5C

/-- The mark that encloses a text. -/
def quotationMark (chars : List Char) : Char :=
  if chars.contains singleQuote && !chars.contains doubleQuote then doubleQuote else singleQuote

/-- The lower-case hexadecimal digits of `n`, at least `width` of them. -/
def hexDigits (width n : Nat) : List Char :=
  let digits := Nat.toDigits 16 n
  List.replicate (width - digits.length) '0' ++ digits

/-- The escapes of the mark, the backslash and the three named controls. -/
def namedEscape? (mark c : Char) : Option (List Char) :=
  if c = mark ∨ c = backslash then some [backslash, c]
  else if c = '\t' then some [backslash, 't']
  else if c = '\n' then some [backslash, 'n']
  else if c = '\r' then some [backslash, 'r']
  else none

def quoteChar (mark c : Char) : List Char :=
  match namedEscape? mark c with
  | some escape => escape
  | none =>
    if isPrintable c then [c]
    else if c.toNat < 0x100 then backslash :: 'x' :: hexDigits 2 c.toNat
    else if c.toNat < 0x10000 then backslash :: 'u' :: hexDigits 4 c.toNat
    else backslash :: 'U' :: hexDigits 8 c.toNat

/-- The text between quotation marks. -/
def quoted (s : String) : String :=
  let mark := quotationMark s.toList
  String.ofList (mark :: s.toList.flatMap (quoteChar mark) ++ [mark])

def quoteByte (mark : Char) (byte : UInt8) : List Char :=
  let c := Char.ofNat byte.toNat
  match namedEscape? mark c with
  | some escape => escape
  | none => if 0x20 ≤ byte && byte < 0x7F then [c] else backslash :: 'x' :: hexDigits 2 byte.toNat

/-- The bytes between quotation marks, after a `b`; only ASCII shows as itself. -/
def quotedBytes (bytes : List UInt8) : String :=
  let mark := quotationMark (bytes.map fun byte => Char.ofNat byte.toNat)
  String.ofList ('b' :: mark :: bytes.flatMap (quoteByte mark) ++ [mark])

end MailSearch.Text

import MailSearch.Predicate.Basic
import MailSearch.Text.CaseFold

/-! Literal patterns: how one matches a text, letters counting as equal when they differ at most in
case, and how it is written as a regular expression. -/

namespace MailSearch.Pattern

open Text

/-- Whether `chars` begins with the text, up to case. -/
def beginsWith : List Char → List Char → Bool
  | [], _ => true
  | _ :: _, [] => false
  | a :: text, c :: chars => sameLetter a c && beginsWith text chars

/-- Whether the text occurs somewhere in `chars`, up to case. -/
def occursIn (text : List Char) : List Char → Bool
  | [] => text.isEmpty
  | c :: chars => beginsWith text (c :: chars) || occursIn text chars

/-- Whether the pattern matches a text. -/
def accepts (pattern : Pattern) (s : String) : Bool :=
  if pattern.anchored then beginsWith pattern.text.toList s.toList
  else occursIn pattern.text.toList s.toList

/-- The characters that stand for themselves in a regular expression only after a backslash. -/
def specialChars : List Char := "\t\n\x0b\x0c\r #$&*+-.?()[]\x7b\x7d|^~\\".toList

def escapeChar (c : Char) : List Char := if specialChars.contains c then ['\\', c] else [c]

/-- The regular expression that matches what the pattern matches. -/
def regex (pattern : Pattern) : String :=
  String.ofList ((if pattern.anchored then ['^'] else []) ++ pattern.text.toList.flatMap escapeChar)

end MailSearch.Pattern

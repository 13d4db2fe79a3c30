import MailSearch.Text.Composition
import MailSearch.Text.Direction
import MailSearch.Text.Lowercase
import MailSearch.Text.Punycode
import MailSearch.Url.LabelChar
import MailSearch.Url.Percent

/-! The labels of a host name, and their form in ASCII. -/

namespace MailSearch.Url

open Text

/-- Whether hyphens stand only where a label may have them: neither at an end, nor in the two places
that tell an encoded label. -/
def hyphensFit (label : List Char) : Bool :=
  label.head? != some '-' && label.getLast? != some '-' && (label.drop 2).take 2 != ['-', '-']

/-- Whether a label may be part of a name. -/
def isLabel (label : List Char) : Bool :=
  !label.isEmpty && isComposed label && hyphensFit label && !(label.head?.any isMark) &&
    areAllowed label [] label && areAligned (label.map direction)

/-- What an encoded label begins with. -/
def encodedStart : List Char := ['x', 'n', '-', '-']

/-- The most characters of a label in ASCII. -/
def longestLabel : Nat := 63

/-- The label that an encoded label stands for. Other labels stand for themselves. -/
def decodedLabel? (label : List Char) : Option (List Char) :=
  if encodedStart.isPrefixOf label then
    if label.getLast? == some '-' then none else Punycode.decode? (label.drop encodedStart.length)
  else some label

/-- The ASCII form of a label in lower case. A label is not judged where it is in ASCII as written, but
is where only its lower case is. -/
def asciiLabel? (label : List Char) : Option (List Char) :=
  if label.all Punycode.isAscii then some (lowerOutsideEscapes label)
  else
    let lowered := lowerChars label
    if lowered.all Punycode.isAscii then
      if lowered.length ≤ longestLabel && (decodedLabel? lowered).any isLabel then some lowered else none
    else
      let encoded := encodedStart ++ Punycode.encode lowered
      if isLabel lowered && encoded.length ≤ longestLabel then some encoded else none

end MailSearch.Url

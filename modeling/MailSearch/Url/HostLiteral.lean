import MailSearch.Text.Digit
import MailSearch.Text.Section
import MailSearch.Url.Percent

/-! Hosts given by number: up to four numbers between points; or eight groups of hexadecimal digits
between colons, of which two colons in a row leave out some, and possibly the zone in which the number
holds. -/

namespace MailSearch.Url

open Text

/-- Digits, or hexadecimal digits after a zero and an x. -/
def isNumber (chars : List Char) : Bool :=
  match chars with
  | '0' :: 'x' :: digits | '0' :: 'X' :: digits => !digits.isEmpty && digits.all isHexDigit
  | _ => !chars.isEmpty && chars.all isAsciiDigit

/-- Up to four numbers between points. -/
def areNumbers (chars : List Char) : Bool :=
  let parts := sections '.' chars
  parts.length ≤ 4 && parts.all isNumber

/-- Four decimal numbers of up to three digits between points. -/
def isDottedNumber (chars : List Char) : Bool :=
  let parts := sections '.' chars
  parts.length = 4 && parts.all fun part => !part.isEmpty && part.length ≤ 3 && part.all isAsciiDigit

def isGroup (chars : List Char) : Bool :=
  !chars.isEmpty && chars.length ≤ 4 && chars.all isHexDigit

/-- The number of groups between colons; a dotted number may take the place of the last two. -/
def countGroups? : List (List Char) → Option Nat
  | [] => some 0
  | [last] => if isGroup last then some 1 else if isDottedNumber last then some 2 else none
  | group :: rest => if isGroup group then (countGroups? rest).map (· + 1) else none

/-- The parts of a text before and after its first two colons in a row. -/
def splitGap : List Char → Option (List Char × List Char)
  | [] => none
  | ':' :: ':' :: rest => some ([], rest)
  | c :: rest => (splitGap rest).map fun (before, after) => (c :: before, after)

def groupsOf (chars : List Char) : List (List Char) := if chars.isEmpty then [] else sections ':' chars

def isHostNumber (chars : List Char) : Bool :=
  match splitGap chars with
  | none => countGroups? (groupsOf chars) == some 8
  | some (before, after) =>
    match countGroups? (groupsOf after) with
    | some count =>
      (groupsOf before).all isGroup && (groupsOf before).length + count ≤ 7
    | none => false

/-- Whether a text is of unreserved characters and escapes. -/
def isZone : List Char → Bool
  | [] => true
  | '%' :: a :: b :: rest => isHexDigit a && isHexDigit b && isZone rest
  | c :: rest => isUnreserved c && isZone rest

/-- The zone after a percent sign, which may itself be escaped. -/
def zoneName (zone : List Char) : List Char :=
  match zone with
  | '2' :: '5' :: c :: rest => c :: rest
  | _ => zone

/-- A host by number: the number, and what follows the percent sign after it. -/
structure HostLiteral where
  number : List Char
  zone : Option (List Char)

/-- Reads what stands between the brackets. -/
def HostLiteral.read? (chars : List Char) : Option HostLiteral :=
  let number := chars.takeWhile (· != '%')
  if !isHostNumber number then none
  else match chars.dropWhile (· != '%') with
    | [] => some ⟨number, none⟩
    | _ :: zone => if !zone.isEmpty && isZone zone then some ⟨number, some zone⟩ else none

/-- The text between the brackets, as it was read. -/
def HostLiteral.plain (literal : HostLiteral) : List Char :=
  literal.number ++ ((literal.zone.map ('%' :: ·)).getD [])

/-- The text between the brackets in its normal form; a zone may not hold control characters. -/
def HostLiteral.normal? (literal : HostLiteral) : Option (List Char) :=
  let number := literal.number.map Char.toLower
  match literal.zone.map zoneName with
  | none => some number
  | some zone =>
    if escapesControl zone then none else some (number ++ '%' :: escaped isUnreserved zone)

end MailSearch.Url

import MailSearch.Number.Numeral
import MailSearch.Url.HostLiteral
import MailSearch.Url.Label
import MailSearch.Url.Path

/-! Addresses of the form `scheme://user@host:port/path?query#fragment`, of which the user, the query
and the fragment are passed over. Addresses on the web, and those without a scheme, are brought into
their normal form; others keep their host and path as written. -/

namespace MailSearch

/-- The parts of an address that requests need, as far as they are given. -/
structure Url where
  scheme : Option String
  host : Option String
  portNumber : Option Nat
  path : String
  deriving DecidableEq, Repr

namespace Url

open Text

def isSchemeChar (c : Char) : Bool := c.isAlphanum || c == '+' || c == '-'

/-- Splits a scheme off: a letter and what may follow it, up to a colon. -/
def splitScheme (chars : List Char) : Option String × List Char :=
  match chars.takeWhile isSchemeChar, chars.dropWhile isSchemeChar with
  | c :: name, ':' :: rest =>
    if c.isAlpha then (some (String.ofList ((c :: name).map Char.toLower)), rest) else (none, chars)
  | _, _ => (none, chars)

/-- Splits off what stands between two slashes and the path. A text without a scheme begins with it,
unless a slash comes first. -/
def splitAuthority (scheme : Option String) (chars : List Char) : List Char × List Char :=
  let ends (c : Char) : Bool := c == '/' || c == '?' || c == '#' || c == backslash
  let split (chars : List Char) : List Char × List Char :=
    (chars.takeWhile (!ends ·), chars.dropWhile (!ends ·))
  match chars with
  | '/' :: '/' :: rest => split rest
  | '/' :: _ => ([], chars)
  | _ => if scheme.isNone then split chars else ([], chars)

/-- What an authority says after the last at sign, the user left out. -/
def withoutUser (authority : List Char) : List Char := (sections '@' authority).getLast?.getD []

/-- Schemes whose addresses have a normal form; an address without a scheme has one too. -/
def isWeb (scheme : Option String) : Bool :=
  match scheme with
  | none => true
  | some name => name == "http" || name == "https"

/-- Characters that end a name, or have a place of their own in an address. -/
def delimiters : List Char := ['[', ']', '%', ':', '/', '?', '#']

def isNameChar (c : Char) : Bool :=
  0x20 < c.toNat && c.toNat != 0x7F && !delimiters.contains c

/-- Splits a name off: characters that names may hold, and escapes. -/
def splitName : List Char → List Char × List Char
  | [] => ([], [])
  | c :: rest =>
    match c, rest with
    | '%', a :: b :: later =>
      if isHexDigit a && isHexDigit b then
        let (name, after) := splitName later
        (c :: a :: b :: name, after)
      else ([], '%' :: a :: b :: later)
    | c, rest =>
      if isNameChar c then
        let (name, after) := splitName rest
        (c :: name, after)
      else ([], c :: rest)

/-- The normal form of a name: no escape that is not needed, and each label in ASCII and lower case. A
name of numbers stays as it is, and no name may hold control characters. -/
def normalName? (name : List Char) : Option (List Char) :=
  if areNumbers name then some name
  else if escapesControl name then none
  else ((sections '.' (withoutNeedlessEscapes name)).mapM asciiLabel?).map (List.intercalate ['.'])

/-- Reads the host at the start of an authority. -/
def readHost? (web : Bool) (chars : List Char) : Option (List Char × List Char) :=
  match chars with
  | '[' :: rest => do
    let literal ← HostLiteral.read? (rest.takeWhile (· != ']'))
    let host ← if web then literal.normal? else some literal.plain
    match rest.dropWhile (· != ']') with
    | [] => none
    | _ :: after => some (host, after)
  | _ => do
    let (name, after) := splitName chars
    let host ← if web then normalName? name else some name
    some (host, after)

/-- The greatest number that a server can listen on. -/
def greatestPort : Nat := 65535

/-- Reads the digits after a host and a colon: leading zeros aside, at most five. -/
def readPort? (digits : List Char) : Option (Option Nat) :=
  if digits.isEmpty then some none
  else
    let significant := digits.dropWhile (· == '0')
    let number := Numeral.natOfDigits (significant.map fun c => c.toNat - 48)
    if digits.all isAsciiDigit && significant.length ≤ 5 && number ≤ greatestPort then
      some (some number)
    else none

/-- Reads what follows a host: nothing, or a colon and digits. -/
def readAfterHost? (chars : List Char) : Option (Option Nat) :=
  match chars with
  | [] => some none
  | ':' :: digits => readPort? digits
  | _ => none

/-- Reads the host and the number in an authority; both are missing where it is empty. -/
def readAuthority? (web : Bool) (authority : List Char) : Option (Option String × Option Nat) :=
  if authority.isEmpty then some (none, none)
  else do
    let (host, after) ← readHost? web (withoutUser authority)
    let portNumber ← readAfterHost? after
    some (some (String.ofList host), portNumber)

/-- Reads an address. -/
def read? (text : String) : Option Url := do
  let (scheme, rest) := splitScheme text.toList
  let (authority, tail) := splitAuthority scheme rest
  let (host, portNumber) ← readAuthority? (isWeb scheme) authority
  let path := tail.takeWhile fun c => c != '?' && c != '#'
  let path := String.ofList (if isWeb scheme then normalPath path else path)
  some { scheme, host, portNumber, path }

end Url

end MailSearch

import MailSearch.Failure
import MailSearch.Text.Blank
import MailSearch.Url.Basic

/-! The address of the search server: a scheme, a host, the number it listens on there, and the path
that all requests begin with. One scheme has a standard number. -/

namespace MailSearch.Elastic

structure Address where
  scheme : String
  host : String
  portNumber : Nat
  path : String
  deriving DecidableEq, Repr

namespace Address

def standardPort? (scheme : String) : Option Nat := if scheme = "https" then some 443 else none

/-- The path that requests begin with: nothing for the root, and otherwise one slash before it and none
after it. -/
def requestPath (path : String) : String :=
  if path = "" ∨ path = "/" then ""
  else String.ofList ('/' :: Text.trim (· == '/') path.toList)

/-- The address of a server; the scheme, the host and a number must be given, or follow from the
scheme. -/
def ofUrl? (url : Url) : Option Address := do
  let scheme ← url.scheme
  let host ← url.host
  let portNumber ← url.portNumber.or (standardPort? scheme)
  if host = "" then none else some { scheme, host, portNumber, path := requestPath url.path }

/-- Reads an address. -/
def read (text : String) : Except Failure Address :=
  match Url.read? text with
  | none => .error (.badValue (.unreadableAddress (Text.quoted text)))
  | some url =>
    match ofUrl? url with
    | none => .error (.badValue .incompleteAddress)
    | some address => .ok address

/-- A host as it stands in an address, in brackets where it holds colons. -/
def hostText (host : String) : String := if host.toList.contains ':' then "[" ++ host ++ "]" else host

def text (address : Address) : String :=
  address.scheme ++ "://" ++ hostText address.host ++ ":" ++ toString address.portNumber ++ address.path

end Address

end MailSearch.Elastic

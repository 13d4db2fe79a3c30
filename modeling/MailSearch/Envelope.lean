import MailSearch.Failure
import MailSearch.SearchIndex
import MailSearch.Text.Normal
import MailSearch.Text.Utf8
import MailSearch.Value.Display

/-! Search fields from a message's envelope, the list of its header fields in fixed positions. Address
lists hold entries of a name, a route, a mailbox and a host. What cannot be read is left out. -/

namespace MailSearch.Envelope

open Text

def subjectPosition : Nat := 1
def senderPosition : Nat := 2
def recipientPosition : Nat := 5
def copiedPosition : Nat := 6

/-- The element at a position, or nothing. -/
def elementAt (elements : List Value) (position : Nat) : Value := (elements[position]?).getD .null

/-- The header field at a position, or nothing. -/
def fieldAt (envelope : Value) (position : Nat) : Value :=
  elementAt (envelope.elements?.getD []) position

/-- A part of an entry as text. -/
def partText : Value → String
  | .bytes data => String.ofList (Utf8.decodeReplacing data)
  | value => value.display

/-- The address of an entry that has a mailbox and a host. -/
def address? (entry : List Value) : Option String :=
  let mailbox := elementAt entry 2
  let host := elementAt entry 3
  if mailbox.isTruthy && host.isTruthy then
    some (normalized (partText mailbox ++ "@" ++ partText host))
  else none

/-- The name of an entry, unless it is blank. -/
def name? (entry : List Value) : Option String :=
  let name := elementAt entry 0
  if name.isTruthy then
    let cleaned := normalized (partText name)
    if cleaned = "" then none else some cleaned
  else none

/-- The well-formed entries of an address list. -/
def entries : Value → List (List Value)
  | .list items => items.filterMap Value.elements?
  | _ => []

def nonEmptyList (texts : List String) : Option (List String) :=
  if texts.isEmpty then none else some texts

def nonEmpty (s : String) : Option String := if s = "" then none else some s

def addresses (addressList : Value) : Option (List String) :=
  nonEmptyList ((entries addressList).filterMap address?)

def names (addressList : Value) : Option String :=
  nonEmpty (String.intercalate " " ((entries addressList).filterMap name?))

/-- The subject that counts: the one given, or else the one in the envelope. -/
def effectiveSubject (envelope subject : Value) : Value :=
  if subject.isTruthy then subject else fieldAt envelope subjectPosition

/-- A subject in normal form; empty if it is neither text nor bytes. -/
def normalizedSubject : Value → String
  | .text s => normalized s
  | .bytes data => normalized (partText (.bytes data))
  | _ => ""

/-- The search fields of a message with this envelope and this decoded subject. -/
def searchIndex (envelope subject : Value) : SearchIndex :=
  let sender := fieldAt envelope senderPosition
  let recipient := fieldAt envelope recipientPosition
  let copied := fieldAt envelope copiedPosition
  let subjectText := normalizedSubject (effectiveSubject envelope subject)
  { sender := addresses sender
    senderName := names sender
    recipient := addresses recipient
    recipientName := names recipient
    copied := addresses copied
    copiedName := names copied
    subject := nonEmpty subjectText
    subjectWords := nonEmptyList (pieces subjectText) }

/-- Whether an entry holds a number too long to be written where a text is needed. -/
def isOverlong (entry : List Value) : Bool :=
  let mailbox := elementAt entry 2
  let host := elementAt entry 3
  (mailbox.isTruthy && host.isTruthy && (mailbox.hasLongInt || host.hasLongInt)) ||
    (elementAt entry 0).hasLongInt

/-- Whether some address of the envelope holds a number too long to be written. -/
def hasOverlongEntry (envelope : Value) : Bool :=
  [senderPosition, recipientPosition, copiedPosition].any fun position =>
    (entries (fieldAt envelope position)).any isOverlong

/-- The search fields of a message, unless a number in its envelope is too long to be written. -/
def searchIndex? (envelope subject : Value) : Except Failure SearchIndex :=
  if hasOverlongEntry envelope then .error (.badValue .longNumber)
  else .ok (searchIndex envelope subject)

end MailSearch.Envelope

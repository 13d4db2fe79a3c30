import MailSearch.Input.Scalar

/-! The owners of messages, and their mailboxes. -/

namespace MailSearch

/-- The user whose messages are searched. -/
structure Identity where
  id : String
  username : String
  name : Option String
  address : Option String
  specialUse : Table String
  deriving DecidableEq, Repr

structure Mailbox where
  id : String
  user : String
  path : String
  specialUse : Option String
  deriving DecidableEq, Repr

namespace Identity

def ofFields (fields : Fields) : Checked Identity :=
  let text (name : String) : Checked String := fields.require name Value.readText
  let optional (name : String) : Checked (Option String) :=
    fields.withDefault name none (Value.readOptional Value.readText)
  Identity.mk <$> text "id" <*> text "username" <*> optional "name" <*> optional "address" <*>
    fields.withDefault "special_use" [] Value.readTextTable

def read : Value → Checked Identity := Value.readObject ofFields

end Identity

namespace Mailbox

def ofFields (fields : Fields) : Checked Mailbox :=
  let text (name : String) : Checked String := fields.require name Value.readText
  Mailbox.mk <$> text "id" <*> text "user" <*> text "path" <*>
    fields.withDefault "special_use" none (Value.readOptional Value.readText)

def read : Value → Checked Mailbox := Value.readObject ofFields

/-- The special uses whose mailboxes a search across all mailboxes leaves out. -/
def excludedUses : List String := ["\\Junk", "\\Trash"]

end Mailbox

end MailSearch

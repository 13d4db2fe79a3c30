import MailSearch.Input.Scalar

/-! What a search asks for: criteria that all must hold, and alternatives of which one must hold. Every
one of them may be left out. -/

namespace MailSearch

/-- Criteria of which at least one must hold. -/
structure Alternatives where
  query : Option String := none
  sender : Option String := none
  recipient : Option String := none
  subject : Option String := none
  deriving DecidableEq, Repr

/-- The criteria of a search. -/
structure Criteria where
  mailbox : Option String := none
  thread : Option String := none
  uids : Option String := none
  query : Option String := none
  alternatives : Alternatives := {}
  sender : Option String := none
  recipient : Option String := none
  subject : Option String := none
  attachments : Bool := false
  flagged : Bool := false
  seen : Bool := false
  unseen : Bool := false
  searchable : Bool := false
  dateStart : Option Timestamp := none
  dateEnd : Option Timestamp := none
  minSize : Option Int := none
  maxSize : Option Int := none
  deriving DecidableEq, Repr

namespace Alternatives

def ofFields (fields : Fields) : Checked Alternatives :=
  let text (written plain : String) : Checked (Option String) :=
    fields.aliased written plain none (Value.readOptional Value.readText)
  Alternatives.mk <$> text "query" "query" <*> text "from" "from_" <*> text "to" "to" <*>
    text "subject" "subject"

def read : Value → Checked Alternatives := Value.readObject ofFields

/-- Reads alternatives; nothing stands for none of them. -/
def readOrNone : Value → Checked Alternatives
  | .null => .valid {}
  | value => read value

end Alternatives

namespace Criteria

/-- A flag; nothing stands for a flag that is not set. -/
def readFlag : Value → Checked Bool
  | .null => .valid false
  | value => value.readBool

def ofFields (fields : Fields) : Checked Criteria :=
  let text (written plain : String) : Checked (Option String) :=
    fields.aliased written plain none (Value.readOptional Value.readText)
  let flag (name : String) : Checked Bool := fields.withDefault name false readFlag
  let time (name : String) : Checked (Option Timestamp) :=
    fields.withDefault name none (Value.readOptional Value.readTime)
  let size (written plain : String) : Checked (Option Int) :=
    fields.aliased written plain none (Value.readOptional Value.readInt)
  Criteria.mk <$> text "mailbox" "mailbox" <*> text "thread" "thread" <*> text "id" "id" <*>
    text "query" "query" <*> fields.aliased "or" "or_" {} Alternatives.readOrNone <*>
    text "from" "from_" <*> text "to" "to" <*> text "subject" "subject" <*>
    flag "attachments" <*> flag "flagged" <*> flag "seen" <*> flag "unseen" <*> flag "searchable" <*>
    time "datestart" <*> time "dateend" <*> size "minSize" "min_size" <*> size "maxSize" "max_size"

def read : Value → Checked Criteria := Value.readObject ofFields

end Criteria

end MailSearch

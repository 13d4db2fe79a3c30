import MailSearch.Collections
import MailSearch.Value.Basic

/-! How the search server indexes the fields of each collection. -/

namespace MailSearch.Elastic

/-- How a field is indexed: by its values, not at all, or field by field. -/
inductive FieldMapping where
  | keyword
  | words
  | whole
  | date
  | flag
  | stored
  | object (properties : List (String × FieldMapping))

namespace FieldMapping

mutual

def toValue : FieldMapping → Value
  | .keyword => .object [("type", .text "keyword")]
  | .words => .object [("type", .text "text")]
  | .whole => .object [("type", .text "long")]
  | .date => .object [("type", .text "date")]
  | .flag => .object [("type", .text "boolean")]
  | .stored => .object [("type", .text "object"), ("enabled", .bool false)]
  | .object properties => .object [("properties", .object (toEntries properties))]

def toEntries : List (String × FieldMapping) → List (String × Value)
  | [] => []
  | (name, mapping) :: rest => (name, toValue mapping) :: toEntries rest

end

def users : FieldMapping := .object [("id", .keyword), ("username", .keyword), ("name", .words),
  ("address", .keyword), ("special_use", .stored)]

def mailboxes : FieldMapping := .object [("id", .keyword), ("user", .keyword), ("path", .keyword),
  ("special_use", .keyword)]

/-- The search fields of a message. -/
def searchFields : FieldMapping := .object [("from", .keyword), ("fromName", .keyword), ("to", .keyword),
  ("toName", .keyword), ("cc", .keyword), ("ccName", .keyword), ("subject", .keyword),
  ("subjectWords", .keyword)]

def messages : FieldMapping := .object [("id", .keyword), ("user", .keyword), ("mailbox", .keyword),
  ("thread", .keyword), ("uid", .whole), ("idate", .date), ("size", .whole), ("ha", .flag),
  ("flagged", .flag), ("unseen", .flag), ("searchable", .flag), ("subject", .words), ("text", .words),
  ("envelope", .stored), ("search", searchFields)]

/-- The mapping of each collection. -/
def byCollection : Table FieldMapping :=
  [(Collections.users, users), (Collections.mailboxes, mailboxes), (Collections.messages, messages)]

end FieldMapping

end MailSearch.Elastic

import MailSearch.Input.Scalar

/-! The search fields of a message: its addresses, names and subject in the form in which searches look
for them. They are stored with the message as an object without empty fields. -/

namespace MailSearch

structure SearchIndex where
  sender : Option (List String) := none
  senderName : Option String := none
  recipient : Option (List String) := none
  recipientName : Option String := none
  copied : Option (List String) := none
  copiedName : Option String := none
  subject : Option String := none
  subjectWords : Option (List String) := none
  deriving DecidableEq, Repr

namespace SearchIndex

def ofTexts (texts : List String) : Value := .list (texts.map .text)

def entry (name : String) (value : Option Value) : Fields :=
  match value with
  | some value => [(name, value)]
  | none => []

/-- The search fields as they are stored. -/
def toFields (index : SearchIndex) : Fields :=
  entry "from" (index.sender.map ofTexts) ++ entry "fromName" (index.senderName.map .text) ++
    entry "to" (index.recipient.map ofTexts) ++ entry "toName" (index.recipientName.map .text) ++
    entry "cc" (index.copied.map ofTexts) ++ entry "ccName" (index.copiedName.map .text) ++
    entry "subject" (index.subject.map .text) ++ entry "subjectWords" (index.subjectWords.map ofTexts)

def toValue (index : SearchIndex) : Value := .object index.toFields

/-- Reads search fields from the entries of an object. -/
def ofFields (fields : Fields) : Checked SearchIndex :=
  let texts (written plain : String) : Checked (Option (List String)) :=
    fields.aliased written plain none (Value.readOptional Value.readTexts)
  let text (written plain : String) : Checked (Option String) :=
    fields.aliased written plain none (Value.readOptional Value.readText)
  SearchIndex.mk <$> texts "from" "from_" <*> text "fromName" "from_name" <*> texts "to" "to" <*>
    text "toName" "to_name" <*> texts "cc" "cc" <*> text "ccName" "cc_name" <*>
    text "subject" "subject" <*> texts "subjectWords" "subject_words"

def read : Value → Checked SearchIndex := Value.readObject ofFields

end SearchIndex

end MailSearch

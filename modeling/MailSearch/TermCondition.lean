import MailSearch.Predicate.Basic
import MailSearch.Text.Blank

/-! The conditions that terms of a search put on the search fields of messages. -/

namespace MailSearch

/-- The search fields that hold the addresses and the names of one role. -/
structure RoleFields where
  addresses : List String
  names : List String
  deriving DecidableEq, Repr

namespace RoleFields

def sender : RoleFields := ⟨["search.from"], ["search.fromName"]⟩

/-- Recipients, those of copies included. -/
def recipient : RoleFields := ⟨["search.to", "search.cc"], ["search.toName", "search.ccName"]⟩

/-- The condition on some one of the fields. -/
def anyField (condition : String → Predicate) : List String → Predicate
  | [field] => condition field
  | fields => .any (fields.map condition)

/-- A term with an at sign is a whole address, any other a part of a name. -/
def condition (fields : RoleFields) (term : String) : Predicate :=
  if term.toList.contains '@' then anyField (fun field => .eq field (.text term)) fields.addresses
  else anyField (fun field => .pattern field ⟨term, false⟩) fields.names

end RoleFields

/-- The search field that holds the words of the subject. -/
def subjectWordsField : String := "search.subjectWords"

/-- For each word of a term, the condition that a word of the subject begins with it. -/
def subjectConditions (term : String) : List Predicate :=
  (Text.pieces term).map fun word => .pattern subjectWordsField ⟨word, true⟩

end MailSearch

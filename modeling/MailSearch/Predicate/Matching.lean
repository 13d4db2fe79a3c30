import MailSearch.Predicate.Pattern
import MailSearch.Text.Blank
import MailSearch.Text.Section
import MailSearch.Text.WordChar
import MailSearch.Value.Order

/-! Which records satisfy a filter. A conjunction or a disjunction is evaluated from the left, and only
as far as needed to settle it. -/

namespace MailSearch

/-- The value reached from a record by names into nested objects. -/
def Value.follow? : Value → List String → Option Value
  | value, [] => some value
  | .object entries, name :: rest =>
    match Table.get? entries name with
    | some value => value.follow? rest
    | none => none
  | _, _ :: _ => none

/-- The value of a record at a dotted path. -/
def Value.at? (record : Value) (path : String) : Option Value := record.follow? (Text.pathNames path)

/-- The values that stand to be matched: the elements of a list, or else the value itself, if any. -/
def Value.candidates : Option Value → List Value
  | none | some .null => []
  | some (.list items) | some (.tuple items) => items
  | some value => [value]

/-- The values that a record offers at a dotted path. -/
def Value.candidatesAt (record : Value) (path : String) : List Value :=
  candidates (record.at? path)

namespace Bounds

/-- Whether a bound lets a value pass: the two compare, and the order is not `refused`. -/
def passes (value : Value) (bound : Option Value) (refused : Ordering → Bool) : Bool :=
  match bound with
  | none => true
  | some limit =>
    match value.compareWith limit with
    | .ordered order => !refused order
    | .undefined => true
    | .incomparable => false

/-- Whether a value compares with all bounds and lies within them. -/
def admits (bounds : Bounds) (value : Value) : Bool :=
  passes value bounds.gte (· == .lt) && passes value bounds.lte (· == .gt) &&
    passes value bounds.gt (· != .gt) && passes value bounds.lt (· != .lt)

end Bounds

namespace Predicate

/-- Whether a value agrees with one of those listed. -/
def isListed (values : List Value) (value : Value) : Bool := values.any value.agrees

/-- The fields that a full-text search looks into. -/
def textFields : List String := ["subject", "text"]

/-- The words of the texts that a record holds in the full-text fields, in lower case. -/
def recordWords (record : Value) : List (List Char) :=
  (textFields.flatMap record.candidatesAt).flatMap fun value =>
    match value.text? with
    | some s => Text.wordRuns (Text.lowerChars s.toList)
    | none => []

/-- Whether one of the terms of a query is among the words of a record. -/
def sharesWord (query : String) (record : Value) : Bool :=
  (Text.runs (!Text.isBlank ·) (Text.lowerChars query.toList)).any (recordWords record).contains

mutual

/-- Whether the record satisfies the filter; `none` when the evaluation reaches a condition of no
kind. -/
def holds? (record : Value) : Predicate → Option Bool
  | .eq field value => some ((record.candidatesAt field).any (·.same value))
  | .range field bounds => some ((record.candidatesAt field).any bounds.admits)
  | .memberOf field values => some ((record.candidatesAt field).any (isListed values))
  | .notMemberOf field values => some (!(record.candidatesAt field).any (isListed values))
  | .pattern field literal =>
    some ((record.candidatesAt field).any fun value => (value.text?.map literal.accepts).getD false)
  | .words query => some (sharesWord query record)
  | .presence field present => some ((record.at? field).isSome == present)
  | .all clauses => allHold? record clauses
  | .any clauses => anyHolds? record clauses
  | .bare => none

def allHold? (record : Value) : List Predicate → Option Bool
  | [] => some true
  | clause :: rest =>
    match holds? record clause with
    | some true => allHold? record rest
    | settled => settled

def anyHolds? (record : Value) : List Predicate → Option Bool
  | [] => some false
  | clause :: rest =>
    match holds? record clause with
    | some false => anyHolds? record rest
    | settled => settled

end

end Predicate

end MailSearch

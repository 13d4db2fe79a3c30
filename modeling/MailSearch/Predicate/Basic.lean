import MailSearch.Value.Basic

/-! Filters over records, as trees: conditions on one field each, full-text search, and their
conjunctions and disjunctions. -/

namespace MailSearch

/-- Bounds on a value, inclusive and exclusive; a bound that is absent is open. -/
structure Bounds where
  gte : Option Value := none
  lte : Option Value := none
  gt : Option Value := none
  lt : Option Value := none
  deriving Repr, Inhabited

/-- A literal text that a field contains, or begins with. -/
structure Pattern where
  text : String
  anchored : Bool
  deriving DecidableEq, Repr

/-- A filter. A field that holds a list satisfies a condition when one of its elements does. -/
inductive Predicate where
  | eq (field : String) (value : Value)
  | range (field : String) (bounds : Bounds)
  | memberOf (field : String) (values : List Value)
  | notMemberOf (field : String) (values : List Value)
  | pattern (field : String) (pattern : Pattern)
  | words (query : String)
  | presence (field : String) (present : Bool)
  | all (clauses : List Predicate)
  | any (clauses : List Predicate)
  /-- A condition of no kind, which can be neither evaluated nor rendered. -/
  | bare
  deriving Repr, Inhabited

namespace Predicate

/-- The name of the kind of condition. -/
def kind : Predicate → String
  | .eq _ _ => "eq"
  | .range _ _ => "range"
  | .memberOf _ _ => "member_of"
  | .notMemberOf _ _ => "not_member_of"
  | .pattern _ _ => "pattern"
  | .words _ => "text"
  | .presence _ _ => "exists"
  | .all _ => "and"
  | .any _ => "or"
  | .bare => ""

/-- The field that a condition is about. -/
def field? : Predicate → Option String
  | .eq field _ | .range field _ | .memberOf field _ | .notMemberOf field _ | .pattern field _
  | .presence field _ => some field
  | .words _ | .all _ | .any _ | .bare => none

/-- The clauses that are conditions on the field. -/
def constraining (field : String) (clauses : List Predicate) : List Predicate :=
  clauses.filter fun clause => clause.field? == some field

end Predicate

end MailSearch

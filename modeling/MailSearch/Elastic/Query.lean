import MailSearch.Predicate.Matching

/-! Queries of the search server: leaf conditions on one field, full-text matching, and the combination
of clauses that must, may and must not match; how filters are rendered as queries, and how queries are
written. -/

namespace MailSearch.Elastic

inductive Query where
  | matchAll
  | term (field : String) (value : Value)
  | terms (field : String) (values : List Value)
  | range (field : String) (bounds : Bounds)
  | begins (field : String) (text : String)
  | wildcard (field : String) (pattern : String)
  | fullText (query : String)
  | present (field : String)
  /-- All of `filter` and `must` match, none of `mustNot` does, and of `should` at least as many as
  `least` says, where it says so. -/
  | combined (filter must mustNot should : List Query) (least : Option Nat)
  deriving Repr, Inhabited

namespace Query

/-- A value as queries hold it; a timestamp is given as text. -/
def wireValue : Value → Value
  | .time t => .text t.iso
  | value => value

def wireBounds (bounds : Bounds) : Bounds :=
  { gte := bounds.gte.map wireValue
    lte := bounds.lte.map wireValue
    gt := bounds.gt.map wireValue
    lt := bounds.lt.map wireValue }

/-- The characters that a wildcard pattern takes literally only after a backslash. -/
def wildcardChars : List Char := ['\\', '*', '?']

def escapeWildcard (c : Char) : List Char := if wildcardChars.contains c then ['\\', c] else [c]

/-- The wildcard pattern of the texts that contain `text`. -/
def containing (text : String) : String :=
  String.ofList ('*' :: text.toList.flatMap escapeWildcard ++ ['*'])

def isFullText : Query → Bool
  | .fullText _ => true
  | _ => false

def negated (clause : Query) : Query := .combined [] [] [clause] [] none

/-- All clauses together; those of full text count for the ranking as well. -/
def conjunction (clauses : List Query) : Query :=
  .combined (clauses.filter (!·.isFullText)) (clauses.filter isFullText) [] [] none

def disjunction (clauses : List Query) : Query := .combined [] [] [] clauses (some 1)

mutual

/-- The query that a filter is rendered as; `none` when it holds a condition of no kind. -/
def ofPredicate? : Predicate → Option Query
  | .eq field value => some (.term field (wireValue value))
  | .range field bounds => some (.range field (wireBounds bounds))
  | .memberOf field values => some (.terms field (values.map wireValue))
  | .notMemberOf field values => some (negated (.terms field (values.map wireValue)))
  | .pattern field literal =>
    some (if literal.anchored then .begins field literal.text
      else .wildcard field (containing literal.text))
  | .words query => some (.fullText query)
  | .presence field wanted =>
    some (if wanted then .present field else negated (.present field))
  | .all clauses => (ofPredicates? clauses).map conjunction
  | .any clauses => (ofPredicates? clauses).map disjunction
  | .bare => none

def ofPredicates? : List Predicate → Option (List Query)
  | [] => some []
  | clause :: rest =>
    match ofPredicate? clause, ofPredicates? rest with
    | some query, some queries => some (query :: queries)
    | _, _ => none

end

/-- The query for a filter; without a filter, everything matches. -/
def ofFilter? : Option Predicate → Option Query
  | none => some .matchAll
  | some predicate => ofPredicate? predicate

def boundEntry (name : String) (bound : Option Value) : Fields :=
  match bound with
  | some value => [(name, value)]
  | none => []

def boundEntries (bounds : Bounds) : Fields :=
  boundEntry "gte" bounds.gte ++ boundEntry "lte" bounds.lte ++ boundEntry "gt" bounds.gt ++
    boundEntry "lt" bounds.lt

def single (name : String) (value : Value) : Value := .object [(name, value)]

/-- A text that is compared without regard to case. -/
def caseless (text : String) : Value :=
  .object [("value", .text text), ("case_insensitive", .bool true)]

/-- The sections of a combination. Where no clause is negated and no number of optional ones is asked
for, the section of filters is written even if it is empty. -/
def combination (filter must mustNot should : List Value) (least : Option Nat) : Fields :=
  let optional : Fields := match least with
    | some n => [("should", .list should), ("minimum_should_match", .int n)]
    | none => []
  let negative : Fields := if mustNot.isEmpty then [] else [("must_not", .list mustNot)]
  let positive : Fields :=
    if filter.isEmpty && !(optional ++ negative).isEmpty then [] else [("filter", .list filter)]
  let ranked : Fields := if must.isEmpty then [] else [("must", .list must)]
  positive ++ ranked ++ negative ++ optional

mutual

/-- The query as it is sent. -/
def toValue : Query → Value
  | .matchAll => single "match_all" (.object [])
  | .term field value => single "term" (single field value)
  | .terms field values => single "terms" (single field (.list values))
  | .range field bounds => single "range" (single field (.object (boundEntries bounds)))
  | .begins field text => single "prefix" (single field (caseless text))
  | .wildcard field pattern => single "wildcard" (single field (caseless pattern))
  | .fullText query =>
    single "multi_match" (.object [("query", .text query),
      ("fields", .list (Predicate.textFields.map .text)), ("type", .text "best_fields")])
  | .present field => single "exists" (single "field" (.text field))
  | .combined filter must mustNot should least =>
    single "bool" (.object
      (combination (toValues filter) (toValues must) (toValues mustNot) (toValues should) least))

def toValues : List Query → List Value
  | [] => []
  | query :: rest => toValue query :: toValues rest

end

def standardOffset : Int := 0
def standardSize : Int := 20

/-- The body of a search for messages, the newest first. -/
def messageSearch (query : Query) (offset size : Int) : Value :=
  .object [("query", query.toValue),
    ("sort", .list [single "idate" (single "order" (.text "desc"))]),
    ("from", .int offset), ("size", .int size)]

end Query

end MailSearch.Elastic

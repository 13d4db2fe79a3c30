import MailSearch.Action
import MailSearch.Elastic.Mapping
import MailSearch.Elastic.Query
import MailSearch.Store.Basic
import MailSearch.Value.Display

/-! Exchanges with the search server: the requests made of it, the responses it gives one after the
other, and the ways in which a request fails. -/

namespace MailSearch.Elastic

/-- Which parts of documents a response shall hold. -/
inductive Source where
  | whole
  | names (names : List String)
  deriving DecidableEq, Repr

/-- A change of one document: fields set on the document with an id. -/
structure DocumentUpdate where
  index : String
  id : String
  fields : Fields
  deriving Repr

inductive Request where
  | get (index id : String)
  | count (index : String) (query : Query)
  | search (index : String) (query : Query) (order : Option SortOrder) (size : Int) (source : Source)
  | searchBody (index : String) (body : Value)
  | indexExists (index : String)
  | createIndex (index : String) (mapping : FieldMapping)
  | scan (index : String) (query : Query) (order : Option SortOrder) (source : Source)
  | bulk (updates : List DocumentUpdate) (refresh : Bool)

namespace Source

def toValue : Source → Value
  | .whole => .bool true
  | .names wanted => .list (wanted.map .text)

end Source

/-- Sorting by id, as requests ask for it. -/
def sortClause (order : SortOrder) : Value :=
  let direction := match order with
    | .ascending => "asc"
    | .descending => "desc"
  .list [Query.single "id" (Query.single "order" (.text direction))]

def DocumentUpdate.toValue (update : DocumentUpdate) : Value :=
  .object [("_op_type", .text "update"), ("_index", .text update.index), ("_id", .text update.id),
    ("doc", .object update.fields)]

namespace Request

/-- The name of the operation that is asked for. -/
def method : Request → String
  | .get _ _ => "get"
  | .count _ _ => "count"
  | .search _ _ _ _ _ | .searchBody _ _ => "search"
  | .indexExists _ => "indices.exists"
  | .createIndex _ _ => "indices.create"
  | .scan _ _ _ _ => "scan"
  | .bulk _ _ => "bulk"

/-- The named arguments of the operation. -/
def arguments : Request → Fields
  | .get index id => [("index", .text index), ("id", .text id)]
  | .count index query => [("index", .text index), ("query", query.toValue)]
  | .search index query order size source =>
    [("index", .text index), ("query", query.toValue), ("sort", (order.map sortClause).getD .null),
      ("size", .int size), ("source", source.toValue)]
  | .searchBody index body => [("index", .text index), ("body", body)]
  | .indexExists index => [("index", .text index)]
  | .createIndex index mapping => [("index", .text index), ("mappings", mapping.toValue)]
  | .scan index query order source =>
    let sorting : Fields := match order with
      | some order => [("sort", sortClause order)]
      | none => []
    [("index", .text index),
      ("query", .object ([("query", query.toValue), ("_source", source.toValue)] ++ sorting)),
      ("preserve_order", .bool order.isSome)]
  | .bulk updates refresh =>
    [("actions", .list (updates.map DocumentUpdate.toValue)), ("raise_on_error", .bool false),
      ("refresh", .bool refresh)]

end Request

/-- A request that failed: how, with what message and status, and what the server said about it. -/
structure ClientError where
  fault : ClientFault
  message : String
  status : Int
  body : Value
  deriving Repr

namespace ClientError

/-- The name of an error that the server reported. -/
def serverErrorName? : ClientFault → Option String
  | .api => some "ApiError"
  | .notFound => some "NotFoundError"
  | .badRequest => some "BadRequestError"
  | .conflict => some "ConflictError"
  | .transport | .connection | .timeout => none

/-- A value written as an expression. -/
def expressionOf (value : Value) : Except Failure String :=
  if value.hasLongInt then .error (.badValue .longNumber) else .ok value.expression

/-- The first of the root causes that the server gave, if it gave any. -/
def rootCause? (error : Fields) : Except Failure (Option Value) :=
  match error.get? "root_cause" with
  | none | some (.object _) => .ok none
  | some causes =>
    match causes.members? with
    | some members => .ok members.head?
    | none => .error .wrongKind

/-- A detail of a cause, unless it is missing or empty. -/
def detail (cause : Fields) (name : String) : Except Failure (List String) :=
  match cause.get? name with
  | none => .ok []
  | some value =>
    if !value.isTruthy then .ok []
    else match value.text? with
      | some s => .ok [s]
      | none => .error .wrongKind

/-- What an error says that it was caused by. -/
def furtherCause (error : Fields) : Except Failure Fields :=
  match error.get? "caused_by" with
  | none => .ok []
  | some (.object entries) => .ok entries
  | some _ => .error .noMember

/-- The reason of a root cause, the resource it concerns, and the reason of what caused the error. -/
def causeTexts (error : Fields) (cause : Value) : Except Failure (List String) :=
  match cause with
  | .object entries =>
    match Table.get? entries "reason" with
    | none => .ok []
    | some reason => do
      let reason ← expressionOf reason
      let further ← furtherCause error
      return reason :: (← detail entries "resource.id") ++ (← detail entries "resource.type")
        ++ (← detail further "reason")
  | _ => .error .wrongKind

/-- What the server said about the error: its root cause, or whatever else it gave. -/
def reasons (body : Value) : Except Failure (List String) :=
  match body.fields?.bind (Table.get? · "error") with
  | none => .ok []
  | some (.object entries) => do
    match ← rootCause? entries with
    | none => return []
    | some cause => causeTexts entries cause
  | some error => return [← expressionOf error]

/-- The text of the error. What the server said may not have the form that the text asks for. -/
def text (error : ClientError) : Except Failure String :=
  match serverErrorName? error.fault with
  | some name => do
    let parts := toString error.status :: Text.quoted error.message :: (← reasons error.body)
    return name ++ "(" ++ String.intercalate ", " parts ++ ")"
  | none =>
    match error.fault with
    | .connection => .ok "Connection error"
    | .timeout => .ok "Connection timed out"
    | _ => .ok error.message

/-- The failure that the error amounts to: one of the store, with its text. -/
def failure (error : ClientError) : Failure :=
  match error.text with
  | .ok text => .storage (some text) (some (.client error.fault))
  | .error failure => failure

end ClientError

/-- What the server answers: a value or, for a request that is answered piece by piece, items; and the
error, if there is one, that the request ends with. -/
structure Response where
  value : Value := .null
  items : List Value := []
  error : Option ClientError := none
  deriving Repr

/-- A connection to the server: the index of each collection, whether changes shall be visible at once,
the responses still to come, and the requests made. -/
structure Connection where
  indices : Table String
  refresh : Bool
  responses : List Response
  requests : List Request

namespace Connection

/-- The index of each collection where nothing else is said. -/
def standardIndices : Table String :=
  [(Collections.users, Collections.users), (Collections.mailboxes, Collections.mailboxes),
    (Collections.messages, Collections.messages)]

/-- A connection that has made no request yet. -/
def opened (indices : Table String) (refresh : Bool) : Connection :=
  ⟨standardIndices.overlay indices, refresh, [], []⟩

/-- Makes a request and takes the next response. -/
def exchange (request : Request) : Action Connection Response := fun connection =>
  let made := { connection with requests := connection.requests ++ [request] }
  match connection.responses with
  | [] => ⟨.error .outOfResponses, [], made⟩
  | response :: rest => ⟨.ok response, [], { made with responses := rest }⟩

/-- The value that a request is answered with; an error is a failure of the store. -/
def ask (request : Request) : Action Connection Value := do
  let response ← exchange request
  match response.error with
  | some error => Action.fail error.failure
  | none => return response.value

/-- The index that holds a collection. -/
def indexOf (collection : String) : Action Connection String := fun connection =>
  match connection.indices.get? collection with
  | some index => ⟨.ok index, [], connection⟩
  | none => ⟨.error (.storage (some ("Unknown collection: " ++ collection)) none), [], connection⟩

end Connection

end MailSearch.Elastic

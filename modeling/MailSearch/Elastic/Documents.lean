import MailSearch.Elastic.Exchange

/-! Documents kept by the search server, each collection in an index of its own. A document's id there
is its `id` as text. -/

namespace MailSearch.Elastic

/-- The member of an object under a name. -/
def member (value : Value) (name : String) : Except Failure Value :=
  match value with
  | .object entries =>
    match Table.get? entries name with
    | some entry => .ok entry
    | none => .error (.absentName name)
  | _ => .error .wrongKind

/-- The members of a value that has some. -/
def membersOf (value : Value) : Except Failure (List Value) :=
  match value.members? with
  | some items => .ok items
  | none => .error .wrongKind

/-- The two members of a pair. -/
def pairOf (value : Value) : Except Failure (Value × Value) := do
  match ← membersOf value with
  | [first, second] => return (first, second)
  | [] => .error (.badValue (.tooFewMembers 0))
  | [_] => .error (.badValue (.tooFewMembers 1))
  | _ => .error (.badValue .tooManyMembers)

/-- A value as the text of an id. -/
def idText (id : Value) : Except Failure String :=
  if id.hasLongInt then .error (.badValue .longNumber) else .ok id.display

/-- The characters of bytes; those outside ASCII read as no character of any numeral. -/
def asciiChars (data : List UInt8) : List Char :=
  data.map fun byte => if byte < 0x80 then Char.ofNat byte.toNat else Char.ofNat 0xFFFD

/-- Reads a whole number from a numeral shown as `expression`. -/
def wholeOfText (expression : String) (chars : List Char) : Except Failure Int :=
  match Numeral.readInt chars with
  | .ok n => .ok n
  | .error fault => .error (.badValue (.ofNumeral expression fault))

/-- A value as a whole number; a fraction is cut off, and a text is read as a numeral. -/
def wholeNumber : Value → Except Failure Int
  | .int n => .ok n
  | .bool b => .ok (if b then 1 else 0)
  | .float x =>
    match x with
    | .finite _ _ _ => .ok (x.truncate?.getD 0)
    | .infinite _ => .error .infiniteNumber
    | .undefined _ => .error (.badValue .undefinedNumber)
  | .text s => wholeOfText (Text.quoted s) s.toList
  | .bytes data => wholeOfText (Text.quotedBytes data) (asciiChars data)
  | _ => .error .wrongKind

/-- A document from the id and the source of a hit; an `id` in the source counts before the hit's. -/
def document (id source : Value) : Except Failure Fields :=
  match source with
  | .object entries => .ok (Table.overlay [("id", id)] entries)
  | _ => .error .wrongKind

/-- The document of a hit that must have a source. -/
def documentOfHit (hit : Value) : Except Failure Fields := do
  let id ← member hit "_id"
  let source ← member hit "_source"
  document id source

/-- The document of a hit whose source may be missing or empty. -/
def documentOfListedHit (hit : Value) : Except Failure Fields := do
  let id ← member hit "_id"
  let source := (hit.fields?.bind (Table.get? · "_source")).getD .null
  document id (if source.isTruthy then source else .object [])

def renderQuery (filter : Option Predicate) : Except Failure Query :=
  match Query.ofFilter? filter with
  | some query => .ok query
  | none => .error .unsupportedPredicate

/-- The parts of documents that a listing asks for; the id comes first. -/
def sourceOf (names : Option (List String)) : Source :=
  match names with
  | some names => .names ("id" :: names.filter (· != "id"))
  | none => .whole

/-- What became of one update. -/
inductive UpdateOutcome where
  | modified
  | unchanged
  | failed
  deriving DecidableEq, Repr

/-- The member of an object under a name, or an empty object. -/
def memberOrEmpty (value : Value) (name : String) : Except Failure Value :=
  match value with
  | .object entries => .ok ((Table.get? entries name).getD (.object []))
  | _ => .error .noMember

/-- Reads one item of the answer to many updates: whether it succeeded, and its details. -/
def updateOutcome (item : Value) : Except Failure UpdateOutcome := do
  let (succeeded, details) ← pairOf item
  if succeeded.isTruthy then
    let update ← memberOrEmpty details "update"
    let result ← memberOrEmpty update "result"
    return if result.same (.text "updated") then .modified else .unchanged
  else return .failed

namespace Connection

def get (collection : String) (id : Value) : Action Connection (Option Fields) := do
  let index ← indexOf collection
  let id ← Action.ofExcept (idText id)
  let response ← exchange (.get index id)
  match response.error with
  | some error => if error.fault = .notFound then return none else Action.fail error.failure
  | none => return some (← Action.ofExcept (documentOfHit response.value))

def count (collection : String) (filter : Option Predicate) : Action Connection Int := do
  let index ← indexOf collection
  let query ← Action.ofExcept (renderQuery filter)
  let answer ← ask (.count index query)
  Action.ofExcept (member answer "count" >>= wholeNumber)

/-- The hits for a query: all of them, or the first ones up to a limit. -/
def hits (index : String) (query : Query) (selection : Selection) : Action Connection (List Value) := do
  let source := sourceOf selection.names
  match selection.limit with
  | none =>
    let response ← exchange (.scan index query selection.order source)
    match response.error with
    | some error => Action.fail error.failure
    | none => return response.items
  | some size =>
    let answer ← ask (.search index query selection.order size source)
    Action.ofExcept do membersOf (← member (← member answer "hits") "hits")

def find (collection : String) (selection : Selection) : Action Connection (List Fields) := do
  let index ← indexOf collection
  let query ← Action.ofExcept (renderQuery selection.filter)
  let hits ← hits index query selection
  Action.ofExcept (hits.mapM documentOfListedHit)

def updateFor (index : String) (id : Value) (fields : Fields) : Except Failure DocumentUpdate :=
  (idText id).map fun id => { index, id, fields }

/-- Logs that some updates failed. -/
def reportFailed (index : String) (outcomes : List UpdateOutcome) : Action Connection Unit :=
  if outcomes.contains .failed then
    Action.emit .warning "bulk_update_partial_failure"
      [("index", .text index), ("failed", .int (outcomes.count .failed)),
        ("modified", .int (outcomes.count .modified)), ("noop", .int (outcomes.count .unchanged))]
  else return ()

def bulkUpdate (collection : String) (updates : List (Value × Fields)) : Action Connection Nat :=
  if updates.isEmpty then return 0
  else do
    let index ← indexOf collection
    let updates ← Action.ofExcept (updates.mapM fun (id, fields) => updateFor index id fields)
    let refresh ← fun connection => ⟨.ok connection.refresh, [], connection⟩
    let response ← exchange (.bulk updates refresh)
    let outcomes ← Action.ofExcept (response.items.mapM updateOutcome)
    match response.error with
    | some error => Action.fail error.failure
    | none =>
      reportFailed index outcomes
      return outcomes.count .modified

instance : DocumentStore Connection where
  get := get
  count := count
  find := find
  bulkUpdate := bulkUpdate
  maxId := DocumentStore.greatestId find
  pageBound connection := connection.responses.length + 1

/-- Creates the index of a collection if there is none. -/
def ensureIndex (collection : String) (mapping : FieldMapping) : Action Connection Unit := do
  let index ← indexOf collection
  let present ← ask (.indexExists index)
  if present.isTruthy then return ()
  else
    let _ ← ask (.createIndex index mapping)
    Action.emit .info "es_index_created" [("index", .text index)]

def ensureIndices : Action Connection Unit :=
  FieldMapping.byCollection.forM fun (collection, mapping) => ensureIndex collection mapping

/-- A page of the messages that satisfy a filter, the newest first, and how many there are in all. -/
def searchMessages (filter : Option Predicate) (offset size : Int) :
    Action Connection (List Fields × Int) := do
  let query ← Action.ofExcept (renderQuery filter)
  let index ← indexOf Collections.messages
  let answer ← ask (.searchBody index (query.messageSearch offset size))
  let hits ← Action.ofExcept (member answer "hits")
  let documents ← Action.ofExcept (member hits "hits" >>= membersOf)
  let documents ← Action.ofExcept (documents.mapM documentOfHit)
  let total ← Action.ofExcept do wholeNumber (← member (← member hits "total") "value")
  return (documents, total)

end Connection

end MailSearch.Elastic

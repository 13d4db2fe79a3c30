import MailSearch.Envelope
import MailSearch.Settings
import MailSearch.Store.Basic

/-! Adding the search fields to messages stored without them. A run fixes the greatest id when it
starts and walks the messages up to it in the order of their ids, batch by batch; messages that have
search fields are passed over, so that a run can be repeated after a failure. -/

namespace MailSearch.Backfill

/-- What a run is doing. -/
inductive Phase where
  | scanning
  | processing
  | done
  deriving DecidableEq, Repr

def Phase.name : Phase → String
  | .scanning => "scanning"
  | .processing => "processing"
  | .done => "done"

/-- How far a run has come. -/
structure Cursor where
  greatest : Option Value := none
  total : Int := 0
  last : Option Value := none
  processed : Nat := 0
  batches : Nat := 0
  deriving Repr, Inhabited

structure Result where
  cursor : Cursor
  skipped : Bool
  deriving Repr

/-- How a run ended, and what it was doing then. -/
structure Run where
  phase : Phase
  outcome : Except Failure Result

/-- The field of a message that holds its search fields. -/
def searchField : String := "search"

/-- The names of a message that its search fields are derived from. -/
def sourceNames : List String := ["envelope", "subject"]

/-- Messages without search fields, after the last one handled and up to the greatest. -/
def eligible (cursor : Cursor) : Predicate :=
  .all [.presence searchField false, .range "id" { gt := cursor.last, lte := cursor.greatest }]

/-- What is set on a message. -/
def updateFor (document : Fields) : Except Failure (Value × Fields) := do
  let index ← Envelope.searchIndex? ((document.get? "envelope").getD .null)
    ((document.get? "subject").getD .null)
  let id ← DocumentStore.idOf document
  return (id, [(searchField, index.toValue)])

variable {σ : Type} [DocumentStore σ]

def batchSelection (settings : BackfillSettings) (cursor : Cursor) : Selection :=
  { filter := some (eligible cursor)
    order := some .ascending
    limit := some settings.batchSize
    names := some sourceNames }

/-- Handles the next batch; nothing is left when there is none. -/
def nextBatch (settings : BackfillSettings) (collection : String) (cursor : Cursor) :
    Action σ (Option Cursor) := do
  let batch ← DocumentStore.find collection (batchSelection settings cursor)
  match batch.getLast? with
  | none => return none
  | some final =>
    let updates ← Action.ofExcept (batch.mapM updateFor)
    let modified ← DocumentStore.bulkUpdate collection updates
    let last ← Action.ofExcept (DocumentStore.idOf final)
    return some { cursor with
      processed := cursor.processed + modified
      batches := cursor.batches + 1
      last := last.given? }

/-- Whether progress is logged: after each batch where the messages are few, else after every so many
batches. -/
def reports (settings : BackfillSettings) (cursor : Cursor) : Bool :=
  cursor.total < settings.fullReportLimit || (cursor.batches : Int) % settings.reportEvery == 0

/-- The share of messages processed in per cent, to one place. -/
def percent (cursor : Cursor) : Binary64 :=
  Binary64.roundPlaces 1 (Binary64.scale 100 (Binary64.quotient cursor.processed cursor.total))

def report (settings : BackfillSettings) (cursor : Cursor) : Action σ Unit :=
  if reports settings cursor then
    Action.emit .info "migration_progress"
      [("batch", .int cursor.batches), ("processed", .int cursor.processed),
        ("total", .int cursor.total), ("percent", .float (percent cursor))]
  else return ()

/-- Handles batches until none is left. -/
def walk (settings : BackfillSettings) (collection : String) : Nat → Cursor → Action σ Cursor
  | 0, _ => Action.fail .unending
  | bound + 1, cursor => do
    match ← nextBatch settings collection cursor with
    | none => return cursor
    | some next =>
      report settings next
      walk settings collection bound next

def skip (reason : String) (details : Fields) (cursor : Cursor) : Action σ (Cursor × Bool) := do
  Action.emit .info "migration_skipped" (("reason", .text reason) :: details)
  return (cursor, false)

/-- Fixes the greatest id and counts the messages to handle; the flag tells whether there are any. -/
def scan (settings : BackfillSettings) (collection : String) : Action σ (Cursor × Bool) := do
  if settings.enabled then
    Action.emit .info "migration_started" [("migration", .text "add_search_fields")]
    match ← DocumentStore.maxId collection with
    | none => skip "no_documents" [] {}
    | some greatest =>
      let started : Cursor := { greatest := some greatest }
      let total ← DocumentStore.count collection (some (eligible started))
      let cursor := { started with total }
      if total = 0 then skip "nothing_to_migrate" [("snapshot_max", greatest)] cursor
      else
        Action.emit .info "migration_planned"
          [("total", .int total), ("snapshot_max", greatest), ("batch_size", .int settings.batchSize)]
        return (cursor, true)
  else
    Action.emit .info "migration_disabled" [("migration", .text "add_search_fields")]
    return ({}, false)

/-- Handles all messages that the scan counted. -/
def process (settings : BackfillSettings) (collection : String) (cursor : Cursor) : Action σ Cursor := do
  let bound ← fun state => ⟨.ok (DocumentStore.pageBound state), [], state⟩
  let final ← walk settings collection bound cursor
  Action.emit .info "migration_complete"
    [("processed", .int final.processed), ("batches", .int final.batches)]
  return final

/-- One run. It does not fail itself, but tells how it ended. -/
def run (settings : BackfillSettings) (collection : String) : Action σ Run := do
  match ← Action.attempt (scan settings collection) with
  | .error failure => return ⟨.scanning, .error failure⟩
  | .ok (cursor, false) => return ⟨.done, .ok ⟨cursor, true⟩⟩
  | .ok (cursor, true) =>
    match ← Action.attempt (process settings collection cursor) with
    | .error failure => return ⟨.processing, .error failure⟩
    | .ok final => return ⟨.done, .ok ⟨final, false⟩⟩

end MailSearch.Backfill

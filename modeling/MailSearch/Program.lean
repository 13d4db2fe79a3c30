import MailSearch.Backfill
import MailSearch.Elastic.Address
import MailSearch.Logging

/-! The program: it reads its settings from the environment, sets up logging, reads the address of the
search server, and adds the search fields to the messages of a store. -/

namespace MailSearch.Program

def component : String := "migration"
def backfillLogger : String := "umbrella_search.migration"
def programLogger : String := "umbrella_search.__main__"

/-- What a run of the program leaves behind: the failure it ended with, if any, the lines it logged, and
the store. -/
structure Ending (σ : Type) where
  failure : Option Failure
  lines : List String
  store : σ

/-- The event that ends a run. -/
def exitEvent (phase : Backfill.Phase) (result : Backfill.Result) : Event :=
  ⟨.info, "migration_exit", [("state", .text phase.name), ("processed", .int result.cursor.processed),
    ("skipped", .bool result.skipped)]⟩

/-- The failure of a run or, where it has none, its last event. -/
def conclusion (run : Backfill.Run) : Except Failure Event :=
  run.outcome.map (exitEvent run.phase)

variable {σ : Type} [DocumentStore σ]

/-- Adds the search fields and logs it. -/
def backfill (settings : Settings) (logging : Logging) (store : σ) : Ending σ :=
  let report := Backfill.run settings.effectiveBackfill Collections.messages store
  let lines := report.events.flatMap (logging.written backfillLogger)
  match report.outcome >>= conclusion with
  | .error failure => ⟨some failure, lines, report.state⟩
  | .ok event => ⟨none, lines ++ logging.written programLogger event, report.state⟩

/-- A run of the program. -/
def run (environment : Environment) (store : σ) : Ending σ :=
  match Settings.read environment [] with
  | .error failure => ⟨some failure, [], store⟩
  | .ok settings =>
    match ({} : Logging).setUp settings.logJson settings.logLevel (some component) with
    | (.error failure, _) => ⟨some failure, [], store⟩
    | (.ok (), logging) =>
      match Elastic.Address.read settings.serverAddress with
      | .error failure => ⟨some failure, [], store⟩
      | .ok _ => backfill settings logging store

end MailSearch.Program

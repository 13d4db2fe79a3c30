import MailSearch.Event
import MailSearch.Failure
import MailSearch.Json.Writer
import MailSearch.Logging.Hierarchy
import MailSearch.Logging.PlainLine
import MailSearch.Text.LineBreak
import MailSearch.Text.Uppercase

/-! Which events are written, and as what. A logger writes events from its level on; one without a level
of its own has that of the logger above it in the dotted hierarchy, whose top is the root. Bound values
go into every line. -/

namespace MailSearch

namespace Logging

/-- The loggers of the server's client, which log every request. -/
def clientLoggers : List String := ["elastic_transport", "elasticsearch"]

end Logging

/-- The state of logging. A level of zero stands for none. -/
structure Logging where
  rootLevel : Nat := 30
  /-- The level of the loggers of the server's client. -/
  clientLevel : Nat := 0
  handlers : Nat := 0
  context : Fields := []
  /-- Whether lines are written as JSON; `none` before logging has been set up. -/
  json : Option Bool := none
  /-- The loggers that exist, each from its first use on. -/
  loggers : List String := Logging.clientLoggers
  deriving Repr

namespace Logging

/-- The levels by name. -/
def levels : Table Nat := [("NOTSET", 0), ("DEBUG", 10), ("INFO", 20), ("WARN", 30), ("WARNING", 30),
  ("ERROR", 40), ("FATAL", 50), ("CRITICAL", 50)]

/-- The name under which the root logs. -/
def rootName : String := "root"

/-- Values that a line does not show: they tell how it is to be written, not what happened. -/
def hiddenNames : List String := ["timestamp", "exc_info", "stack_info", "_record", "_from_structlog"]

def bind (logging : Logging) (values : Fields) : Logging :=
  { logging with context := logging.context.overlay values }

def addHandler (logging : Logging) : Logging := { logging with handlers := logging.handlers + 1 }

/-- Makes sure that a logger exists. -/
def withLogger (logging : Logging) (logger : String) : Logging :=
  if logging.loggers.contains logger then logging
  else { logging with loggers := logging.loggers ++ [logger] }

def componentContext (component : Option String) : Fields :=
  match component with
  | some name => if name = "" then [] else [("component", .text name)]
  | none => []

/-- Sets up logging afresh. The handlers are replaced before the level is looked at; where no level has
that name, all else stays as it was. -/
def setUp (logging : Logging) (json : Bool) (level : String) (component : Option String) :
    Except Failure Unit × Logging :=
  let prepared := { logging with handlers := 1, json := some json }
  match levels.get? (Text.upper level) with
  | none => (.error (.badValue (.unknownLevel (Text.quoted (Text.upper level)))), prepared)
  | some rootLevel =>
    (.ok (), { prepared with
      rootLevel
      clientLevel := max rootLevel Severity.warning.rank
      context := componentContext component })

/-- The level from which on a logger writes events. -/
def effectiveLevel (logging : Logging) (logger : String) : Nat :=
  if logging.clientLevel != 0 && (levelled? logging.loggers clientLoggers logger).isSome then
    logging.clientLevel
  else logging.rootLevel

/-- The values of a line: those bound, those of the event, and then its level, logger and name. -/
def line (logging : Logging) (logger : String) (event : Event) : Fields :=
  let values : Fields :=
    (logging.context.overlay event.values).filter fun (name, _) => !hiddenNames.contains name
  values.overlay [("level", .text event.severity.name),
    ("logger", .text (if logger = "" then rootName else logger)), ("event", .text event.name)]

/-- The text of a line; `none` where a value in it has none. -/
def lineText? (json : Bool) (line : Fields) : Option String :=
  if Value.hasLongInt (.object line) then none
  else if json then some (Json.write (.object line))
  else plainText? line

/-- What is written for an event: a text, or nothing where its severity is below the logger's level. -/
def written (logging : Logging) (logger : String) (event : Event) : List String :=
  match logging.json with
  | none => []
  | some json =>
    if logging.effectiveLevel logger ≤ event.severity.rank then
      (lineText? json (logging.line logger event)).toList
    else []

/-- The number of lines that some texts take, each with a line feed after it. -/
def lineCount (texts : List String) : Nat :=
  texts.foldl (fun count text => count + Text.lineCount text) 0

end Logging

end MailSearch

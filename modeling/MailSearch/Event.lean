import MailSearch.Failure
import MailSearch.Value.Basic

/-! Log events: a name, a severity, and named values. -/

namespace MailSearch

inductive Severity where
  | debug
  | info
  | warning
  | error
  | critical
  deriving DecidableEq, Repr

namespace Severity

/-- The rank by which severities compare with levels. -/
def rank : Severity → Nat
  | .debug => 10
  | .info => 20
  | .warning => 30
  | .error => 40
  | .critical => 50

def name : Severity → String
  | .debug => "debug"
  | .info => "info"
  | .warning => "warning"
  | .error => "error"
  | .critical => "critical"

/-- The severities by the names that callers log with. -/
def byCall : Table Severity := [("debug", .debug), ("info", .info), ("warn", .warning),
  ("warning", .warning), ("error", .error), ("exception", .error), ("fatal", .critical),
  ("critical", .critical)]

def ofCall? (name : String) : Option Severity := byCall.get? name

end Severity

structure Event where
  severity : Severity
  name : String
  values : Fields
  deriving Repr

namespace Event

/-- The names under which a call takes what it logs, so that no value of it can have one of them. -/
def reservedNames : List String := ["self", "method_name", "event"]

/-- The event that a call with named values logs. -/
def ofCall (severity : Severity) (name : String) (values : Fields) : Except Failure Event :=
  if values.any fun (valueName, _) => reservedNames.contains valueName then .error .wrongKind
  else .ok ⟨severity, name, values⟩

end Event

end MailSearch

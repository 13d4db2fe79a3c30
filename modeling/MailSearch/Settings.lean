import MailSearch.Collections
import MailSearch.Failure
import MailSearch.Input.Scalar
import MailSearch.Json.Reader
import MailSearch.Text.Lowercase
import MailSearch.Text.Uppercase
import MailSearch.Value.Display

/-! Settings. Each comes from an explicit value, or else from the environment, or else has a standard
value. Names are read without regard to case. -/

namespace MailSearch

/-- The variables of an environment by their names in lower case; of two names that agree then, the
later counts. -/
def Environment : Type := Table String

namespace Environment

def ofVariables (assigned : List (String × String)) : Environment :=
  Table.ofEntries (assigned.map fun (name, value) => (Text.lower name, value))

def get? (environment : Environment) (name : String) : Option String := Table.get? environment name

/-- The settings among `names` that the environment holds under names beginning with `start`. -/
def settings (environment : Environment) (start : String) (names : List String) : Fields :=
  names.filterMap fun name => (environment.get? (start ++ name)).map fun value => (name, .text value)

end Environment

namespace Fields

/-- The entry of a name in lower case: the one under the name itself, or else the first whose name is
the same but for its case. -/
def caseless? (fields : Fields) (name : String) : Option Value :=
  match fields.get? name with
  | some value => some value
  | none => (fields.find? fun (written, _) => Text.lower written == name).map Prod.snd

/-- The entries under the names they are `known` by, and those of other names as they are. -/
def underNames (fields : Fields) (known : List String) : Fields :=
  known.filterMap (fun name => (fields.caseless? name).map (name, ·)) ++
    fields.filter fun (written, _) => !known.contains (Text.lower written)

/-- Reports every name that is not among `known`. -/
def onlyNamed (fields : Fields) (known : List String) : Checked Unit :=
  match fields.filter fun (name, _) => !known.contains name with
  | [] => .valid ()
  | others => .invalid (others.map fun (name, _) => ⟨[.name name], .unexpected⟩)

end Fields

/-- The settings of the run that adds search fields to messages without them. -/
structure BackfillSettings where
  enabled : Bool := false
  batchSize : Int := 1000
  /-- Below this many messages, progress is logged after every batch. -/
  fullReportLimit : Int := 50000
  /-- Otherwise it is logged after every so many batches. -/
  reportEvery : Int := 10
  deriving DecidableEq, Repr

namespace BackfillSettings

def environmentStart : String := "umbrella_search_migration_"

def names : List String := ["enabled", "batch_size", "progress_full_threshold", "progress_every"]

def ofFields (fields : Fields) : Checked BackfillSettings :=
  let standard : BackfillSettings := {}
  BackfillSettings.mk <$> fields.withDefault "enabled" standard.enabled Value.readBool <*>
    fields.withDefault "batch_size" standard.batchSize (Value.readIntFrom 1) <*>
    fields.withDefault "progress_full_threshold" standard.fullReportLimit Value.readInt <*>
    fields.withDefault "progress_every" standard.reportEvery (Value.readIntFrom 1) <*
    fields.onlyNamed names

/-- Explicit settings, completed from the environment. -/
def read (environment : Environment) (explicit : Fields) : Checked BackfillSettings :=
  ofFields ((environment.settings environmentStart names).overlay (explicit.underNames names))

end BackfillSettings

structure Settings where
  environment : String := "production"
  serverAddress : String := "http://localhost:9200"
  requestTimeout : Binary64 := .ofInt 30
  usersIndex : String := "users"
  mailboxesIndex : String := "mailboxes"
  messagesIndex : String := "messages"
  scopeThreshold : Int := 200
  logLevel : String := "INFO"
  logJson : Bool := true
  backfill : BackfillSettings := {}
  deriving DecidableEq, Repr

namespace Settings

def environmentStart : String := "umbrella_search_"

/-- The settings that are single values. -/
def plainNames : List String := ["environment", "elasticsearch_url", "request_timeout", "users_index",
  "mailboxes_index", "messages_index", "scope_threshold", "log_level", "log_json"]

def backfillName : String := "migration"

/-- A name that stands for one of `known` without regard to case. -/
def knownName (known : List String) (name : String) : String :=
  (known.find? (· == Text.lower name)).getD name

/-- A group of settings under the names it is known by; of two entries of one name the later counts.
Other values stay as they are. -/
def namedGroup : Value → Value
  | .object entries =>
    .object (Table.ofEntries
      (entries.map fun (name, entry) => (knownName BackfillSettings.names name, entry)))
  | value => value

/-- How large a group may be as JSON text. -/
def groupLimits : Json.Limits := ⟨Numeral.digitLimit, 980⟩

/-- The group of settings that the environment holds as JSON text, if it holds one. -/
def environmentGroup (environment : Environment) : Except Failure Value :=
  match environment.get? (environmentStart ++ backfillName) with
  | none => .ok .null
  | some text =>
    match Json.readWithin groupLimits text with
    | .ok value => .ok (namedGroup value)
    | .error .tooDeep => .error .tooDeep
    | .error _ => .error (.unreadableSetting backfillName)

/-- An explicit group completed from the one in the environment. Names agree here only as they are
written. -/
def mergedGroup (inEnvironment : Value) (explicit : Option Value) : Option Value :=
  match inEnvironment, explicit with
  | .object entries, some (.object news) => some (.object (Table.overlay entries news))
  | .unpaired .object, some (.object _) => some inEnvironment
  | _, some value => some value
  | value, none => value.given?

def ofFields (fields : Fields) (backfill : Checked BackfillSettings) : Checked Settings :=
  let standard : Settings := {}
  let text (name : String) (value : String) : Checked String := fields.withDefault name value Value.readText
  Settings.mk <$> text "environment" standard.environment <*>
    text "elasticsearch_url" standard.serverAddress <*>
    fields.withDefault "request_timeout" standard.requestTimeout Value.readFloat <*>
    text "users_index" standard.usersIndex <*> text "mailboxes_index" standard.mailboxesIndex <*>
    text "messages_index" standard.messagesIndex <*>
    fields.withDefault "scope_threshold" standard.scopeThreshold Value.readInt <*>
    text "log_level" standard.logLevel <*>
    fields.withDefault "log_json" standard.logJson Value.readBool <*> backfill <*
    fields.onlyNamed (backfillName :: plainNames)

/-- Checks all settings. A group that is not given is made from the environment first, and its issues
are then the only ones reported. -/
def check (environment : Environment) (fields : Fields) (group : Option Value) : Checked Settings :=
  match group with
  | some value =>
    ofFields fields
      (Checked.within (.name backfillName) (value.readObject (BackfillSettings.read environment)))
  | none => (BackfillSettings.read environment []).andThen fun backfill => ofFields fields (.valid backfill)

/-- Explicit settings, completed from the environment. -/
def read (environment : Environment) (explicit : Fields) : Except Failure Settings := do
  let inEnvironment ← environmentGroup environment
  let explicit := explicit.underNames (backfillName :: plainNames)
  let fields := (environment.settings environmentStart plainNames).overlay explicit
  match check environment fields (mergedGroup inEnvironment (explicit.get? backfillName)) with
  | .valid settings => return settings
  | .invalid issues => .error (.invalid issues)

/-- The names, in capitals, of all variables that hold settings. -/
def variableNames : List String :=
  (plainNames.map (environmentStart ++ ·) ++ [environmentStart ++ backfillName] ++
    BackfillSettings.names.map (BackfillSettings.environmentStart ++ ·)).map Text.upper

/-- The index of each collection. -/
def indices (settings : Settings) : Table String :=
  [(Collections.users, settings.usersIndex), (Collections.mailboxes, settings.mailboxesIndex),
    (Collections.messages, settings.messagesIndex)]

/-- The environment in which messages are left alone. -/
def testEnvironment : String := "test"

/-- The settings of the run that adds search fields, which is off in the test environment. -/
def effectiveBackfill (settings : Settings) : BackfillSettings :=
  if settings.environment == testEnvironment then { settings.backfill with enabled := false }
  else settings.backfill

end Settings

end MailSearch

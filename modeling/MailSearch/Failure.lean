import MailSearch.Input.Checked
import MailSearch.Number.Numeral
import MailSearch.Text.Quoted

/-! What can go wrong, by cause, and the wording of each cause. -/

namespace MailSearch

/-- The kinds of error that a search reports to its caller. -/
inductive SearchFault where
  | general
  | unknownUser
  | lookup
  | storage
  deriving DecidableEq, Repr

namespace SearchFault

def code : SearchFault → String
  | .general => "SearchError"
  | .unknownUser => "UserNotFound"
  | .lookup => "InternalDatabaseError"
  | .storage => "StoreError"

/-- The status of the response to a request that fails this way. -/
def status : SearchFault → Nat
  | .unknownUser => 404
  | _ => 500

/-- The message of an error that brings none of its own. -/
def standardMessage : SearchFault → String
  | .unknownUser => "This user does not exist"
  | .lookup => "Database Error"
  | .general | .storage => "Search error"

/-- The given message, unless it is missing or empty. -/
def messageOr (fault : SearchFault) (given : Option String) : String :=
  match given with
  | some message => if message = "" then fault.standardMessage else message
  | none => fault.standardMessage

end SearchFault

/-- The ways in which a request to the search server fails. -/
inductive ClientFault where
  | api
  | notFound
  | badRequest
  | conflict
  | transport
  | connection
  | timeout
  deriving DecidableEq, Repr

/-- What an error was raised over. -/
inductive Cause where
  | storage
  | client (fault : ClientFault)
  deriving DecidableEq, Repr

structure SearchError where
  fault : SearchFault
  message : String
  cause : Option Cause
  deriving DecidableEq, Repr

/-- Values of the right kind that cannot be used. -/
inductive ValueFault where
  | longNumeral (digits : Nat)
  | longNumber
  | malformedNumeral (expression : String)
  | undefinedNumber
  | tooFewMembers (count : Nat)
  | tooManyMembers
  | unknownLevel (expression : String)
  | incompleteAddress
  | unreadableAddress (expression : String)
  deriving DecidableEq, Repr

/-- What is wrong with a numeral, shown by `expression`. -/
def ValueFault.ofNumeral (expression : String) : Numeral.Fault → ValueFault
  | .malformed => .malformedNumeral expression
  | .tooLong digits => .longNumeral digits

def limitText : String :=
  "Exceeds the limit (" ++ toString Numeral.digitLimit ++ " digits) for integer string conversion"

def limitAdvice : String := "use sys.set_int_max_str_digits() to increase the limit"

/-- The most characters of a malformed numeral that its message shows. -/
def shownNumeral : Nat := 200

def ValueFault.message : ValueFault → String
  | .longNumeral digits => limitText ++ ": value has " ++ toString digits ++ " digits; " ++ limitAdvice
  | .longNumber => limitText ++ "; " ++ limitAdvice
  | .malformedNumeral expression =>
    "invalid literal for int() with base 10: " ++ String.ofList (expression.toList.take shownNumeral)
  | .undefinedNumber => "cannot convert float NaN to integer"
  | .tooFewMembers count =>
    "not enough values to unpack (expected 2, got " ++ toString count ++ ")"
  | .tooManyMembers => "too many values to unpack (expected 2)"
  | .unknownLevel expression => "Unknown level: " ++ expression
  | .incompleteAddress =>
    "URL must include a 'scheme', 'host', and 'port' component (ie 'https://localhost:9200')"
  | .unreadableAddress expression => "Could not parse URL " ++ expression

inductive Failure where
  | search (error : SearchError)
  | invalid (issues : List Issue)
  | unreadableSetting (name : String)
  | absentName (name : String)
  | badValue (fault : ValueFault)
  | wrongKind
  | infiniteNumber
  | noMember
  | unsupportedPredicate
  | undefinedPredicate
  | outOfResponses
  | tooDeep
  | unending
  deriving DecidableEq, Repr

namespace Failure

/-- The message of a failure, where it has one. -/
def message? : Failure → Option String
  | .search error => some error.message
  | .unreadableSetting name =>
    some ("error parsing value for field \"" ++ name ++ "\" from source \"EnvSettingsSource\"")
  | .absentName name => some (Text.quoted name)
  | .badValue fault => some fault.message
  | .unsupportedPredicate => some "Unsupported predicate: Predicate"
  | .invalid _ | .wrongKind | .infiniteNumber | .noMember | .undefinedPredicate | .outOfResponses
  | .tooDeep | .unending => none

/-- A failure of the store, with its own message or the standard one. -/
def storage (message : Option String) (cause : Option Cause) : Failure :=
  .search ⟨.storage, SearchFault.storage.messageOr message, cause⟩

def unknownUser : Failure := .search ⟨.unknownUser, SearchFault.unknownUser.standardMessage, none⟩

/-- A failure to look something up because the store failed. -/
def lookup : Failure := .search ⟨.lookup, SearchFault.lookup.standardMessage, some .storage⟩

/-- Whether the store failed. -/
def isStorage : Failure → Bool
  | .search error => error.fault == .storage
  | _ => false

end Failure

end MailSearch

import MailSearch.Account
import MailSearch.Action
import MailSearch.Collections
import MailSearch.Predicate.Basic

/-! What the search layer asks of a store of documents. -/

namespace MailSearch

inductive SortOrder where
  | ascending
  | descending
  deriving DecidableEq, Repr

/-- Which documents to list, how, and with which of their names. Sorting is by `id`; where names are
given, `id` is kept as well. -/
structure Selection where
  filter : Option Predicate := none
  order : Option SortOrder := none
  limit : Option Int := none
  names : Option (List String) := none

/-- A store whose states are of type `σ`. -/
class DocumentStore (σ : Type) where
  /-- The document with an id, if there is one. -/
  get : String → Value → Action σ (Option Fields)
  /-- The number of documents that satisfy a filter. -/
  count : String → Option Predicate → Action σ Int
  find : String → Selection → Action σ (List Fields)
  /-- Sets fields of many documents, each addressed by its id, and counts the documents modified. -/
  bulkUpdate : String → List (Value × Fields) → Action σ Nat
  /-- The greatest id of a collection. -/
  maxId : String → Action σ (Option Value)
  /-- More than the number of non-empty pages that a walk through the store can meet. -/
  pageBound : σ → Nat

namespace DocumentStore

variable {σ : Type}

def idOf (document : Fields) : Except Failure Value :=
  match document.get? "id" with
  | some id => .ok id
  | none => .error (.absentName "id")

/-- The id of the first document in descending order. -/
def greatestId (find : String → Selection → Action σ (List Fields)) (collection : String) :
    Action σ (Option Value) := do
  match ← find collection { order := some .descending, limit := some 1, names := some ["id"] } with
  | [] => return none
  | document :: _ => return (← Action.ofExcept (idOf document)).given?

/-- The user with an id, if there is one. -/
def user [DocumentStore σ] (id : Value) : Action σ (Option Identity) := do
  match ← get Collections.users id with
  | none => return none
  | some document =>
    match Identity.read (.object document) with
    | .valid identity => return some identity
    | .invalid issues => Action.fail (.invalid issues)

end DocumentStore

end MailSearch

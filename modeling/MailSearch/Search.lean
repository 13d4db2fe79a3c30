import MailSearch.CriteriaFilter

/-! Searches on behalf of a user: the user is looked up, the mailboxes are settled, and the criteria
become a filter over messages. -/

namespace MailSearch

/-- A filter over messages, and the full-text query it was made from. -/
structure SearchFilter where
  clauses : List Predicate
  query : Option String
  deriving Repr

namespace SearchFilter

def filter (search : SearchFilter) : Predicate := .all search.clauses

end SearchFilter

namespace Criteria

variable {σ : Type} [DocumentStore σ]

/-- The user whose messages are searched. -/
def owner (user : Value) : Action σ Identity := do
  match ← Action.orElseOnStorage (DocumentStore.user user) (Action.fail .lookup) with
  | some identity => return identity
  | none => Action.fail .unknownUser

/-- The mailboxes that the criteria restrict a search to, if they do. -/
def scope (criteria : Criteria) (user : String) (threshold : Int) : Action σ (Option MailboxScope) :=
  match nonEmpty criteria.mailbox with
  | some mailbox => return some (.explicit (.text mailbox))
  | none =>
    if criteria.searchable then some <$> MailboxScope.resolve (.text user) threshold else return none

/-- The filter that the criteria make for a user. -/
def compile (criteria : Criteria) (user : Value) (threshold : Int) : Action σ SearchFilter := do
  let identity ← owner user
  let scope ← criteria.scope identity.id threshold
  let draft ← Action.ofExcept (criteria.draft identity.id scope)
  Action.emit .debug "search_filter_compiled"
    [("user", .text identity.id), ("clauses", .int draft.clauses.length),
      ("scope", Value.ofText? (scope.map MailboxScope.strategy))]
  return ⟨draft.clauses, criteria.query⟩

/-- The filter for a user, and the messages that it selects. -/
def search (criteria : Criteria) (user : Value) (threshold : Int) (selection : Selection) :
    Action σ (SearchFilter × List Fields) := do
  let compiled ← criteria.compile user threshold
  let messages ← DocumentStore.find Collections.messages { selection with filter := some compiled.filter }
  return (compiled, messages)

end Criteria

end MailSearch

import MailSearch.Store.Basic

/-! The mailboxes that a search is restricted to: one that is named, all that are listed, or all but
those listed. A search across all mailboxes leaves out those of the excluded special uses, by listing
either the others, while they are few, or the excluded ones. -/

namespace MailSearch

inductive MailboxScope where
  | explicit (mailbox : Value)
  | including (mailboxes : List Value)
  | excluding (mailboxes : List Value)
  deriving Repr

namespace MailboxScope

/-- The name of the way in which the mailboxes are given. -/
def strategy : MailboxScope → String
  | .explicit _ => "explicit"
  | .including _ => "include"
  | .excluding _ => "exclude"

def mailboxes : MailboxScope → List Value
  | .explicit mailbox => [mailbox]
  | .including mailboxes | .excluding mailboxes => mailboxes

/-- The condition that a field holds a mailbox of the scope. -/
def predicate (field : String) : MailboxScope → Predicate
  | .explicit mailbox => .eq field mailbox
  | .including mailboxes => .memberOf field mailboxes
  | .excluding mailboxes => .notMemberOf field mailboxes

/-- The field of a message that names its mailbox. -/
def standardField : String := "mailbox"

/-- The number of mailboxes from which on the excluded ones are listed. -/
def standardThreshold : Int := 200

def excludedUses : List Value := Mailbox.excludedUses.map .text

/-- The mailboxes of a user that a search across all mailboxes covers. -/
def covered (user : Value) : Predicate :=
  .all [.eq "user" user, .notMemberOf "special_use" excludedUses]

/-- The mailboxes of a user that a search across all mailboxes leaves out. -/
def leftOut (user : Value) : Predicate :=
  .all [.eq "user" user, .memberOf "special_use" excludedUses]

variable {σ : Type} [DocumentStore σ]

/-- The ids of the mailboxes that satisfy a filter. -/
def list (filter : Predicate) : Action σ (List Value) := do
  let documents ← DocumentStore.find Collections.mailboxes { filter, names := some ["id"] }
  Action.ofExcept (documents.mapM DocumentStore.idOf)

/-- Logs that a listing or a count could not be had. -/
def warn (name : String) (user : Value) : Action σ Unit :=
  Action.emit .warning name [("user", user), ("exc_info", .bool true)]

/-- The number of mailboxes covered, if the store tells it. -/
def countCovered (user : Value) : Action σ (Option Int) :=
  Action.orElseOnStorage (some <$> DocumentStore.count Collections.mailboxes (covered user)) do
    warn "mailbox_count_probe_failed" user
    return none

/-- Whether so many mailboxes are few enough to be listed; an unknown number is not. -/
def isListable (threshold : Int) : Option Int → Bool
  | some count => count != 0 && count < threshold
  | none => false

/-- The mailboxes covered, if they are to be listed and the store lists them. -/
def listCovered (user : Value) (threshold : Int) (count : Option Int) :
    Action σ (Option (List Value)) :=
  if isListable threshold count then
    Action.orElseOnStorage (some <$> list (covered user)) do
      warn "mailbox_inclusion_listing_failed" user
      return none
  else return none

/-- Logs and returns the scope that was settled on. -/
def settle (user : Value) (count : Option Int) (scope : MailboxScope) : Action σ MailboxScope := do
  Action.emit .debug "mailbox_scope_resolved"
    [("user", user), ("strategy", .text scope.strategy), ("count", (count.map .int).getD .null)]
  return scope

/-- The scope of a search across all mailboxes of a user. -/
def resolve (user : Value) (threshold : Int) : Action σ MailboxScope := do
  let count ← countCovered user
  match ← listCovered user threshold count with
  | some mailboxes => settle user count (.including mailboxes)
  | none =>
    let mailboxes ← Action.orElseOnStorage (list (leftOut user)) (Action.fail .lookup)
    settle user count (.excluding mailboxes)

end MailboxScope

end MailSearch

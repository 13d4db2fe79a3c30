import MailSearch.Event
import MailSearch.Failure

/-! Actions on a store: they change its state, log events, and return a result or fail. What was
changed and logged before a failure stays. -/

namespace MailSearch

/-- What running an action leaves behind. -/
structure Report (σ α : Type) where
  outcome : Except Failure α
  events : List Event
  state : σ

def Action (σ α : Type) : Type := σ → Report σ α

namespace Action

variable {σ α β : Type}

def ofExcept (outcome : Except Failure α) : Action σ α := fun state => ⟨outcome, [], state⟩

/-- Runs one action and then the action that its result selects. -/
def andThen (first : Action σ α) (second : α → Action σ β) : Action σ β := fun state =>
  let done := first state
  match done.outcome with
  | .ok result =>
    let rest := second result done.state
    ⟨rest.outcome, done.events ++ rest.events, rest.state⟩
  | .error failure => ⟨.error failure, done.events, done.state⟩

instance : Monad (Action σ) where
  pure result := ofExcept (.ok result)
  bind := andThen

theorem pure_run (result : α) (state : σ) :
    (pure result : Action σ α) state = ⟨.ok result, [], state⟩ := rfl

/-- After a first action that succeeds, the second runs on the state it left. -/
theorem bind_run_ok {first : Action σ α} {second : α → Action σ β} {state middle : σ} {result : α}
    {events : List Event} (done : first state = ⟨.ok result, events, middle⟩) :
    (first >>= second) state =
      ⟨(second result middle).outcome, events ++ (second result middle).events,
        (second result middle).state⟩ := by
  simp [bind, andThen, done]

/-- After a first action that fails, the second does not run. -/
theorem bind_run_error {first : Action σ α} {second : α → Action σ β} {state final : σ}
    {failure : Failure} {events : List Event} (failed : first state = ⟨.error failure, events, final⟩) :
    (first >>= second) state = ⟨.error failure, events, final⟩ := by
  simp [bind, andThen, failed]

/-- After a first action that succeeds and logs nothing, the second is all that is left to run. -/
theorem bind_run_silent {first : Action σ α} {second : α → Action σ β} {state middle : σ} {result : α}
    (done : first state = ⟨.ok result, [], middle⟩) : (first >>= second) state = second result middle :=
  (bind_run_ok done).trans rfl

theorem bind_ofExcept_run {outcome : Except Failure α} {second : α → Action σ β} {state : σ} {result : α}
    (given : outcome = .ok result) : (ofExcept outcome >>= second) state = second result state := by
  rw [given]
  exact bind_run_silent rfl

def fail (failure : Failure) : Action σ α := ofExcept (.error failure)

def emit (severity : Severity) (name : String) (values : Fields) : Action σ Unit := fun state =>
  ⟨.ok (), [⟨severity, name, values⟩], state⟩

/-- An action that never fails: its result tells how the given one ended. -/
def attempt (action : Action σ α) : Action σ (Except Failure α) := fun state =>
  let done := action state
  ⟨.ok done.outcome, done.events, done.state⟩

/-- Goes on with `fallback` where an action fails in the store; other failures stay. -/
def orElseOnStorage (action fallback : Action σ α) : Action σ α := do
  match ← attempt action with
  | .ok result => return result
  | .error failure => if failure.isStorage then fallback else fail failure

end Action

end MailSearch

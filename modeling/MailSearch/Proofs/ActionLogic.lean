import MailSearch.Action

/-! Assertions about the runs of actions: what holds of the outcome and of the state that a run leaves.
What is asserted of a composed action comes down to what is asserted of its parts. -/

namespace MailSearch.Action

variable {σ α β : Type} {state : σ} {post : Except Failure α → σ → Prop} {after : Except Failure β → σ → Prop}

/-- The assertion holds of the outcome and the state that a run from the state leaves. -/
def Leaves (action : Action σ α) (state : σ) (post : Except Failure α → σ → Prop) : Prop :=
  post (action state).outcome (action state).state

/-- What a first action has to leave for the second to leave what is asserted. A failure is passed on. -/
def Resumes (second : α → Action σ β) (after : Except Failure β → σ → Prop) :
    Except Failure α → σ → Prop
  | .ok result, middle => (second result).Leaves middle after
  | .error failure, middle => after (.error failure) middle

theorem Leaves.mono {action : Action σ α} {weaker : Except Failure α → σ → Prop} (leaves : action.Leaves state post)
    (implies : ∀ outcome final, post outcome final → weaker outcome final) : action.Leaves state weaker :=
  implies _ _ leaves

theorem leaves_trivial (action : Action σ α) (state : σ) : action.Leaves state fun _ _ => True := trivial

theorem leaves_of_run {action : Action σ α} {outcome : Except Failure α} {events : List Event} {final : σ}
    (ran : action state = ⟨outcome, events, final⟩) : action.Leaves state post ↔ post outcome final := by
  unfold Leaves
  rw [ran]

@[simp] theorem resumes_ok {second : α → Action σ β} {result : α} :
    Resumes second after (.ok result) state ↔ (second result).Leaves state after := .rfl

@[simp] theorem resumes_error {second : α → Action σ β} {failure : Failure} :
    Resumes second after (.error failure) state ↔ after (.error failure) state := .rfl

@[simp] theorem leaves_pure {result : α} :
    (pure result : Action σ α).Leaves state post ↔ post (.ok result) state := .rfl

@[simp] theorem leaves_bind {first : Action σ α} {second : α → Action σ β} :
    (first >>= second).Leaves state after ↔ first.Leaves state (Resumes second after) := by
  simp only [Leaves, bind, andThen]
  cases (first state).outcome <;> rfl

@[simp] theorem leaves_map {f : α → β} {action : Action σ α} :
    (f <$> action).Leaves state after ↔
      action.Leaves state (fun outcome final => after (outcome.map f) final) := by
  simp only [Leaves, Functor.map, andThen]
  cases (action state).outcome <;> rfl

@[simp] theorem leaves_ofExcept {outcome : Except Failure α} :
    (ofExcept outcome).Leaves state post ↔ post outcome state := .rfl

@[simp] theorem leaves_fail {failure : Failure} :
    (fail failure : Action σ α).Leaves state post ↔ post (.error failure) state := .rfl

@[simp] theorem leaves_emit {severity : Severity} {name : String} {values : Fields}
    {done : Except Failure Unit → σ → Prop} :
    (emit severity name values).Leaves state done ↔ done (.ok ()) state := .rfl

@[simp] theorem leaves_attempt {action : Action σ α} {caught : Except Failure (Except Failure α) → σ → Prop} :
    (attempt action).Leaves state caught ↔ action.Leaves state fun outcome final => caught (.ok outcome) final :=
  .rfl

/-- What is left of an action that goes on with a fallback where the store fails. -/
def Recovers (fallback : Action σ α) (post : Except Failure α → σ → Prop) : Except Failure α → σ → Prop
  | .ok result, middle => post (.ok result) middle
  | .error failure, middle =>
    if failure.isStorage then fallback.Leaves middle post else post (.error failure) middle

@[simp] theorem recovers_ok {fallback : Action σ α} {result : α} :
    Recovers fallback post (.ok result) state ↔ post (.ok result) state := .rfl

@[simp] theorem recovers_error {fallback : Action σ α} {failure : Failure} :
    Recovers fallback post (.error failure) state ↔
      if failure.isStorage then fallback.Leaves state post else post (.error failure) state := .rfl

@[simp] theorem leaves_orElseOnStorage {action fallback : Action σ α} :
    (orElseOnStorage action fallback).Leaves state post ↔ action.Leaves state (Recovers fallback post) := by
  simp only [orElseOnStorage, leaves_bind, leaves_attempt, resumes_ok]
  unfold Leaves
  cases (action state).outcome with
  | ok result => rfl
  | error failure =>
    simp only [recovers_error]
    split <;> rfl

end MailSearch.Action

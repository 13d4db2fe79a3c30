import MailSearch.Action

/-! Pairs of runs. An action is blind to the differences between states that are alike where two runs of it,
one from each, end the same way, log the same and leave states that are alike again. -/

namespace MailSearch.Action

variable {σ α β : Type} {alike : σ → σ → Prop}

/-- Two runs agree on all that is seen of them, and leave states that are alike. -/
structure Agrees (alike : σ → σ → Prop) (one other : Report σ α) : Prop where
  outcome : one.outcome = other.outcome
  events : one.events = other.events
  state : alike one.state other.state

def Blind (alike : σ → σ → Prop) (action : Action σ α) : Prop :=
  ∀ one other, alike one other → Agrees alike (action one) (action other)

theorem blind_ofExcept (outcome : Except Failure α) : Blind alike (ofExcept outcome) := by
  intro one other same
  exact ⟨rfl, rfl, same⟩

theorem blind_pure (result : α) : Blind alike (pure result) := blind_ofExcept (.ok result)

theorem blind_fail (failure : Failure) : Blind alike (fail failure : Action σ α) := blind_ofExcept (.error failure)

theorem blind_emit (severity : Severity) (name : String) (values : Fields) :
    Blind alike (emit severity name values : Action σ Unit) := by
  intro one other same
  exact ⟨rfl, rfl, same⟩

/-- What comes second has to be blind only where it starts from a result of the first. -/
theorem Blind.bind_of_result {first : Action σ α} {second : α → Action σ β} (blind : Blind alike first)
    (rest : ∀ one other result, alike one other → (first one).outcome = .ok result → Blind alike (second result)) :
    Blind alike (first >>= second) := by
  intro one other same
  obtain ⟨outcome, events, state⟩ := blind one other same
  rcases ran : first one with ⟨ended, logged, left⟩
  rcases ran' : first other with ⟨ended', logged', left'⟩
  simp only [ran, ran'] at outcome events state
  subst outcome events
  cases ended with
  | error failure =>
    rw [bind_run_error ran, bind_run_error ran']
    exact ⟨rfl, rfl, state⟩
  | ok result =>
    have later := rest one other result same (by rw [ran]) left left' state
    rw [bind_run_ok ran, bind_run_ok ran']
    exact ⟨later.outcome, by rw [later.events], later.state⟩

theorem Blind.bind {first : Action σ α} {second : α → Action σ β} (blind : Blind alike first)
    (rest : ∀ result, Blind alike (second result)) : Blind alike (first >>= second) := by
  apply blind.bind_of_result
  intro _ _ result _ _
  exact rest result

theorem Blind.map {action : Action σ α} (blind : Blind alike action) (f : α → β) : Blind alike (f <$> action) :=
  blind.bind fun result => blind_pure (f result)

private theorem Blind.attempt {action : Action σ α} (blind : Blind alike action) : Blind alike (attempt action) := by
  intro one other same
  obtain ⟨outcome, events, state⟩ := blind one other same
  exact ⟨congrArg Except.ok outcome, events, state⟩

theorem Blind.orElseOnStorage {action fallback : Action σ α} (blind : Blind alike action)
    (otherwise : Blind alike fallback) : Blind alike (orElseOnStorage action fallback) := by
  apply blind.attempt.bind
  intro outcome
  cases outcome with
  | ok result => exact blind_pure result
  | error failure =>
    simp only
    split
    · exact otherwise
    · exact blind_fail failure

end MailSearch.Action

import MailSearch.Proofs.ActionLogic
import MailSearch.Store.Planned

/-! What a call to a store under a plan comes to: a planned fault, or what the call itself does and then
the deliveries that are due. Where nothing is delivered, reading leaves the documents as they are. -/

namespace MailSearch.PlannedStore

variable {α : Type} {store : PlannedStore} {call : StoreCall} {post : Except Failure α → PlannedStore → Prop}

/-- The store once a call is counted. -/
def counting (store : PlannedStore) (call : StoreCall) : PlannedStore :=
  { store with calls := store.calls ++ [call] }

/-- The fault planned for the next call of a kind. -/
def nextFault? (store : PlannedStore) (call : StoreCall) : Option PlannedFault :=
  store.faultAt? call (store.calls.count call + 1)

/-- What is delivered after the next call of a kind. -/
def due (store : PlannedStore) (call : StoreCall) : List PlannedDelivery :=
  store.deliveriesAt call (store.calls.count call + 1)

/-- What a call does once it is counted. -/
def served (store : PlannedStore) (call : StoreCall) (run : Action PlannedStore α) : Action PlannedStore α :=
  match store.nextFault? call with
  | some fault => Action.fail (.storage fault.message none)
  | none => run >>= fun result => deliver (store.due call) >>= fun _ => pure result

private theorem called_eq_served (call : StoreCall) (run : Action PlannedStore α) (store : PlannedStore) :
    called call run store = store.served call run (store.counting call) := by
  have number : (store.calls ++ [call]).count call = store.calls.count call + 1 := by simp
  unfold served nextFault? due
  rw [← number]
  rfl

private theorem leaves_called {run : Action PlannedStore α} :
    (called call run).Leaves store post ↔ (store.served call run).Leaves (store.counting call) post := by
  unfold Action.Leaves
  rw [called_eq_served]

/-- A call that is to fail does nothing but count. -/
theorem leaves_called_of_fault {run : Action PlannedStore α} {fault : PlannedFault}
    (planned : store.nextFault? call = some fault) :
    (called call run).Leaves store post ↔
      post (.error (.storage fault.message none)) (store.counting call) := by
  rw [leaves_called, served, planned]
  exact .rfl

/-- Any other call does its work and then lets the deliveries in. -/
theorem leaves_called_of_clear {run : Action PlannedStore α} (clear : store.nextFault? call = none) :
    (called call run).Leaves store post ↔
      run.Leaves (store.counting call) (Action.Resumes
        (fun result => deliver (store.due call) >>= fun _ => pure result) post) := by
  rw [leaves_called, served, clear]
  exact Action.leaves_bind

@[simp] theorem leaves_reading {read : Memory → Except Failure α} :
    (reading read).Leaves store post ↔ post (read store.memory) store := .rfl

@[simp] theorem leaves_deliver_nil {done : Except Failure Unit → PlannedStore → Prop} :
    (deliver []).Leaves store done ↔ done (.ok ()) store := .rfl

theorem deliver_cons (delivery : PlannedDelivery) (rest : List PlannedDelivery) :
    deliver (delivery :: rest) = insert delivery.collection delivery.documents >>= fun _ => deliver rest := rfl

section Quiet

variable {memory : Memory}

/-- The store holds these documents, and nothing is to be delivered into it. -/
structure Quiet (memory : Memory) (store : PlannedStore) : Prop where
  held : store.memory = memory
  still : store.deliveries = []

theorem Quiet.counting (quiet : Quiet memory store) (call : StoreCall) : Quiet memory (store.counting call) :=
  ⟨quiet.held, quiet.still⟩

/-- The answer of the next call of a kind: a planned fault, or the given answer. -/
def answer (store : PlannedStore) (call : StoreCall) (given : Except Failure α) : Except Failure α :=
  match store.nextFault? call with
  | some fault => .error (.storage fault.message none)
  | none => given

theorem answer_of_faultless (faultless : store.faults = []) (given : Except Failure α) :
    store.answer call given = given := by
  simp [answer, nextFault?, faultAt?, faultless]

theorem answer_eq_or (given : Except Failure α) :
    store.answer call given = given ∨
      ∃ message, store.answer call given = .error (.storage message none) := by
  unfold answer
  cases store.nextFault? call with
  | some fault => exact .inr ⟨_, rfl⟩
  | none => exact .inl rfl

theorem Quiet.leaves_called (quiet : Quiet memory store) {read : Memory → Except Failure α} :
    (called call (reading read)).Leaves store post ↔
      post (store.answer call (read memory)) (store.counting call) := by
  unfold answer
  cases planned : store.nextFault? call with
  | some fault => exact leaves_called_of_fault planned
  | none =>
    have held : (store.counting call).memory = memory := quiet.held
    have nothing : store.due call = [] := by simp [due, deliveriesAt, quiet.still]
    rw [leaves_called_of_clear planned, leaves_reading, held, nothing]
    cases read memory <;> simp

end Quiet

section Undisturbed

/-- No call is to fail, and nothing is to be delivered. -/
structure Undisturbed (store : PlannedStore) : Prop where
  faultless : store.faults = []
  still : store.deliveries = []

theorem Undisturbed.counting (undisturbed : store.Undisturbed) (call : StoreCall) : (store.counting call).Undisturbed :=
  ⟨undisturbed.faultless, undisturbed.still⟩

@[simp] theorem memory_counting (store : PlannedStore) (call : StoreCall) :
    (store.counting call).memory = store.memory := rfl

/-- A call to an undisturbed store does its own work and no more. -/
theorem Undisturbed.called (undisturbed : store.Undisturbed) (run : Action PlannedStore α) :
    called call run store = run (store.counting call) := by
  have clear : store.nextFault? call = none := by simp [nextFault?, faultAt?, undisturbed.faultless]
  have nothing : store.due call = [] := by simp [due, deliveriesAt, undisturbed.still]
  rw [called_eq_served, served, clear, nothing]
  rcases ran : run (store.counting call) with ⟨outcome, events, final⟩
  cases outcome with
  | error failure => exact Action.bind_run_error ran
  | ok result =>
    refine (Action.bind_run_ok ran).trans ?_
    change (⟨.ok result, events ++ [], final⟩ : Report PlannedStore α) = ⟨.ok result, events, final⟩
    rw [List.append_nil]

end Undisturbed

end MailSearch.PlannedStore

import MailSearch.Store.Memory

/-! A store in memory with planned incidents: calls that fail, and documents that are delivered right
after a call. Calls are numbered per operation, from 1. -/

namespace MailSearch

inductive StoreCall where
  | get
  | count
  | find
  | bulkUpdate
  | maxId
  deriving DecidableEq, Repr

/-- The call of that number fails, with a message of its own or the standard one. -/
structure PlannedFault where
  call : StoreCall
  number : Nat
  message : Option String
  deriving Repr

/-- After the call of that number, documents are delivered into a collection. -/
structure PlannedDelivery where
  call : StoreCall
  number : Nat
  collection : String
  documents : List Value
  deriving Repr

structure PlannedStore where
  memory : Memory := {}
  faults : List PlannedFault := []
  deliveries : List PlannedDelivery := []
  /-- The calls made under this plan, in order. -/
  calls : List StoreCall := []
  deriving Repr, Inhabited

namespace PlannedStore

/-- Starts a new plan; calls are counted afresh. -/
def plan (store : PlannedStore) (faults : List PlannedFault) (deliveries : List PlannedDelivery) :
    PlannedStore :=
  { memory := store.memory, faults, deliveries }

def faultAt? (store : PlannedStore) (call : StoreCall) (number : Nat) : Option PlannedFault :=
  store.faults.find? fun fault => fault.call = call ∧ fault.number = number

def deliveriesAt (store : PlannedStore) (call : StoreCall) (number : Nat) : List PlannedDelivery :=
  store.deliveries.filter fun delivery => delivery.call = call ∧ delivery.number = number

/-- Inserts documents into a collection. -/
def insert (collection : String) (documents : List Value) : Action PlannedStore Unit := fun store =>
  let (outcome, memory) := store.memory.insert collection documents
  ⟨outcome, [], { store with memory }⟩

def deliver (deliveries : List PlannedDelivery) : Action PlannedStore Unit :=
  deliveries.forM fun delivery => insert delivery.collection delivery.documents

/-- Counts a call and returns its number. -/
def counted (call : StoreCall) : Action PlannedStore Nat := fun store =>
  let calls := store.calls ++ [call]
  ⟨.ok (calls.count call), [], { store with calls }⟩

/-- Makes a call under the plan. -/
def called {α : Type} (call : StoreCall) (run : Action PlannedStore α) : Action PlannedStore α := do
  let number ← counted call
  let store ← fun store => ⟨.ok store, [], store⟩
  match store.faultAt? call number with
  | some fault => Action.fail (.storage fault.message none)
  | none =>
    let result ← run
    deliver (store.deliveriesAt call number)
    return result

def reading {α : Type} (read : Memory → Except Failure α) : Action PlannedStore α := fun store =>
  ⟨read store.memory, [], store⟩

def find (collection : String) (selection : Selection) : Action PlannedStore (List Fields) :=
  called .find (reading fun memory => memory.find collection selection)

instance : DocumentStore PlannedStore where
  get collection id := called .get (reading fun memory => memory.get collection id)
  count collection filter := called .count (reading fun memory => memory.count collection filter)
  find := find
  bulkUpdate collection updates := called .bulkUpdate fun store =>
    let (outcome, memory) := store.memory.bulkUpdate collection updates
    ⟨outcome, [], { store with memory }⟩
  maxId collection := called .maxId (DocumentStore.greatestId find collection)
  pageBound store :=
    store.memory.size + (store.deliveries.flatMap PlannedDelivery.documents).length + 1

end PlannedStore

end MailSearch

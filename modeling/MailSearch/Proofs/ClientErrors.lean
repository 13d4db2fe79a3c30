import MailSearch.Proofs.WireExchanges

/-! What becomes of the errors of the search server. An action on a connection ends with the request that is
answered with an error, and fails over this error whatever was received before it; where a document is looked up,
the error that it is missing counts as an answer. -/

namespace MailSearch.Elastic

/-- What came before an error has the form that the request asks for. The items about updates are read one by one as
they come, so that a malformed one would count before the error. -/
def Request.Accepts (request : Request) (response : Response) : Prop :=
  match request with
  | .bulk _ _ => ∀ item ∈ response.items, ∃ outcome, updateOutcome item = .ok outcome
  | _ => True

/-- An action raises an error as the failure of the store that it amounts to. -/
def ClientError.raised {α : Type} (error : ClientError) : Except Failure α := .error error.failure

namespace Connection

variable {α β : Type} {connection : Connection} {made more : List Request} {request : Request} {error : ClientError}
  {opening : Connection → Option Request} {ending : ClientError → Except Failure α} {n : Nat}

section Exchanges

/-- The request of this number was answered with the error. -/
def Struck (connection : Connection) (made : List Request) (n : Nat) (error : ClientError) : Prop :=
  ∃ request response, made[n]? = some request ∧ connection.responses[n]? = some response ∧
    request.Accepts response ∧ response.error = some error

/-- The action opens with the request that it is to open with, if there is one. The first request that is answered
with an error is its last, and it ends as it is to over this error. -/
def Exchanges (opening : Connection → Option Request) (ending : ClientError → Except Failure α)
    (action : Action Connection α) : Prop :=
  ∀ connection, action.Leaves connection fun outcome final => ∃ made, final = connection.after made ∧
    (∀ request, opening connection = some request → made.head? = some request) ∧
    ∀ n error, connection.Struck made n error → n + 1 = made.length ∧ outcome = ending error

/-- The action fails over an error. -/
def Stops (action : Action Connection α) : Prop := Exchanges (fun _ => none) ClientError.raised action

theorem struck_append (struck : connection.Struck (made ++ more) n error) :
    connection.Struck made n error ∨
      ∃ later, n = made.length + later ∧ (connection.after made).Struck more later error := by
  obtain ⟨request, response, sent, next, accepted, told⟩ := struck
  by_cases earlier : n < made.length
  · rw [List.getElem?_append_left earlier] at sent
    exact .inl ⟨request, response, sent, next, accepted, told⟩
  · have split : n = made.length + (n - made.length) := by omega
    rw [List.getElem?_append_right (by omega)] at sent
    refine .inr ⟨_, split, request, response, sent, ?_, accepted, told⟩
    rw [after, List.getElem?_drop, ← split]
    exact next

private theorem eq_nil_of_after_eq (same : connection.after made = connection) : made = [] := by
  have requests : connection.requests ++ made = connection.requests := congrArg Connection.requests same
  exact List.append_right_eq_self.mp requests

theorem Exchanges.stops {action : Action Connection α}
    (exchanges : Exchanges opening ClientError.raised action) : Stops action := by
  intro connection
  apply (exchanges connection).mono
  intro outcome final reached
  obtain ⟨made, left, -, ended⟩ := reached
  exact ⟨made, left, nofun, ended⟩

private theorem exchanges_ofExcept (outcome : Except Failure α) :
    Exchanges (fun _ => none) ending (Action.ofExcept outcome) := by
  intro connection
  refine ⟨[], after_nil.symm, nofun, ?_⟩
  intro n error struck
  obtain ⟨request, response, sent, -⟩ := struck
  cases sent

theorem exchanges_pure (result : α) : Exchanges (fun _ => none) ending (pure result) := exchanges_ofExcept (.ok result)

theorem exchanges_fail (failure : Failure) : Exchanges (fun _ => none) ending (Action.fail failure) :=
  exchanges_ofExcept (.error failure)

theorem stops_emit (severity : Severity) (name : String) (values : Fields) :
    Stops (Action.emit severity name values) := exchanges_ofExcept (.ok ())

/-- What follows makes no more requests where the first action ended over an error. -/
theorem Exchanges.bind {early : ClientError → Except Failure β} {first : Action Connection β}
    {second : β → Action Connection α} (exchanges : Exchanges opening early first)
    (rest : ∀ result, Exchanges (fun _ => none) ending (second result))
    (answered : ∀ error result, early error = .ok result → second result = Action.ofExcept (ending error))
    (failed : ∀ error failure, early error = .error failure → ending error = .error failure) :
    Exchanges opening ending (first >>= second) := by
  intro connection
  rw [Action.leaves_bind]
  apply (exchanges connection).mono
  intro outcome middle reached
  obtain ⟨made, rfl, opens, ended⟩ := reached
  cases outcome with
  | error failure =>
    refine ⟨made, rfl, opens, ?_⟩
    intro n error struck
    obtain ⟨last, same⟩ := ended n error struck
    exact ⟨last, (failed error failure same.symm).symm⟩
  | ok result =>
    rw [Action.resumes_ok]
    have later := rest result (connection.after made)
    rcases ran : second result (connection.after made) with ⟨outcome, events, final⟩
    rw [Action.leaves_of_run ran] at later ⊢
    obtain ⟨more, left, -, ended'⟩ := later
    refine ⟨made ++ more, left.trans (after_after made more), ?_, ?_⟩
    · intro request opens'
      rw [List.head?_append, opens request opens']
      rfl
    · intro n error struck
      rcases struck_append struck with before | ⟨later, rfl, struck'⟩
      · obtain ⟨last, same⟩ := ended n error before
        rw [answered error result same.symm] at ran
        cases ran
        cases eq_nil_of_after_eq left.symm
        exact ⟨by simpa using last, rfl⟩
      · obtain ⟨last, same⟩ := ended' later error struck'
        refine ⟨?_, same⟩
        rw [List.length_append, Nat.add_assoc, last]

theorem Exchanges.bind_stops {first : Action Connection β} {second : β → Action Connection α}
    (exchanges : Exchanges opening ClientError.raised first) (rest : ∀ result, Stops (second result)) :
    Exchanges opening ClientError.raised (first >>= second) := by
  apply exchanges.bind rest
  · intro error result same
    cases same
  · intro error failure same
    cases same
    rfl

/-- Where the first part makes no request, the action opens as the second part does. -/
theorem exchanges_after {first : Action Connection β} {second : β → Action Connection α}
    {opening : β → Connection → Option Request} (unmoved : ∀ connection, (first connection).state = connection)
    (rest : ∀ result, Exchanges (opening result) ending (second result)) :
    Exchanges (fun connection => (first connection).outcome.toOption.bind (opening · connection)) ending
      (first >>= second) := by
  intro connection
  rw [Action.leaves_bind]
  rw [Action.Leaves, unmoved connection]
  beta_reduce
  cases (first connection).outcome with
  | error failure => exact exchanges_fail failure connection
  | ok result => exact rest result connection

private theorem Stops.forM {items : List β} {action : β → Action Connection Unit} (each : ∀ item, Stops (action item)) :
    Stops (items.forM action) := by
  induction items with
  | nil => exact exchanges_pure ()
  | cons item rest ih => exact (each item).bind_stops fun _ => ih

private theorem exchanges_exchange {next : Response → Action Connection α}
    (ends : ∀ response error, response.error = some error → request.Accepts response →
      next response = Action.ofExcept (ending error))
    (goesOn : ∀ response, Exchanges (fun _ => none) ending (next response)) :
    Exchanges (fun _ => some request) ending (exchange request >>= next) := by
  intro connection
  rw [Action.leaves_bind, leaves_exchange]
  cases given : connection.responses[0]? with
  | none =>
    refine ⟨[request], rfl, fun _ => id, ?_⟩
    intro n error struck
    obtain ⟨sent, response, same, received, -⟩ := struck
    cases n with
    | zero => cases given.symm.trans received
    | succ n => cases same
  | some response =>
    rw [Option.elim_some, Action.resumes_ok]
    have rest := goesOn response (connection.after [request])
    rcases ran : next response (connection.after [request]) with ⟨outcome, events, final⟩
    rw [Action.leaves_of_run ran] at rest ⊢
    obtain ⟨more, left, -, ended⟩ := rest
    refine ⟨[request] ++ more, left.trans (after_after [request] more), fun _ => id, ?_⟩
    intro n error struck
    rcases struck_append struck with first | ⟨later, rfl, struck'⟩
    · obtain ⟨sent, received, same, next, accepted, told⟩ := first
      cases n with
      | zero =>
        cases same
        cases given.symm.trans next
        rw [ends response error told accepted] at ran
        cases ran
        cases eq_nil_of_after_eq left.symm
        exact ⟨rfl, rfl⟩
      | succ n => cases same
    · obtain ⟨last, same⟩ := ended later error struck'
      refine ⟨?_, same⟩
      rw [List.length_append, Nat.add_assoc, last]

/-- An action whose opening request is answered with an error makes no other. -/
theorem Exchanges.leaves_struck {action : Action Connection α} (exchanges : Exchanges opening ending action)
    {response : Response} (opens : opening connection = some request) (next : connection.responses[0]? = some response)
    (accepted : request.Accepts response) (told : response.error = some error) :
    action.Leaves connection fun outcome final => outcome = ending error ∧ final = connection.after [request] := by
  apply (exchanges connection).mono
  intro outcome final reached
  obtain ⟨made, rfl, opened, ended⟩ := reached
  have first := opened request opens
  have sent : made[0]? = some request := by rw [← first, List.head?_eq_getElem?]
  obtain ⟨last, same⟩ := ended 0 error ⟨request, response, sent, next, accepted, told⟩
  obtain ⟨only, rfl⟩ := List.length_eq_one_iff.mp last.symm
  cases first
  exact ⟨same, rfl⟩

end Exchanges

section Steps

private theorem indexOf_unmoved (collection : String) (connection : Connection) :
    (indexOf collection connection).state = connection := by
  unfold indexOf
  split <;> rfl

private theorem toOption_indexOf (collection : String) (connection : Connection) :
    (indexOf collection connection).outcome.toOption = connection.indices.get? collection := by
  unfold indexOf
  cases connection.indices.get? collection <;> rfl

private theorem exchanges_after_index {collection : String} {second : String → Action Connection α}
    {opening : String → Connection → Option Request}
    (rest : ∀ index, Exchanges (opening index) ending (second index)) :
    Exchanges (fun connection => (connection.indices.get? collection).bind (opening · connection)) ending
      (indexOf collection >>= second) := by
  have exchanges := exchanges_after (indexOf_unmoved collection) rest
  simp only [toOption_indexOf] at exchanges
  exact exchanges

theorem exchanges_after_reading {outcome : Except Failure β} {second : β → Action Connection α}
    (rest : ∀ result, Exchanges (fun _ => none) ending (second result)) :
    Exchanges (fun _ => none) ending (Action.ofExcept outcome >>= second) := by
  cases outcome with
  | error failure => exact exchanges_fail failure
  | ok result => exact rest result

private theorem exchanges_after_ofExcept {outcome : Except Failure β} {second : β → Action Connection α}
    {opening : β → Connection → Option Request} (rest : ∀ result, Exchanges (opening result) ending (second result)) :
    Exchanges (fun connection => outcome.toOption.bind (opening · connection)) ending
      (Action.ofExcept outcome >>= second) := by
  apply exchanges_after _ rest
  intro connection
  rfl

private theorem exchanges_after_refresh (opening : Bool → Option Request) {second : Bool → Action Connection α}
    (rest : ∀ refresh, Exchanges (fun _ => opening refresh) ending (second refresh)) :
    Exchanges (fun connection => opening connection.refresh) ending
      ((fun connection => ⟨.ok connection.refresh, [], connection⟩ : Action Connection Bool) >>= second) := by
  apply exchanges_after _ rest
  intro connection
  rfl

private theorem exchanges_ask (request : Request) :
    Exchanges (fun _ => some request) ClientError.raised (ask request) := by
  apply exchanges_exchange
  · intro response error told _
    simp only [told]
    rfl
  · intro response
    cases response.error with
    | some error => exact exchanges_fail error.failure
    | none => exact exchanges_pure response.value

private theorem stops_reportFailed (index : String) (outcomes : List UpdateOutcome) :
    Stops (reportFailed index outcomes) := by
  unfold reportFailed
  split
  · exact stops_emit _ _ _
  · exact exchanges_pure ()

end Steps

end Connection

/-- The operations on the search server, by what they return. -/
inductive Operation : Type → Type where
  | get (collection : String) (id : Value) : Operation (Option Fields)
  | user (id : Value) : Operation (Option Identity)
  | count (collection : String) (filter : Option Predicate) : Operation Int
  | find (collection : String) (selection : Selection) : Operation (List Fields)
  | maxId (collection : String) : Operation (Option Value)
  | bulkUpdate (collection : String) (updates : List (Value × Fields)) : Operation Nat
  | searchMessages (filter : Option Predicate) (offset size : Int) : Operation (List Fields × Int)
  | ensureIndices : Operation Unit

namespace Operation

open Connection

variable {α : Type}

def run : Operation α → Action Connection α
  | get collection id => DocumentStore.get collection id
  | user id => DocumentStore.user id
  | count collection filter => DocumentStore.count collection filter
  | find collection selection => DocumentStore.find collection selection
  | maxId collection => DocumentStore.maxId collection
  | bulkUpdate collection updates => DocumentStore.bulkUpdate collection updates
  | searchMessages filter offset size => Connection.searchMessages filter offset size
  | ensureIndices => Connection.ensureIndices

/-- What is returned for a document that is missing, where one is looked up. -/
def missing? : Operation α → Option α
  | get _ _ => some none
  | user _ => some none
  | _ => none

/-- How the operation ends over an error. -/
def ending (error : ClientError) (operation : Operation α) : Except Failure α :=
  match operation.missing? with
  | some missing => if error.fault = .notFound then .ok missing else error.raised
  | none => error.raised

def lookup? (connection : Connection) (collection : String) (id : Value) : Option Request := do
  let index ← connection.indices.get? collection
  let id ← (idText id).toOption
  return .get index id

/-- The request for the hits of a selection: for all of them, or for the first ones up to its limit. -/
def hits (index : String) (query : Query) (selection : Selection) : Request :=
  match selection.limit with
  | none => .scan index query selection.order (sourceOf selection.names)
  | some size => .search index query selection.order size (sourceOf selection.names)

def listing? (connection : Connection) (collection : String) (selection : Selection) : Option Request := do
  let index ← connection.indices.get? collection
  let query ← (renderQuery selection.filter).toOption
  return hits index query selection

/-- The request that the operation opens with; there is none where what is asked for cannot be written down. -/
def opening? (operation : Operation α) (connection : Connection) : Option Request :=
  match operation with
  | get collection id => lookup? connection collection id
  | user id => lookup? connection Collections.users id
  | count collection filter => do
    let index ← connection.indices.get? collection
    let query ← (renderQuery filter).toOption
    return .count index query
  | find collection selection => listing? connection collection selection
  | maxId collection =>
    listing? connection collection { order := some .descending, limit := some 1, names := some ["id"] }
  | bulkUpdate collection updates =>
    if updates.isEmpty then none
    else do
      let index ← connection.indices.get? collection
      let sent ← (updates.mapM fun (id, fields) => updateFor index id fields).toOption
      return .bulk sent connection.refresh
  | searchMessages filter offset size => do
    let query ← (renderQuery filter).toOption
    let index ← connection.indices.get? Collections.messages
    return .searchBody index (query.messageSearch offset size)
  | ensureIndices => do
    let index ← connection.indices.get? Collections.users
    return .indexExists index

theorem exchanges_count (collection : String) (filter : Option Predicate) :
    Exchanges (count collection filter).opening? ClientError.raised (count collection filter).run := by
  apply exchanges_after_index
  intro index
  apply exchanges_after_ofExcept
  intro query
  apply (exchanges_ask _).bind_stops
  intro answer
  exact exchanges_ofExcept _

private theorem exchanges_hits (index : String) (query : Query) (selection : Selection) :
    Exchanges (fun _ => some (hits index query selection)) ClientError.raised
      (Connection.hits index query selection) := by
  unfold Connection.hits hits
  cases selection.limit with
  | none =>
    apply exchanges_exchange
    · intro response error told _
      simp only [told]
      rfl
    · intro response
      cases response.error with
      | some error => exact exchanges_fail error.failure
      | none => exact exchanges_pure response.items
  | some size =>
    apply (exchanges_ask _).bind_stops
    intro answer
    exact exchanges_ofExcept _

theorem exchanges_find (collection : String) (selection : Selection) :
    Exchanges (find collection selection).opening? ClientError.raised (find collection selection).run := by
  apply exchanges_after_index
  intro index
  apply exchanges_after_ofExcept
  intro query
  apply (exchanges_hits index query selection).bind_stops
  intro hits
  exact exchanges_ofExcept _

theorem exchanges_maxId (collection : String) :
    Exchanges (maxId collection).opening? ClientError.raised (maxId collection).run := by
  apply (exchanges_find collection { order := some .descending, limit := some 1, names := some ["id"] }).bind_stops
  intro documents
  cases documents with
  | nil => exact exchanges_pure none
  | cons document _ => exact exchanges_after_reading fun id => exchanges_pure id.given?

/-- The items before an error can be read, but what they say is not counted. -/
theorem exchanges_bulkUpdate (collection : String) (updates : List (Value × Fields)) :
    Exchanges (bulkUpdate collection updates).opening? ClientError.raised (bulkUpdate collection updates).run := by
  change Exchanges (fun connection => if updates.isEmpty then none else _) _
    (if updates.isEmpty then pure 0 else _)
  split
  · exact exchanges_pure 0
  apply exchanges_after_index
  intro index
  apply exchanges_after_ofExcept
  intro sent
  apply exchanges_after_refresh fun refresh => some (.bulk sent refresh)
  intro refresh
  apply exchanges_exchange
  · intro response error told accepted
    obtain ⟨outcomes, read⟩ := exists_mapM_eq_ok accepted
    simp only [told, read]
    rfl
  · intro response
    apply exchanges_after_reading
    intro outcomes
    cases response.error with
    | some error => exact exchanges_fail error.failure
    | none => exact (stops_reportFailed index outcomes).bind_stops fun _ => exchanges_pure _

end Operation

end MailSearch.Elastic

import MailSearch.Backfill
import MailSearch.Proofs.ClientErrors
import MailSearch.Search

/-! Requests that fail, and what those who make them are told. A search is refused where its user cannot be looked
up, and leaves out the excluded mailboxes where those it covers cannot be counted or listed; a run over messages
fails as the store did. -/

namespace MailSearch.Elastic.Connection

variable {α β : Type} {connection : Connection} {collection index : String} {request : Request} {error : ClientError}
  {response : Response} {user : Value} {threshold : Int}

section Resolution

def coveredQuery (user : Value) : Query :=
  .conjunction [.term "user" (Query.wireValue user), .negated (.terms "special_use" MailboxScope.excludedUses)]

def leftOutQuery (user : Value) : Query :=
  .conjunction [.term "user" (Query.wireValue user), .terms "special_use" MailboxScope.excludedUses]

private theorem renderQuery_covered (user : Value) :
    renderQuery (some (MailboxScope.covered user)) = .ok (coveredQuery user) := rfl

private theorem renderQuery_leftOut (user : Value) :
    renderQuery (some (MailboxScope.leftOut user)) = .ok (leftOutQuery user) := rfl

/-- The request for the ids of all mailboxes that match. -/
def idScan (index : String) (query : Query) : Request := .scan index query none (.names ["id"])

/-- The requests of a resolution up to the listing of the mailboxes that it leaves out, where it cannot have those it
covers: their number was not told, or they are few and listing them broke off, after however many of them. -/
inductive FallsBack (index : String) (user : Value) (threshold : Int) (script : List Response) :
    List Request → Prop where
  | uncounted {response : Response} {error : ClientError} {text : String} (first : script[0]? = some response)
      (told : response.error = some error) (readable : error.text = .ok text) :
      FallsBack index user threshold script [.count index (coveredQuery user)]
  | unlisted {response second : Response} {n : Int} {error : ClientError} {text : String}
      (first : script[0]? = some response) (tells : response.Tells n)
      (few : MailboxScope.isListable threshold (some n) = true) (next : script[1]? = some second)
      (told : second.error = some error) (readable : error.text = .ok text) :
      FallsBack index user threshold script [.count index (coveredQuery user), idScan index (coveredQuery user)]

/-- The ids of the documents in a response to a scan. -/
def idsOf : Option Response → Except Failure (List Value)
  | none => .error .outOfResponses
  | some response =>
    match response.error with
    | some error => error.raised
    | none => response.items.mapM documentOfListedHit >>= (·.mapM DocumentStore.idOf)

/-- The scope that leaves out the mailboxes in a response, unless the store failed. -/
def exclusionOf (next : Option Response) : Except Failure MailboxScope :=
  match idsOf next with
  | .ok ids => .ok (.excluding ids)
  | .error failure => .error (if failure.isStorage then .lookup else failure)

private theorem raised_of_text {text : String} (readable : error.text = .ok text) :
    (error.raised : Except Failure α) = .error (.storage (some text) (some (.client error.fault))) := by
  rw [ClientError.raised, ClientError.failure, readable]

private theorem leaves_count_of_error (known : connection.indices.get? collection = some index)
    {filter : Option Predicate} {query : Query} (rendered : renderQuery filter = .ok query)
    (next : connection.responses[0]? = some response) (told : response.error = some error) :
    (DocumentStore.count collection filter : Action Connection Int).Leaves connection fun outcome final =>
      outcome = error.raised ∧ final = connection.after [.count index query] := by
  have opens : (Operation.count collection filter).opening? connection = some (.count index query) := by
    simp only [Operation.opening?, known, rendered]
    rfl
  exact (Operation.exchanges_count collection filter).leaves_struck opens next trivial told

private theorem leaves_list (known : connection.indices.get? Collections.mailboxes = some index) {filter : Predicate}
    {query : Query} (rendered : renderQuery (some filter) = .ok query)
    {post : Except Failure (List Value) → Connection → Prop} :
    (MailboxScope.list filter : Action Connection (List Value)).Leaves connection post ↔
      post (idsOf connection.responses[0]?) (connection.after [idScan index query]) := by
  unfold MailboxScope.list
  rw [Action.leaves_bind]
  change (find Collections.mailboxes _).Leaves connection _ ↔ _
  unfold find
  rw [Action.leaves_bind, leaves_indexOf known, Action.resumes_ok, rendered, Action.leaves_bind,
    Action.leaves_ofExcept, Action.resumes_ok, Action.leaves_bind]
  unfold hits
  rw [Action.leaves_bind, leaves_exchange]
  cases connection.responses[0]? with
  | none => rfl
  | some response =>
    rw [Option.elim_some, Action.resumes_ok, idsOf]
    cases response.error with
    | some error => rfl
    | none =>
      simp only [Action.leaves_pure, Action.resumes_ok, Action.leaves_ofExcept]
      cases response.items.mapM documentOfListedHit <;> rfl

private theorem leaves_exclusion (known : connection.indices.get? Collections.mailboxes = some index)
    {count : Option Int} :
    (do
      let mailboxes ← Action.orElseOnStorage (MailboxScope.list (MailboxScope.leftOut user)) (Action.fail .lookup)
      MailboxScope.settle user count (.excluding mailboxes) : Action Connection MailboxScope).Leaves connection
      fun outcome final => outcome = exclusionOf connection.responses[0]? ∧
        final = connection.after [idScan index (leftOutQuery user)] := by
  rw [Action.leaves_bind, Action.leaves_orElseOnStorage, leaves_list known (renderQuery_leftOut user), exclusionOf]
  cases idsOf connection.responses[0]? with
  | ok ids => exact ⟨rfl, rfl⟩
  | error failure =>
    simp only [Action.recovers_error]
    split <;> exact ⟨rfl, rfl⟩

private theorem leaves_countCovered_of_error (known : connection.indices.get? Collections.mailboxes = some index)
    {text : String} (next : connection.responses[0]? = some response) (told : response.error = some error)
    (readable : error.text = .ok text) :
    (MailboxScope.countCovered user : Action Connection (Option Int)).Leaves connection fun outcome final =>
      outcome = .ok none ∧ final = connection.after [.count index (coveredQuery user)] := by
  rw [MailboxScope.countCovered, Action.leaves_orElseOnStorage, Action.leaves_map]
  apply (leaves_count_of_error known (renderQuery_covered user) next told).mono
  intro outcome final reached
  obtain ⟨rfl, rfl⟩ := reached
  rw [raised_of_text readable]
  exact ⟨rfl, rfl⟩

private theorem leaves_countCovered_of_tells (known : connection.indices.get? Collections.mailboxes = some index)
    {n : Int} (next : connection.responses[0]? = some response) (tells : response.Tells n) :
    (MailboxScope.countCovered user : Action Connection (Option Int)).Leaves connection fun outcome final =>
      outcome = .ok (some n) ∧ final = connection.after [.count index (coveredQuery user)] := by
  rw [MailboxScope.countCovered, Action.leaves_orElseOnStorage, Action.leaves_map,
    leaves_count_of_tells known (renderQuery_covered user) next tells]
  exact ⟨rfl, rfl⟩

private theorem leaves_listCovered_of_error (known : connection.indices.get? Collections.mailboxes = some index)
    {count : Option Int} (few : MailboxScope.isListable threshold count = true) {text : String}
    (next : connection.responses[0]? = some response) (told : response.error = some error)
    (readable : error.text = .ok text) :
    (MailboxScope.listCovered user threshold count : Action Connection (Option (List Value))).Leaves connection
      fun outcome final => outcome = .ok none ∧ final = connection.after [idScan index (coveredQuery user)] := by
  rw [MailboxScope.listCovered, if_pos few, Action.leaves_orElseOnStorage, Action.leaves_map,
    leaves_list known (renderQuery_covered user), next]
  simp only [idsOf, told, raised_of_text readable]
  exact ⟨rfl, rfl⟩

/-- Where the mailboxes covered cannot be had, nothing that was received of them counts: the scope comes from the
response to the last request alone. -/
theorem leaves_resolve (known : connection.indices.get? Collections.mailboxes = some index) {made : List Request}
    (falls : FallsBack index user threshold connection.responses made) :
    (MailboxScope.resolve user threshold : Action Connection MailboxScope).Leaves connection fun outcome final =>
      outcome = exclusionOf connection.responses[made.length]? ∧
        final = connection.after (made ++ [idScan index (leftOutQuery user)]) := by
  rw [MailboxScope.resolve, Action.leaves_bind]
  cases falls with
  | uncounted first told readable =>
    apply (leaves_countCovered_of_error known first told readable).mono
    intro outcome middle reached
    obtain ⟨rfl, rfl⟩ := reached
    have uncounted : (MailboxScope.listCovered user threshold none : Action Connection _) = pure none := rfl
    have known' (made : List Request) : (connection.after made).indices.get? Collections.mailboxes = some index := known
    rw [Action.resumes_ok, Action.leaves_bind, uncounted, Action.leaves_pure, Action.resumes_ok]
    apply (leaves_exclusion (known' _)).mono
    intro outcome final reached
    obtain ⟨rfl, rfl⟩ := reached
    exact ⟨by simp [after], after_after _ _⟩
  | @unlisted response second n error text first tells few next told readable =>
    apply (leaves_countCovered_of_tells known first tells).mono
    intro outcome middle reached
    obtain ⟨rfl, rfl⟩ := reached
    rw [Action.resumes_ok, Action.leaves_bind]
    have known' (made : List Request) : (connection.after made).indices.get? Collections.mailboxes = some index := known
    have next' : (connection.after [.count index (coveredQuery user)]).responses[0]? = some second := by
      simpa [after] using next
    apply (leaves_listCovered_of_error (known' _) few next' told readable).mono
    intro outcome later reached
    obtain ⟨rfl, rfl⟩ := reached
    rw [Action.resumes_ok, after_after]
    apply (leaves_exclusion (known' _)).mono
    intro outcome final reached
    obtain ⟨rfl, rfl⟩ := reached
    exact ⟨by simp [after], after_after _ _⟩

end Resolution

section Runs

open Backfill

variable {settings : BackfillSettings}

private theorem stops_nextBatch (settings : BackfillSettings) (collection : String) (cursor : Cursor) :
    Stops (nextBatch settings collection cursor) := by
  apply (Operation.exchanges_find collection (batchSelection settings cursor)).stops.bind_stops
  intro batch
  cases batch.getLast? with
  | none => exact exchanges_pure none
  | some final =>
    apply exchanges_after_reading
    intro updates
    apply (Operation.exchanges_bulkUpdate collection updates).stops.bind_stops
    intro modified
    exact exchanges_after_reading fun last => exchanges_pure _

private theorem stops_report (settings : BackfillSettings) (cursor : Cursor) : Stops (report settings cursor) := by
  unfold report
  split
  · exact stops_emit _ _ _
  · exact exchanges_pure ()

private theorem stops_walk (settings : BackfillSettings) (collection : String) (bound : Nat) (cursor : Cursor) :
    Stops (walk settings collection bound cursor) := by
  induction bound generalizing cursor with
  | zero => exact exchanges_fail .unending
  | succ bound ih =>
    apply (stops_nextBatch settings collection cursor).bind_stops
    intro next
    cases next with
    | none => exact exchanges_pure cursor
    | some next => exact (stops_report settings next).bind_stops fun _ => ih next

private theorem stops_process (settings : BackfillSettings) (collection : String) (cursor : Cursor) :
    Stops (process settings collection cursor) := by
  apply (exchanges_after (fun _ => rfl) _).stops
  · exact fun _ _ => none
  intro bound
  apply (stops_walk settings collection bound cursor).bind_stops
  intro reached
  exact (stops_emit _ _ _).bind_stops fun _ => exchanges_pure reached

private theorem stops_scan (settings : BackfillSettings) (collection : String) : Stops (scan settings collection) := by
  have skips (reason : String) (details : Fields) (cursor : Cursor) :
      Stops (skip reason details cursor : Action Connection (Cursor × Bool)) :=
    (stops_emit _ _ _).bind_stops fun _ => exchanges_pure _
  unfold scan
  split
  · apply (stops_emit _ _ _).bind_stops
    intro _
    apply (Operation.exchanges_maxId collection).stops.bind_stops
    intro greatest
    cases greatest with
    | none => exact skips _ _ _
    | some greatest =>
      apply (Operation.exchanges_count collection (some (eligible { greatest := some greatest }))).stops.bind_stops
      intro total
      simp only
      split
      · exact skips _ _ _
      · exact (stops_emit _ _ _).bind_stops fun _ => exchanges_pure _
  · exact (stops_emit _ _ _).bind_stops fun _ => exchanges_pure _

/-- A run ends with the request that is answered with an error, and tells that it failed over it. -/
theorem leaves_run (settings : BackfillSettings) (collection : String) (connection : Connection) :
    (run settings collection : Action Connection Run).Leaves connection fun outcome final => ∃ made ended,
      final = connection.after made ∧ outcome = .ok ended ∧ ∀ n error, connection.Struck made n error →
        n + 1 = made.length ∧ ended.phase ≠ .done ∧ ended.outcome = error.raised := by
  rw [run, Action.leaves_bind, Action.leaves_attempt]
  apply (stops_scan settings collection connection).mono
  intro outcome middle reached
  obtain ⟨made, rfl, -, ended⟩ := reached
  rw [Action.resumes_ok]
  rcases outcome with failure | ⟨cursor, _ | _⟩
  · refine ⟨made, _, rfl, rfl, ?_⟩
    intro n error struck
    obtain ⟨last, same⟩ := ended n error struck
    cases same
    exact ⟨last, Phase.noConfusion, rfl⟩
  · refine ⟨made, _, rfl, rfl, ?_⟩
    intro n error struck
    obtain ⟨-, same⟩ := ended n error struck
    cases same
  · simp only [Action.leaves_bind, Action.leaves_attempt]
    apply (stops_process settings collection cursor (connection.after made)).mono
    intro outcome final reached
    obtain ⟨more, rfl, -, ended'⟩ := reached
    rw [Action.resumes_ok, after_after]
    have later (n : Nat) (error : ClientError) (struck : connection.Struck (made ++ more) n error) :
        n + 1 = (made ++ more).length ∧ outcome = error.raised := by
      rcases struck_append struck with before | ⟨later, rfl, struck'⟩
      · obtain ⟨-, same⟩ := ended n error before
        cases same
      · obtain ⟨last, same⟩ := ended' later error struck'
        exact ⟨by rw [List.length_append, Nat.add_assoc, last], same⟩
    cases outcome with
    | error failure =>
      refine ⟨_, _, rfl, rfl, ?_⟩
      intro n error struck
      obtain ⟨last, same⟩ := later n error struck
      cases same
      exact ⟨last, Phase.noConfusion, rfl⟩
    | ok reached =>
      refine ⟨_, _, rfl, rfl, ?_⟩
      intro n error struck
      obtain ⟨-, same⟩ := later n error struck
      cases same

end Runs

section BrokenListing

end BrokenListing

end MailSearch.Elastic.Connection

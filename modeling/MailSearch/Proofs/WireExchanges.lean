import Mathlib.Data.List.Forall2
import MailSearch.Elastic.Documents
import MailSearch.Proofs.ActionLogic
import MailSearch.Proofs.SortedItems
import MailSearch.Proofs.StoredDocuments

/-! What each call to the search server comes to: the one request that it makes, and what the response to it says if
the call returns anything. Responses are taken in turn, one for each request. -/

namespace MailSearch

theorem forall₂_of_mapM {ε α β : Type} {f : α → Except ε β} {items : List α} {results : List β}
    (done : items.mapM f = .ok results) : List.Forall₂ (fun item result => f item = .ok result) items results := by
  induction items generalizing results with
  | nil =>
    cases done
    exact .nil
  | cons item rest ih =>
    rw [List.mapM_cons] at done
    obtain ⟨first, found, done⟩ := Sorting.bind_eq_ok_iff.mp done
    obtain ⟨others, listed, done⟩ := Sorting.bind_eq_ok_iff.mp done
    cases done
    exact .cons found (ih listed)

private theorem mapM_of_forall₂ {ε α β : Type} {f : α → Except ε β} {items : List α} {results : List β}
    (each : List.Forall₂ (fun item result => f item = .ok result) items results) : items.mapM f = .ok results := by
  rw [mapM_eq_ok_iff]
  induction each with
  | nil => rfl
  | cons first _ ih => rw [List.map_cons, List.map_cons, first, ih]

namespace Elastic

def hitsOf (response : Response) : Except Failure (List Value) := do
  membersOf (← member (← member response.value "hits") "hits")

/-- The response lists hits, and these are their documents. -/
structure Response.Page (response : Response) (documents : List Fields) : Prop where
  undisturbed : response.error = none
  listed : ∃ hits, hitsOf response = .ok hits ∧
    List.Forall₂ (fun hit document => documentOfListedHit hit = .ok document) hits documents

structure Response.Tells (response : Response) (n : Int) : Prop where
  undisturbed : response.error = none
  told : (member response.value "count" >>= wholeNumber) = .ok n

/-- The item says that an update succeeded and changed its document. -/
def reportsChange (item : Value) : Bool :=
  match item.members? with
  | some [succeeded, .object details] =>
    succeeded.isTruthy &&
      match Table.get? details "update" with
      | some (.object update) => (Table.get? update "result").any (·.same (.text "updated"))
      | _ => false
  | _ => false

def Response.changed (response : Response) : Nat := response.items.countP reportsChange

/-- The update as it is sent for fields that are to be set on the document with an id. -/
def Sends (index : String) (update : Value × Fields) (sent : DocumentUpdate) : Prop :=
  sent = { index, id := update.1.display, fields := update.2 }

private theorem pairOf_eq_ok_iff {value first second : Value} :
    pairOf value = .ok (first, second) ↔ value.members? = some [first, second] := by
  unfold pairOf membersOf
  cases value.members? with
  | none => simp [bind, Except.bind]
  | some members =>
    match members with
    | [] => simp [bind, Except.bind]
    | [_] => simp [bind, Except.bind]
    | [_, _] => simp [bind, Except.bind, pure, Except.pure]
    | _ :: _ :: _ :: _ => simp [bind, Except.bind]

private theorem memberOrEmpty_eq_ok_iff {value found : Value} {name : String} :
    memberOrEmpty value name = .ok found ↔
      ∃ entries, value = .object entries ∧ (Table.get? entries name).getD (.object []) = found := by
  unfold memberOrEmpty
  cases value <;> simp

private theorem updateOutcome_iff {item : Value} {outcome : UpdateOutcome} (read : updateOutcome item = .ok outcome) :
    outcome = .modified ↔ reportsChange item = true := by
  have nothing : (Value.object []).same (.text "updated") = false := rfl
  obtain ⟨⟨succeeded, details⟩, pair, read⟩ := Sorting.bind_eq_ok_iff.mp read
  unfold reportsChange
  rw [pairOf_eq_ok_iff.mp pair]
  cases success : succeeded.isTruthy with
  | false =>
    simp only [success, Bool.false_eq_true, ↓reduceIte] at read
    cases read
    cases details <;> simp [success]
  | true =>
    simp only [success, ↓reduceIte] at read
    obtain ⟨update, found, read⟩ := Sorting.bind_eq_ok_iff.mp read
    obtain ⟨result, told, read⟩ := Sorting.bind_eq_ok_iff.mp read
    obtain ⟨entries, rfl, held⟩ := memberOrEmpty_eq_ok_iff.mp found
    obtain ⟨entries', rfl, held'⟩ := memberOrEmpty_eq_ok_iff.mp told
    cases read
    simp only [success, Bool.true_and]
    cases given : Table.get? entries "update" with
    | none =>
      rw [given] at held
      cases held
      cases held'
      simp [Table.get?, nothing]
    | some update =>
      rw [given] at held
      cases held
      cases said : Table.get? entries' "result" with
      | none =>
        rw [said] at held'
        cases held'
        simp [nothing, said]
      | some value =>
        rw [said] at held'
        cases held'
        cases same : value.same (.text "updated") <;> simp [said, same]

private theorem count_modified {items : List Value} {outcomes : List UpdateOutcome}
    (read : items.mapM updateOutcome = .ok outcomes) : outcomes.count .modified = items.countP reportsChange := by
  have each := forall₂_of_mapM read
  clear read
  induction each with
  | nil => rfl
  | cons first rest ih =>
    rw [List.count_cons, List.countP_cons, ih]
    simp only [beq_iff_eq, updateOutcome_iff first]

namespace Connection

variable {connection : Connection} {request : Request} {collection index : String} {response : Response}

/-- The connection after requests, each of which took the next response. -/
def after (connection : Connection) (made : List Request) : Connection :=
  { connection with
    requests := connection.requests ++ made
    responses := connection.responses.drop made.length }

theorem after_nil : connection.after [] = connection := by
  simp [after]

theorem after_after (made more : List Request) : (connection.after made).after more = connection.after (made ++ more) := by
  simp [after]

theorem leaves_exchange {post : Except Failure Response → Connection → Prop} :
    (exchange request).Leaves connection post ↔
      post ((connection.responses[0]?).elim (.error .outOfResponses) .ok) (connection.after [request]) := by
  unfold Action.Leaves exchange after
  cases connection.responses <;> rfl

theorem leaves_indexOf (known : connection.indices.get? collection = some index)
    {post : Except Failure String → Connection → Prop} :
    (indexOf collection).Leaves connection post ↔ post (.ok index) connection := by
  unfold Action.Leaves indexOf
  rw [known]

private theorem leaves_ask :
    (ask request).Leaves connection fun outcome final => final = connection.after [request] ∧
      ∀ value, outcome = .ok value → ∃ response, connection.responses[0]? = some response ∧
        response.error = none ∧ response.value = value := by
  unfold ask
  rw [Action.leaves_bind, leaves_exchange]
  cases next : connection.responses[0]? with
  | none => exact ⟨rfl, by rintro _ ⟨⟩⟩
  | some response =>
    simp only [Option.elim_some, Action.resumes_ok]
    cases disturbed : response.error with
    | some error => exact ⟨rfl, by rintro _ ⟨⟩⟩
    | none =>
      refine ⟨rfl, ?_⟩
      rintro _ ⟨⟩
      exact ⟨response, rfl, disturbed, rfl⟩

theorem leaves_count (known : connection.indices.get? collection = some index) {filter : Option Predicate}
    {query : Query} (rendered : renderQuery filter = .ok query) :
    (count collection filter).Leaves connection fun outcome final =>
      final = connection.after [.count index query] ∧
        ∀ n, outcome = .ok n → ∃ response, connection.responses[0]? = some response ∧ response.Tells n := by
  unfold count
  rw [Action.leaves_bind, leaves_indexOf known, Action.resumes_ok, rendered, Action.leaves_bind,
    Action.leaves_ofExcept, Action.resumes_ok, Action.leaves_bind]
  apply leaves_ask.mono
  intro outcome final reached
  obtain ⟨rfl, answered⟩ := reached
  cases outcome with
  | error failure => exact ⟨rfl, nofun⟩
  | ok answer =>
    obtain ⟨response, next, undisturbed, rfl⟩ := answered answer rfl
    refine ⟨rfl, ?_⟩
    intro n told
    exact ⟨response, next, undisturbed, told⟩

theorem leaves_find (known : connection.indices.get? collection = some index) {selection : Selection}
    {query : Query} (rendered : renderQuery selection.filter = .ok query) {size : Int}
    (limited : selection.limit = some size) :
    (find collection selection).Leaves connection fun outcome final =>
      final = connection.after [.search index query selection.order size (sourceOf selection.names)] ∧
        ∀ documents, outcome = .ok documents →
          ∃ response, connection.responses[0]? = some response ∧ response.Page documents := by
  unfold find
  rw [Action.leaves_bind, leaves_indexOf known, Action.resumes_ok, rendered, Action.leaves_bind,
    Action.leaves_ofExcept, Action.resumes_ok, Action.leaves_bind]
  unfold hits
  simp only [limited]
  rw [Action.leaves_bind]
  apply leaves_ask.mono
  intro outcome final reached
  obtain ⟨rfl, answered⟩ := reached
  cases outcome with
  | error failure => exact ⟨rfl, nofun⟩
  | ok answer =>
    obtain ⟨response, next, undisturbed, rfl⟩ := answered answer rfl
    rw [Action.resumes_ok, Action.leaves_ofExcept]
    change Action.Resumes _ _ (hitsOf response) _
    cases read : hitsOf response with
    | error failure => exact ⟨rfl, nofun⟩
    | ok hits =>
      refine ⟨rfl, ?_⟩
      intro documents decoded
      exact ⟨response, next, undisturbed, hits, read, forall₂_of_mapM decoded⟩

theorem leaves_ask_of_answer (next : connection.responses[0]? = some response) (undisturbed : response.error = none)
    {post : Except Failure Value → Connection → Prop} :
    (ask request).Leaves connection post ↔ post (.ok response.value) (connection.after [request]) := by
  unfold ask
  rw [Action.leaves_bind, leaves_exchange, next, Option.elim_some, Action.resumes_ok, undisturbed]
  rfl

theorem leaves_count_of_tells (known : connection.indices.get? collection = some index) {filter : Option Predicate}
    {query : Query} (rendered : renderQuery filter = .ok query) (next : connection.responses[0]? = some response)
    {n : Int} (tells : response.Tells n) {post : Except Failure Int → Connection → Prop} :
    (DocumentStore.count collection filter : Action Connection Int).Leaves connection post ↔
      post (.ok n) (connection.after [.count index query]) := by
  change (count collection filter).Leaves connection post ↔ _
  unfold count
  rw [Action.leaves_bind, leaves_indexOf known, Action.resumes_ok, rendered, Action.leaves_bind,
    Action.leaves_ofExcept, Action.resumes_ok, Action.leaves_bind, leaves_ask_of_answer next tells.undisturbed,
    Action.resumes_ok, tells.told]
  rfl

theorem leaves_find_of_page (known : connection.indices.get? collection = some index) {selection : Selection}
    {query : Query} (rendered : renderQuery selection.filter = .ok query) {size : Int}
    (limited : selection.limit = some size) (next : connection.responses[0]? = some response)
    {documents : List Fields} (page : response.Page documents)
    {post : Except Failure (List Fields) → Connection → Prop} :
    (find collection selection).Leaves connection post ↔ post (.ok documents)
      (connection.after [.search index query selection.order size (sourceOf selection.names)]) := by
  obtain ⟨undisturbed, hits, listed, decoded⟩ := page
  unfold find
  rw [Action.leaves_bind, leaves_indexOf known, Action.resumes_ok, rendered, Action.leaves_bind,
    Action.leaves_ofExcept, Action.resumes_ok, Action.leaves_bind]
  unfold Connection.hits
  simp only [limited]
  rw [Action.leaves_bind, leaves_ask_of_answer next undisturbed, Action.resumes_ok, Action.leaves_ofExcept]
  change Action.Resumes _ _ (hitsOf response) _ ↔ _
  rw [listed, Action.resumes_ok, mapM_of_forall₂ decoded]
  rfl

private theorem sends_of_updateFor {id : Value} {fields : Fields} {sent : DocumentUpdate}
    (made : updateFor index id fields = .ok sent) : Sends index (id, fields) sent := by
  unfold updateFor idText at made
  split at made
  · cases made
  · cases made
    rfl

private theorem leaves_reportFailed {outcomes : List UpdateOutcome} {post : Except Failure Unit → Connection → Prop} :
    (reportFailed index outcomes).Leaves connection post ↔ post (.ok ()) connection := by
  unfold reportFailed
  split <;> rfl

/-- Many updates are sent in one request, unless one of the ids cannot be written. -/
theorem leaves_bulkUpdate (known : connection.indices.get? collection = some index) {updates : List (Value × Fields)}
    (some_ : updates ≠ []) :
    (bulkUpdate collection updates).Leaves connection fun outcome final =>
      (∃ failure, outcome = .error failure ∧ final = connection) ∨
        ∃ sent, List.Forall₂ (Sends index) updates sent ∧ final = connection.after [.bulk sent connection.refresh] ∧
          ∀ n, outcome = .ok n → ∃ response, connection.responses[0]? = some response ∧ response.error = none ∧
            response.changed = n := by
  have nonempty : updates.isEmpty = false := by simpa using some_
  simp only [bulkUpdate, nonempty, Bool.false_eq_true, ↓reduceIte]
  rw [Action.leaves_bind, leaves_indexOf known, Action.resumes_ok, Action.leaves_bind, Action.leaves_ofExcept]
  cases written : updates.mapM fun update => updateFor index update.1 update.2 with
  | error failure => exact .inl ⟨failure, rfl, rfl⟩
  | ok sent =>
    have sends : List.Forall₂ (Sends index) updates sent := (forall₂_of_mapM written).imp fun _ _ => sends_of_updateFor
    rw [Action.resumes_ok]
    refine Action.Leaves.mono ?_ fun outcome final ended => .inr ⟨sent, sends, ended⟩
    refine Action.leaves_bind.mpr ?_
    change Action.Resumes _ _ (.ok connection.refresh) connection
    rw [Action.resumes_ok, Action.leaves_bind, leaves_exchange]
    cases next : connection.responses[0]? with
    | none => exact ⟨rfl, nofun⟩
    | some response =>
      rw [Option.elim_some, Action.resumes_ok, Action.leaves_bind, Action.leaves_ofExcept]
      cases read : response.items.mapM updateOutcome with
      | error failure => exact ⟨rfl, nofun⟩
      | ok outcomes =>
        rw [Action.resumes_ok]
        cases disturbed : response.error with
        | some error => exact ⟨rfl, nofun⟩
        | none =>
          simp only
          rw [Action.leaves_bind, leaves_reportFailed]
          refine ⟨rfl, ?_⟩
          intro n counted
          cases counted
          exact ⟨response, rfl, disturbed, (count_modified read).symm⟩

end Connection

end Elastic

end MailSearch

import Mathlib.Algebra.GroupWithZero.Nat
import MailSearch.Proofs.BackfillRuns
import MailSearch.Proofs.WireExchanges

/-! What a run asks of the search server and what it sends there, whatever the server answers. Each request is
told by the responses before it: the greatest id by the first one, the place where a listing goes on by the page
before it, and what is written by the page just listed. -/

namespace MailSearch.Backfill.Wire

open Elastic Elastic.Connection

/-- Every document that the response lists has an id that is not nothing. -/
def Identified (response : Response) : Prop :=
  ∀ documents, response.Page documents → ∀ document ∈ documents, document.get? "id" ≠ some .null

/-- The query for messages without search fields up to the greatest id, and after the last one if there is one. -/
def waitingQuery (greatest : Value) (last : Option Value) : Query :=
  .combined [.negated (.present "search"),
    .range "id" { gt := last.map Query.wireValue, lte := some (Query.wireValue greatest) }] [] [] [] none

theorem renderQuery_eligible {cursor : Cursor} {greatest : Value} (fixed : cursor.greatest = some greatest) :
    renderQuery (some (eligible cursor)) = .ok (waitingQuery greatest cursor.last) := by
  simp only [renderQuery, eligible, fixed]
  rfl

def greatestRequest (index : String) : Request := .search index .matchAll (some .descending) 1 (.names ["id"])

def countRequest (index : String) (greatest : Value) : Request := .count index (waitingQuery greatest none)

def listRequest (settings : BackfillSettings) (index : String) (greatest : Value) (last : Option Value) : Request :=
  .search index (waitingQuery greatest last) (some .ascending) settings.batchSize (.names ["id", "envelope", "subject"])

/-- What is sent for a document: the search fields that its own envelope and subject give, for its own id. -/
def Writes (index : String) (document : Fields) (sent : DocumentUpdate) : Prop :=
  ∃ id, document.get? "id" = some id ∧
    sent =
      { index
        id := id.display
        fields := [("search", (Envelope.searchIndex ((document.get? "envelope").getD .null)
          ((document.get? "subject").getD .null)).toValue)] }

theorem updateFor_eq_ok {document : Fields} {update : Value × Fields} (made : updateFor document = .ok update) :
    document.get? "id" = some update.1 ∧
      update.2 = [("search", (Envelope.searchIndex ((document.get? "envelope").getD .null)
        ((document.get? "subject").getD .null)).toValue)] := by
  obtain ⟨fields, derived, made⟩ := Sorting.bind_eq_ok_iff.mp made
  obtain ⟨id, named, made⟩ := Sorting.bind_eq_ok_iff.mp made
  cases made
  unfold Envelope.searchIndex? at derived
  split at derived
  · cases derived
  · cases derived
    exact ⟨DocumentStore.idOf_eq_ok_iff.mp named, rfl⟩

private theorem writes_of_sends {index : String} {documents : List Fields} {updates : List (Value × Fields)}
    {sent : List DocumentUpdate} (derived : documents.mapM updateFor = .ok updates)
    (sends : List.Forall₂ (Sends index) updates sent) : List.Forall₂ (Writes index) documents sent := by
  have made := forall₂_of_mapM derived
  clear derived
  induction made generalizing sent with
  | nil =>
    cases sends
    exact .nil
  | cons first _ ih =>
    cases sends with
    | cons one others =>
      obtain ⟨named, fields⟩ := updateFor_eq_ok first
      refine .cons ⟨_, named, ?_⟩ (ih others)
      rw [one, fields]

theorem given?_eq_some {document : Fields} {id : Value} (named : document.get? "id" = some id)
    (given : document.get? "id" ≠ some .null) : id.given? = some id := by
  rw [named] at given
  cases id with
  | null => exact absurd rfl given
  | _ => rfl

/-- Where the updates for a page can be derived, each of its documents has an id that a listing can go on after. -/
theorem exists_id {response : Response} {documents : List Fields} {updates : List (Value × Fields)} {document : Fields}
    (identified : Identified response) (page : response.Page documents)
    (derived : documents.mapM updateFor = .ok updates) (member : document ∈ documents) :
    ∃ id, document.get? "id" = some id ∧ id.given? = some id := by
  have each : updateFor document ∈ updates.map Except.ok := by
    rw [← mapM_eq_ok_iff.mp derived]
    exact List.mem_map_of_mem member
  obtain ⟨update, -, made⟩ := List.mem_map.mp each
  have named := (updateFor_eq_ok made.symm).1
  exact ⟨update.1, named, given?_eq_some named (identified documents page document member)⟩

section Batch

variable {settings : BackfillSettings} {collection index : String} {greatest : Value} {cursor : Cursor}
  {connection : Connection}

/-- The cursor after a batch that changed so many documents and ended with an id. -/
def moved (cursor : Cursor) (changed : Nat) (id : Value) : Cursor :=
  { cursor with
    processed := cursor.processed + changed
    batches := cursor.batches + 1
    last := some id }

/-- How a batch may end, and the requests that it made. -/
inductive BatchEnd (settings : BackfillSettings) (index : String) (greatest : Value) (cursor : Cursor)
    (connection : Connection) : List Request → Except Failure (Option Cursor) → Prop where
  | listing {failure : Failure} :
      BatchEnd settings index greatest cursor connection [listRequest settings index greatest cursor.last]
        (.error failure)
  | exhausted {response : Response} (next : connection.responses[0]? = some response) (empty : response.Page []) :
      BatchEnd settings index greatest cursor connection [listRequest settings index greatest cursor.last] (.ok none)
  | writing {response : Response} {documents : List Fields} {sent : List DocumentUpdate} {final : Fields}
      {id : Value} {failure : Failure} (next : connection.responses[0]? = some response)
      (page : response.Page documents) (ends : documents.getLast? = some final) (named : final.get? "id" = some id)
      (writes : List.Forall₂ (Writes index) documents sent) :
      BatchEnd settings index greatest cursor connection
        [listRequest settings index greatest cursor.last, .bulk sent connection.refresh] (.error failure)
  | handled {response written : Response} {documents : List Fields} {sent : List DocumentUpdate} {final : Fields}
      {id : Value} (next : connection.responses[0]? = some response) (page : response.Page documents)
      (ends : documents.getLast? = some final) (named : final.get? "id" = some id)
      (writes : List.Forall₂ (Writes index) documents sent) (later : connection.responses[1]? = some written)
      (undisturbed : written.error = none) :
      BatchEnd settings index greatest cursor connection
        [listRequest settings index greatest cursor.last, .bulk sent connection.refresh]
        (.ok (some (moved cursor written.changed id)))

private theorem leaves_nextBatch (settings : BackfillSettings) (known : connection.indices.get? collection = some index)
    (fixed : cursor.greatest = some greatest) (identified : ∀ response ∈ connection.responses, Identified response) :
    (nextBatch settings collection cursor : Action Connection _).Leaves connection fun outcome final =>
      ∃ made, final = connection.after made ∧ BatchEnd settings index greatest cursor connection made outcome := by
  rw [nextBatch, Action.leaves_bind]
  apply (leaves_find known (renderQuery_eligible fixed) rfl).mono
  intro outcome middle reached
  obtain ⟨rfl, answered⟩ := reached
  cases outcome with
  | error failure => exact ⟨_, rfl, .listing⟩
  | ok documents =>
    obtain ⟨response, next, page⟩ := answered documents rfl
    rw [Action.resumes_ok]
    cases ends : documents.getLast? with
    | none =>
      cases List.getLast?_eq_none_iff.mp ends
      exact ⟨_, rfl, .exhausted next page⟩
    | some final =>
      simp only [Action.leaves_bind, Action.leaves_ofExcept]
      cases derived : documents.mapM updateFor with
      | error failure => exact ⟨_, rfl, .listing⟩
      | ok updates =>
        -- the page is not empty, so neither are its updates: the store would send nothing for none
        have some_ : updates ≠ [] := by
          rintro rfl
          cases forall₂_of_mapM derived
          cases ends
        obtain ⟨id, named, given⟩ :=
          exists_id (identified response (List.mem_of_getElem? next)) page derived (List.mem_of_getLast? ends)
        have held : (connection.after [listRequest settings index greatest cursor.last]).indices.get? collection =
          some index := known
        rw [Action.resumes_ok, Action.leaves_bind]
        apply (leaves_bulkUpdate held some_).mono
        intro outcome final' reached
        rcases reached with ⟨failure, rfl, rfl⟩ | ⟨sent, sends, rfl, answered⟩
        · exact ⟨_, rfl, .listing⟩
        have writes := writes_of_sends derived sends
        rw [after_after]
        cases outcome with
        | error failure => exact ⟨_, rfl, .writing next page ends named writes⟩
        | ok modified =>
          obtain ⟨written, later, undisturbed, rfl⟩ := answered modified rfl
          -- the id of the last document can be read, as its update was derived with it
          simp only [Action.resumes_ok, Action.leaves_bind, Action.leaves_ofExcept,
            DocumentStore.idOf_eq_ok_iff.mpr named, Action.leaves_pure, given]
          refine ⟨_, rfl, .handled next page ends named writes ?_ undisturbed⟩
          simpa [after] using later

end Batch

section Walk

variable {settings : BackfillSettings} {collection index : String} {refresh : Bool} {greatest : Value}
  {last : Option Value} {script : List Response} {made : List Request}

/-- The id that a listing goes on after: for the first one of a walk the given one, and for each later one the id of
the last document of the page before it. -/
def GoesOnAfter (last : Option Value) (script : List Response) : Nat → Option Value → Prop
  | 0, id => id = last
  | batch + 1, id => ∃ response documents final, script[2 * batch]? = some response ∧ response.Page documents ∧
      documents.getLast? = some final ∧ final.get? "id" = id ∧ id.isSome = true

/-- What a walk asks and sends, as the responses to it tell. Listings and writings take turns; a writing comes only
after a page that is not empty and that it answers document for document. -/
structure Dialogue (settings : BackfillSettings) (index : String) (refresh : Bool) (greatest : Value)
    (last : Option Value) (script : List Response) (made : List Request) : Prop where
  lists : ∀ batch request, made[2 * batch]? = some request →
    ∃ id, GoesOnAfter last script batch id ∧ request = listRequest settings index greatest id
  writes : ∀ batch request, made[2 * batch + 1]? = some request →
    ∃ response documents sent, script[2 * batch]? = some response ∧ response.Page documents ∧ documents ≠ [] ∧
      List.Forall₂ (Writes index) documents sent ∧ request = .bulk sent refresh
  undisturbed : ∀ n, n + 1 < made.length → ∃ response, script[n]? = some response ∧ response.error = none

/-- The number of documents that the responses to the first writings of a walk say were changed. -/
def changes (script : List Response) (rounds : Nat) : Nat :=
  ((List.range rounds).map fun batch => (script[2 * batch + 1]?.map Response.changed).getD 0).sum

/-- A walk came to its end after so many batches: the page after them is empty. -/
structure Finished (cursor reached : Cursor) (script : List Response) (made : List Request) (rounds : Nat) : Prop where
  greatest : reached.greatest = cursor.greatest
  total : reached.total = cursor.total
  batches : reached.batches = cursor.batches + rounds
  processed : reached.processed = cursor.processed + changes script rounds
  requests : made.length = 2 * rounds + 1
  nothing : ∃ response, script[2 * rounds]? = some response ∧ response.Page []

private theorem getElem?_drop_two (script : List Response) (n : Nat) : (script.drop 2)[n]? = script[n + 2]? := by
  rw [List.getElem?_drop, Nat.add_comm]

private theorem changes_succ {written : Response} (later : script[1]? = some written) (rounds : Nat) :
    changes script (rounds + 1) = written.changed + changes (script.drop 2) rounds := by
  unfold changes
  rw [List.range_succ_eq_map, List.map_cons, List.sum_cons, List.map_map, later]
  simp only [getElem?_drop_two]
  rfl

private theorem dialogue_nil : Dialogue settings index refresh greatest last script [] := by
  constructor <;> simp

private theorem dialogue_single :
    Dialogue settings index refresh greatest last script [listRequest settings index greatest last] := by
  constructor
  · intro batch request found
    cases batch with
    | zero =>
      cases found
      exact ⟨last, rfl, rfl⟩
    | succ batch => cases found
  · intro batch request found
    cases found
  · intro n inside
    simp at inside

private theorem Dialogue.prepend {response : Response} {documents : List Fields} {sent : List DocumentUpdate}
    {final : Fields} {id : Value} (next : script[0]? = some response) (page : response.Page documents)
    (ends : documents.getLast? = some final) (named : final.get? "id" = some id)
    (writes : List.Forall₂ (Writes index) documents sent)
    (later : made ≠ [] → ∃ written, script[1]? = some written ∧ written.error = none)
    (rest : Dialogue settings index refresh greatest (some id) (script.drop 2) made) :
    Dialogue settings index refresh greatest last script
      (listRequest settings index greatest last :: .bulk sent refresh :: made) := by
  constructor
  · intro batch request found
    cases batch with
    | zero =>
      cases found
      exact ⟨last, rfl, rfl⟩
    | succ batch =>
      obtain ⟨last, after, asks⟩ := rest.lists batch request found
      refine ⟨last, ?_, asks⟩
      cases batch with
      | zero =>
        cases after
        exact ⟨response, documents, final, next, page, ends, named, rfl⟩
      | succ batch =>
        obtain ⟨response, documents, final, listed, facts⟩ := after
        rw [getElem?_drop_two] at listed
        exact ⟨response, documents, final, listed, facts⟩
  · intro batch request found
    cases batch with
    | zero =>
      cases found
      have some_ : documents ≠ [] := by
        rintro rfl
        cases ends
      exact ⟨response, documents, sent, next, page, some_, writes, rfl⟩
    | succ batch =>
      obtain ⟨response, documents, sent, listed, facts⟩ := rest.writes batch request found
      rw [getElem?_drop_two] at listed
      exact ⟨response, documents, sent, listed, facts⟩
  · intro n inside
    match n with
    | 0 => exact ⟨response, next, page.undisturbed⟩
    | 1 =>
      apply later
      rintro rfl
      simp at inside
    | n + 2 =>
      simp only [List.length_cons] at inside
      obtain ⟨response, listed, undisturbed⟩ := rest.undisturbed n (by omega)
      rw [getElem?_drop_two] at listed
      exact ⟨response, listed, undisturbed⟩

private theorem Finished.prepend {cursor reached : Cursor} {written : Response} {id : Value} {rounds : Nat}
    {first second : Request} (later : script[1]? = some written)
    (rest : Finished (moved cursor written.changed id) reached (script.drop 2) made rounds) :
    Finished cursor reached script (first :: second :: made) (rounds + 1) := by
  obtain ⟨response, listed, empty⟩ := rest.nothing
  rw [getElem?_drop_two] at listed
  constructor
  · exact rest.greatest
  · exact rest.total
  · have batches : reached.batches = cursor.batches + 1 + rounds := rest.batches
    omega
  · have processed : reached.processed = cursor.processed + written.changed + changes (script.drop 2) rounds :=
      rest.processed
    rw [changes_succ later]
    omega
  · simp only [List.length_cons, rest.requests]
    omega
  · exact ⟨response, listed, empty⟩

variable {connection : Connection} {cursor : Cursor}

/-- The last batch of a walk failed: it went on from the requests made before it. -/
def Broken (settings : BackfillSettings) (collection : String) (connection : Connection) (made : List Request)
    (failure : Failure) : Prop :=
  ∃ earlier cursor, (nextBatch settings collection cursor (connection.after earlier)).outcome = .error failure ∧
    (nextBatch settings collection cursor (connection.after earlier)).state = connection.after made

/-- Each batch but the last takes two responses, so a walk with more batches than responses is not cut off. -/
theorem leaves_walk {bound : Nat} (known : connection.indices.get? collection = some index)
    (fixed : cursor.greatest = some greatest) (identified : ∀ response ∈ connection.responses, Identified response)
    (enough : connection.responses.length < bound) :
    (walk settings collection bound cursor : Action Connection _).Leaves connection fun outcome final =>
      ∃ made, final = connection.after made ∧
        Dialogue settings index connection.refresh greatest cursor.last connection.responses made ∧
        (∀ reached, outcome = .ok reached → ∃ rounds, Finished cursor reached connection.responses made rounds) ∧
        ∀ failure, outcome = .error failure → Broken settings collection connection made failure := by
  induction bound generalizing cursor connection with
  | zero => omega
  | succ bound ih =>
    have batch := leaves_nextBatch settings known fixed identified
    rcases ran : (nextBatch settings collection cursor : Action Connection _) connection with ⟨outcome, events, middle⟩
    rw [Action.leaves_of_run ran] at batch
    rw [walk, Action.leaves_bind, Action.leaves_of_run ran]
    obtain ⟨made, rfl, ended⟩ := batch
    have broken (failure : Failure) (failed : outcome = .error failure) :
        Broken settings collection connection made failure := by
      refine ⟨[], cursor, ?_, ?_⟩
      · rw [after_nil, ran]
        exact failed
      · rw [after_nil, ran]
    cases ended with
    | listing =>
      refine ⟨_, rfl, dialogue_single, by rintro _ ⟨⟩, ?_⟩
      rintro _ ⟨⟩
      exact broken _ rfl
    | exhausted next empty =>
      refine ⟨_, rfl, dialogue_single, ?_, by rintro _ ⟨⟩⟩
      rintro _ ⟨⟩
      exact ⟨0, rfl, rfl, rfl, rfl, rfl, _, next, empty⟩
    | writing next page ends named writes =>
      refine ⟨_, rfl, .prepend next page ends named writes (absurd rfl) dialogue_nil, by rintro _ ⟨⟩, ?_⟩
      rintro _ ⟨⟩
      exact broken _ rfl
    | handled next page ends named writes later undisturbed =>
      rw [Action.resumes_ok]
      simp only
      rw [Action.leaves_bind, leaves_report, Action.resumes_ok]
      -- the walk goes on with two responses less, and with its requests numbered anew
      have fewer := (List.getElem?_eq_some_iff.mp later).1
      refine (ih ?_ ?_ ?_ ?_).mono ?_
      · exact known
      · exact fixed
      · intro response member
        exact identified response (List.mem_of_mem_drop member)
      · simp only [after, List.length_drop, List.length_cons, List.length_nil]
        omega
      intro outcome final reached
      obtain ⟨made, rfl, dialogue, finished, broken⟩ := reached
      refine ⟨_, after_after _ _, ?_, ?_, ?_⟩
      · exact .prepend next page ends named writes (fun _ => ⟨_, later, undisturbed⟩) dialogue
      · intro reached same
        obtain ⟨rounds, finished⟩ := finished reached same
        exact ⟨rounds + 1, .prepend later finished⟩
      · intro failure same
        obtain ⟨earlier, last, failed, left⟩ := broken failure same
        rw [after_after] at failed left
        rw [after_after] at left
        exact ⟨_, last, failed, left⟩

end Walk

section Run

variable {settings : BackfillSettings} {collection index : String} {connection : Connection}

/-- The id of the first document that is answered with is the greatest. -/
def Snapshot (script : List Response) (greatest : Value) : Prop :=
  ∃ response first others, script[0]? = some response ∧ response.Page (first :: others) ∧
    first.get? "id" = some greatest

/-- How the scan may end, and the requests that it made. -/
inductive ScanEnd (index : String) (script : List Response) : List Request → Except Failure (Cursor × Bool) → Prop where
  | opening {failure : Failure} : ScanEnd index script [greatestRequest index] (.error failure)
  | empty {response : Response} (next : script[0]? = some response) (nothing : response.Page []) :
      ScanEnd index script [greatestRequest index] (.ok ({}, false))
  | counting {greatest : Value} {failure : Failure} (snapshot : Snapshot script greatest) :
      ScanEnd index script [greatestRequest index, countRequest index greatest] (.error failure)
  | counted {greatest : Value} {response : Response} {total : Int} (snapshot : Snapshot script greatest)
      (later : script[1]? = some response) (tells : response.Tells total) :
      ScanEnd index script [greatestRequest index, countRequest index greatest]
        (.ok ({ greatest := some greatest, total }, total != 0))

private theorem leaves_maxId (known : connection.indices.get? collection = some index)
    (identified : ∀ response ∈ connection.responses, Identified response) :
    (DocumentStore.maxId collection : Action Connection _).Leaves connection fun outcome final =>
      final = connection.after [greatestRequest index] ∧
        (outcome = .ok none → ∃ response, connection.responses[0]? = some response ∧ response.Page []) ∧
        ∀ greatest, outcome = .ok (some greatest) → Snapshot connection.responses greatest := by
  change (DocumentStore.greatestId find collection).Leaves connection _
  have rendered : renderQuery none = .ok .matchAll := rfl
  rw [DocumentStore.greatestId, Action.leaves_bind]
  apply (leaves_find known rendered rfl).mono
  intro outcome final reached
  obtain ⟨rfl, answered⟩ := reached
  cases outcome with
  | error failure => exact ⟨rfl, by rintro ⟨⟩, by rintro _ ⟨⟩⟩
  | ok documents =>
    obtain ⟨response, next, page⟩ := answered documents rfl
    rw [Action.resumes_ok]
    cases documents with
    | nil => exact ⟨rfl, fun _ => ⟨response, next, page⟩, by rintro _ ⟨⟩⟩
    | cons first others =>
      have given := identified response (List.mem_of_getElem? next) _ page first List.mem_cons_self
      simp only [Action.leaves_bind, Action.leaves_ofExcept]
      cases named : DocumentStore.idOf first with
      | error failure => exact ⟨rfl, by rintro ⟨⟩, by rintro _ ⟨⟩⟩
      | ok id =>
        rw [DocumentStore.idOf_eq_ok_iff] at named
        rw [Action.resumes_ok, Action.leaves_pure, given?_eq_some named given]
        refine ⟨rfl, by rintro ⟨⟩, ?_⟩
        rintro _ ⟨⟩
        exact ⟨response, first, others, next, page, named⟩

private theorem leaves_scan (known : connection.indices.get? collection = some index)
    (enabled : settings.enabled = true) (identified : ∀ response ∈ connection.responses, Identified response) :
    (scan settings collection : Action Connection _).Leaves connection fun outcome final =>
      ∃ made, final = connection.after made ∧ ScanEnd index connection.responses made outcome := by
  simp only [scan, enabled, ↓reduceIte, Action.leaves_bind, Action.leaves_emit, Action.resumes_ok]
  apply (leaves_maxId known identified).mono
  intro outcome middle reached
  obtain ⟨rfl, nothing, tells⟩ := reached
  rcases outcome with failure | _ | greatest
  · exact ⟨_, rfl, .opening⟩
  · obtain ⟨response, next, empty⟩ := nothing rfl
    exact ⟨_, rfl, .empty next empty⟩
  · have snapshot := tells greatest rfl
    have held : (connection.after [greatestRequest index]).indices.get? collection = some index := known
    simp only [Action.resumes_ok, Action.leaves_bind]
    apply (leaves_count held (renderQuery_eligible rfl)).mono
    intro outcome final reached
    obtain ⟨rfl, answered⟩ := reached
    rw [after_after]
    cases outcome with
    | error failure => exact ⟨_, rfl, .counting snapshot⟩
    | ok total =>
      obtain ⟨response, later, told⟩ := answered total rfl
      have later : connection.responses[1]? = some response := by simpa [after] using later
      have ended : ScanEnd index connection.responses _ _ := .counted snapshot later told
      rw [Action.resumes_ok]
      by_cases none : total = 0
      · subst none
        exact ⟨_, rfl, ended⟩
      · have some_ : (total != 0) = true := by simpa using none
        rw [some_] at ended
        simp only [none, ↓reduceIte, Action.leaves_bind, Action.leaves_emit, Action.resumes_ok, Action.leaves_pure]
        exact ⟨_, rfl, ended⟩

/-- What a run asks and sends. It asks for the greatest id; with what that gives it counts, and with the same it
walks through what is waiting. -/
structure Conversation (settings : BackfillSettings) (index : String) (refresh : Bool) (script : List Response)
    (made : List Request) : Prop where
  opens : made[0]? = some (greatestRequest index)
  goesOn : 1 < made.length → ∃ greatest, Snapshot script greatest ∧ made[1]? = some (countRequest index greatest) ∧
    Dialogue settings index refresh greatest none (script.drop 2) (made.drop 2)

/-- How a run ends that does not fail: where there are no documents or none waiting it asks no more, and else it goes
on to an empty page. -/
inductive Completed (script : List Response) (made : List Request) : Result → Prop where
  | empty {response : Response} (requests : made.length = 1) (next : script[0]? = some response)
      (nothing : response.Page []) : Completed script made ⟨{}, true⟩
  | settled {greatest : Value} {response : Response} (requests : made.length = 2) (snapshot : Snapshot script greatest)
      (later : script[1]? = some response) (tells : response.Tells 0) :
      Completed script made ⟨{ greatest := some greatest }, true⟩
  | finished {greatest : Value} {response : Response} {total : Int} {reached : Cursor} {rounds : Nat}
      (snapshot : Snapshot script greatest) (later : script[1]? = some response) (tells : response.Tells total)
      (some_ : total ≠ 0)
      (done : Finished { greatest := some greatest, total } reached (script.drop 2) (made.drop 2) rounds) :
      Completed script made ⟨reached, false⟩

private theorem leaves_rest {greatest : Value} {response : Response} {total : Int}
    (known : connection.indices.get? collection = some index)
    (identified : ∀ response ∈ connection.responses, Identified response)
    (snapshot : Snapshot connection.responses greatest) (later : connection.responses[1]? = some response)
    (tells : response.Tells total) (some_ : total ≠ 0) :
    (process settings collection { greatest := some greatest, total }).Leaves
      (connection.after [greatestRequest index, countRequest index greatest]) fun outcome final =>
        ∃ made, final = connection.after made ∧
          Conversation settings index connection.refresh connection.responses made ∧
          (∀ reached, outcome = .ok reached → Completed connection.responses made ⟨reached, false⟩) ∧
          ∀ failure, outcome = .error failure → Broken settings collection connection made failure := by
  rw [leaves_process]
  have left : ∀ response ∈ connection.responses.drop 2, Identified response := by
    intro response member
    exact identified response (List.mem_of_mem_drop member)
  refine Action.Leaves.mono (leaves_walk known rfl left (Nat.lt_succ_self _)) ?_
  intro outcome final reached
  obtain ⟨more, rfl, dialogue, finished, broken⟩ := reached
  refine ⟨_, after_after _ _, ⟨rfl, ?_⟩, ?_, ?_⟩
  · intro _
    exact ⟨greatest, snapshot, rfl, dialogue⟩
  · intro reached same
    obtain ⟨rounds, finished⟩ := finished reached same
    exact .finished snapshot later tells some_ finished
  · intro failure same
    obtain ⟨earlier, last, failed, left⟩ := broken failure same
    rw [after_after] at failed left
    rw [after_after] at left
    exact ⟨_, last, failed, left⟩

private theorem leaves_run (known : connection.indices.get? collection = some index) (enabled : settings.enabled = true)
    (identified : ∀ response ∈ connection.responses, Identified response) :
    (run settings collection : Action Connection Run).Leaves connection fun outcome final => ∃ ended made,
      outcome = .ok ended ∧ final = connection.after made ∧
        Conversation settings index connection.refresh connection.responses made ∧
        (∀ result, ended.outcome = .ok result → Completed connection.responses made result) ∧
        ∀ failure, ended.outcome = .error failure →
          (scan settings collection connection).outcome = .error failure ∨
            Broken settings collection connection made failure := by
  have scanned := leaves_scan known enabled identified
  rcases ran : (scan settings collection : Action Connection _) connection with ⟨outcome, events, middle⟩
  rw [Action.leaves_of_run ran] at scanned
  rw [run, Action.leaves_bind, Action.leaves_attempt, Action.leaves_of_run ran, Action.resumes_ok]
  obtain ⟨made, rfl, ended⟩ := scanned
  cases ended with
  | opening =>
    refine ⟨_, _, rfl, rfl, ⟨rfl, ?_⟩, by rintro _ ⟨⟩, ?_⟩
    · intro more
      simp at more
    · rintro _ ⟨⟩
      exact .inl rfl
  | empty next nothing =>
    refine ⟨_, _, rfl, rfl, ⟨rfl, ?_⟩, ?_, by rintro _ ⟨⟩⟩
    · intro more
      simp at more
    · rintro _ ⟨⟩
      exact .empty rfl next nothing
  | counting snapshot =>
    refine ⟨_, _, rfl, rfl, ⟨rfl, ?_⟩, by rintro _ ⟨⟩, ?_⟩
    · exact fun _ => ⟨_, snapshot, rfl, dialogue_nil⟩
    · rintro _ ⟨⟩
      exact .inl rfl
  | @counted greatest response total snapshot later tells =>
    by_cases none : total = 0
    · subst none
      refine ⟨_, _, rfl, rfl, ⟨rfl, ?_⟩, ?_, by rintro _ ⟨⟩⟩
      · exact fun _ => ⟨greatest, snapshot, rfl, dialogue_nil⟩
      · rintro _ ⟨⟩
        exact .settled rfl snapshot later tells
    · have some_ : (total != 0) = true := by simpa using none
      rw [some_]
      simp only [Action.leaves_bind, Action.leaves_attempt]
      apply (leaves_rest known identified snapshot later tells none).mono
      intro outcome final reached
      obtain ⟨made, rfl, talk, completed, broken⟩ := reached
      cases outcome with
      | error failure =>
        refine ⟨_, _, rfl, rfl, talk, by rintro _ ⟨⟩, ?_⟩
        rintro _ ⟨⟩
        exact .inr (broken failure rfl)
      | ok reached =>
        refine ⟨_, _, rfl, rfl, talk, ?_, by rintro _ ⟨⟩⟩
        rintro _ ⟨⟩
        exact completed reached rfl

end Run

section LateMessage

def hit (id : String) (source : Fields) : Value := .object [("_id", .text id), ("_source", .object source)]

def listing (hits : List Value) : Response := { value := .object [("hits", .object [("hits", .list hits)])] }

end LateMessage

end MailSearch.Backfill.Wire

import MailSearch.Proofs.BackfillRequests
import MailSearch.Proofs.BackfillWrites
import MailSearch.Proofs.IndexLeaves
import MailSearch.Proofs.ScopeResolution

/-! What a further run finds of messages that have been given search fields. Kept in memory such a message waits no
more. The search server takes it to wait still where there was nothing to index, as search fields without a leaf do
not count as present there; so a run over the server handles such a message each time. -/

namespace MailSearch.Backfill

open Elastic

/-- A message without search fields, and what search fields are derived from for it. -/
structure Migrated where
  message : Fields
  envelope : Value
  subject : Value
  unindexed : message.get? searchField = none

namespace Migrated

def stored (migrated : Migrated) : Value := (Envelope.searchIndex migrated.envelope migrated.subject).toValue

/-- The message with the search fields. -/
def document (migrated : Migrated) : Fields := migrated.message.overlay [(searchField, migrated.stored)]

def Indexable (migrated : Migrated) : Prop := Envelope.Indexable migrated.envelope migrated.subject

private theorem get?_document (migrated : Migrated) : migrated.document.get? searchField = some migrated.stored :=
  Table.get?_put_self _ _ _

end Migrated

section Waiting

variable {document : Fields} {stored : Value} {leaf : Value → Bool} {cursor : Cursor}

private theorem at?_searchField (held : document.get? searchField = some stored) :
    (Value.object document).at? searchField = some stored :=
  (Value.at?_object (by decide)).trans held

private theorem holds?_absent (held : document.get? searchField = some stored) :
    (Predicate.presence searchField false).holds? (.object document) = some false := by
  simp [at?_searchField held]

private theorem holds?_eligible (held : document.get? searchField = some stored) :
    (eligible cursor).holds? (.object document) = some false := by
  simp only [eligible, Predicate.holds?, Predicate.allHold?, at?_searchField held]
  rfl

/-- What a listing by a cursor asks of the ids. -/
def idRange (cursor : Cursor) : Predicate := .range "id" { gt := cursor.last, lte := cursor.greatest }

private theorem matched_absent {query : Query}
    (rendered : Query.ofPredicate? (.presence searchField false) = some query) :
    Query.matched leaf query.toValue = !leaf (Predicate.clause (.presence searchField true)) :=
  Predicate.matched_toValue _ rendered

private theorem matched_eligible {query : Query} (rendered : Query.ofPredicate? (eligible cursor) = some query) :
    Query.matched leaf query.toValue =
      (!leaf (Predicate.clause (.presence searchField true)) && leaf (Predicate.clause (idRange cursor))) := by
  rw [Predicate.matched_toValue _ rendered]
  simp [eligible, Predicate.asks, Predicate.allAsk, idRange]

end Waiting

section Runs

/-- The id of the first document of a listing. -/
def firstId : List Fields → Except Failure (Option Value)
  | [] => .ok none
  | document :: _ => (DocumentStore.idOf document).map Value.given?

variable {σ : Type} [DocumentStore σ] {settings : BackfillSettings} {collection : String} {state middle last : σ}
  {greatest : Value} {total : Int}

/-- How a run ends that finds nothing to do, as the greatest id was told. -/
def idle : Except Failure (Option Value) → Run
  | .ok greatest => ⟨.done, .ok ⟨{ greatest }, true⟩⟩
  | .error failure => ⟨.scanning, .error failure⟩

private theorem leaves_greatestId {σ : Type} {find : String → Selection → Action σ (List Fields)} {state : σ}
    {post : Except Failure (Option Value) → σ → Prop} :
    (DocumentStore.greatestId find collection).Leaves state post ↔
      (find collection greatestSelection).Leaves state fun outcome final => post (outcome.bind firstId) final := by
  rw [DocumentStore.greatestId, Action.leaves_bind]
  change Action.Resumes _ _ (find collection greatestSelection state).outcome _ ↔
    post ((find collection greatestSelection state).outcome.bind firstId) _
  cases (find collection greatestSelection state).outcome with
  | error failure => rfl
  | ok documents =>
    cases documents with
    | nil => rfl
    | cons first rest =>
      rw [Action.resumes_ok, Action.leaves_bind, Action.leaves_ofExcept, Except.bind, firstId]
      cases DocumentStore.idOf first <;> rfl

private theorem leaves_run_of_unopened (enabled : settings.enabled = true) {answer : Except Failure (Option Value)}
    (opens : (DocumentStore.maxId collection : Action σ (Option Value)).Leaves state fun outcome left =>
      outcome = answer ∧ left = middle) (none_ : ∀ greatest, answer ≠ .ok (some greatest)) :
    (run settings collection : Action σ Run).Leaves state fun outcome final =>
      outcome = .ok (idle answer) ∧ final = middle := by
  rw [run, Action.leaves_bind, Action.leaves_attempt]
  simp only [scan, enabled, ↓reduceIte, Action.leaves_bind, Action.leaves_emit, Action.resumes_ok]
  apply opens.mono
  intro outcome left reached
  obtain ⟨rfl, rfl⟩ := reached
  rcases outcome with failure | _ | greatest
  · exact ⟨rfl, rfl⟩
  · exact ⟨rfl, rfl⟩
  · exact absurd rfl (none_ greatest)

/-- A run that is told the greatest id and a number of messages is idle just when the number is zero. -/
theorem run_idle_iff (enabled : settings.enabled = true)
    (opens : (DocumentStore.maxId collection : Action σ (Option Value)).Leaves state fun outcome left =>
      outcome = .ok (some greatest) ∧ left = middle)
    (counts : (DocumentStore.count collection (some (eligible { greatest := some greatest })) : Action σ Int).Leaves
      middle fun outcome left => outcome = .ok total ∧ left = last) :
    ((run settings collection state).outcome = .ok (idle (.ok (some greatest))) ∧
      (run settings collection state).state = last) ↔ total = 0 := by
  change (run settings collection : Action σ Run).Leaves state fun outcome final =>
    (outcome = .ok (idle (.ok (some greatest))) ∧ final = last) ↔ total = 0
  rw [run, Action.leaves_bind, Action.leaves_attempt]
  simp only [scan, enabled, ↓reduceIte, Action.leaves_bind, Action.leaves_emit, Action.resumes_ok]
  apply opens.mono
  intro _ left reached
  obtain ⟨rfl, rfl⟩ := reached
  simp only [Action.resumes_ok, Action.leaves_bind]
  apply counts.mono
  intro _ final reached
  obtain ⟨rfl, rfl⟩ := reached
  rw [Action.resumes_ok]
  by_cases none_ : total = 0
  · subst none_
    exact iff_of_true ⟨rfl, rfl⟩ rfl
  · simp only [none_, ↓reduceIte, Action.leaves_bind, Action.leaves_emit, Action.resumes_ok, Action.leaves_pure,
      Action.leaves_attempt, iff_false]
    apply (Action.leaves_trivial _ _).mono
    intro outcome final _ same
    cases outcome with
    | error failure => cases same.1
    | ok reached => cases same.1

end Runs

section InMemory

open PlannedStore

variable {settings : BackfillSettings} {name : String} {memory : Memory} {store : PlannedStore}

private theorem leaves_maxId_of_quiet (quiet : Quiet memory store) (faultless : store.faults = [])
    {post : Except Failure (Option Value) → PlannedStore → Prop} :
    (DocumentStore.maxId name : Action PlannedStore (Option Value)).Leaves store post ↔
      post ((memory.find name greatestSelection).bind firstId) ((store.counting .maxId).counting .find) := by
  have clear : store.nextFault? .maxId = none := by simp [nextFault?, faultAt?, faultless]
  have nothing : store.due .maxId = [] := by simp [due, deliveriesAt, quiet.still]
  have calm : (store.counting .maxId).faults = [] := faultless
  change (called .maxId (DocumentStore.greatestId PlannedStore.find name)).Leaves store post ↔ _
  rw [leaves_called_of_clear clear, nothing, leaves_greatestId]
  refine (quiet.counting .maxId).leaves_called.trans ?_
  rw [answer_of_faultless calm]
  cases (memory.find name greatestSelection).bind firstId <;> rfl

private theorem exists_greatest_of_filed {kind : IdKind} (quiet : Quiet memory store) (faultless : store.faults = [])
    (filed : (memory.collection name).Filed kind) :
    ∃ greatest, (DocumentStore.maxId name store).outcome = .ok greatest := by
  have answers : (DocumentStore.maxId name : Action PlannedStore (Option Value)).Leaves store fun outcome _ =>
      ∃ greatest, outcome = .ok greatest := by
    apply (leaves_maxId_of_quiet quiet faultless).mpr
    rcases Memory.find_greatest filed rfl with ⟨-, listed⟩ | ⟨document, id, listed, named, -⟩
    · rw [listed]
      exact ⟨none, rfl⟩
    · rw [listed, Except.bind, firstId, DocumentStore.idOf_eq_ok_iff.mpr named]
      exact ⟨id.given?, rfl⟩
  exact answers

private theorem count_of_indexed (indexed : ∀ entry ∈ memory.collection name, entry.unindexed = false)
    (cursor : Cursor) : memory.count name (some (eligible cursor)) = .ok 0 := by
  have passed : (memory.collection name).countP (fun entry => (eligible cursor).chooses entry.document) = 0 := by
    rw [List.countP_eq_zero]
    intro entry member chosen
    have absent := unindexed_of_chooses chosen
    rw [indexed entry member] at absent
    cases absent
  rw [Memory.count_eligible, passed]
  rfl

/-- Where all messages in memory have search fields, a run finds nothing to do and changes nothing. -/
theorem leaves_run_of_indexed (quiet : Quiet memory store) (faultless : store.faults = [])
    (enabled : settings.enabled = true) (indexed : ∀ entry ∈ memory.collection name, entry.unindexed = false) :
    (run settings name : Action PlannedStore Run).Leaves store fun outcome final =>
      outcome = .ok (idle (DocumentStore.maxId name store).outcome) ∧ final.memory = memory := by
  let listed := (store.counting .maxId).counting .find
  have still : Quiet memory listed := (quiet.counting .maxId).counting .find
  have clear : listed.faults = [] := faultless
  have moved : (DocumentStore.maxId name : Action PlannedStore (Option Value)).Leaves store fun _ left =>
      left = listed := (leaves_maxId_of_quiet quiet faultless).mpr rfl
  have opens : (DocumentStore.maxId name : Action PlannedStore (Option Value)).Leaves store fun outcome left =>
      outcome = (DocumentStore.maxId name store).outcome ∧ left = listed := ⟨rfl, moved⟩
  generalize (DocumentStore.maxId name store).outcome = answer at opens ⊢
  match answer with
  | .ok (some greatest) =>
    have counts : (DocumentStore.count name (some (eligible { greatest := some greatest })) :
        Action PlannedStore Int).Leaves listed fun outcome left => outcome = .ok 0 ∧ left = listed.counting .count := by
      apply still.leaves_called.mpr
      rw [answer_of_faultless clear, count_of_indexed indexed]
      exact ⟨rfl, rfl⟩
    obtain ⟨returned, left⟩ := (run_idle_iff enabled opens counts).mpr rfl
    refine ⟨returned, ?_⟩
    rw [left]
    exact still.held
  | .ok none | .error failure =>
    apply (leaves_run_of_unopened enabled opens nofun).mono
    intro outcome final reached
    obtain ⟨rfl, rfl⟩ := reached
    exact ⟨rfl, still.held⟩

end InMemory

section OverServer

open Connection Wire

variable {settings : BackfillSettings} {collection index : String} {connection : Connection} {greatest : Value}
  {leaf : Fields → Value → Bool} {documents : List Fields}

private theorem leaves_maxId_of_snapshot (known : connection.indices.get? collection = some index)
    (snapshot : Snapshot connection.responses greatest) (given : greatest ≠ .null) :
    (DocumentStore.maxId collection : Action Connection (Option Value)).Leaves connection fun outcome final =>
      outcome = .ok (some greatest) ∧ final = connection.after [greatestRequest index] := by
  obtain ⟨response, first, others, next, page, named⟩ := snapshot
  have rendered : renderQuery none = .ok .matchAll := rfl
  have some_ : first.get? "id" ≠ some .null := by
    rw [named, ne_eq, Option.some.injEq]
    exact given
  change (DocumentStore.greatestId find collection).Leaves connection _
  rw [leaves_greatestId, leaves_find_of_page known rendered rfl next page, Except.bind, firstId,
    DocumentStore.idOf_eq_ok_iff.mpr named, Except.map, given?_eq_some named some_]
  exact ⟨rfl, rfl⟩

/-- The server opens a run as one that holds these documents: it lists the one with the greatest id, and then counts
those that match what is waiting. -/
structure Serves (leaf : Fields → Value → Bool) (documents : List Fields) (script : List Response) (greatest : Value) :
    Prop where
  snapshot : Snapshot script greatest
  given : greatest ≠ .null
  counted : ∃ response, script[1]? = some response ∧ response.Tells
    (documents.countP fun document => Query.matched (leaf document) (waitingQuery greatest none).toValue)

/-- A run over the server finds nothing to do, and asks no more than that, where no document matches. -/
theorem run_idle_iff_unmatched (known : connection.indices.get? collection = some index)
    (enabled : settings.enabled = true) (serves : Serves leaf documents connection.responses greatest) :
    ((run settings collection connection).outcome = .ok (idle (.ok (some greatest))) ∧
      (run settings collection connection).state =
        connection.after [greatestRequest index, countRequest index greatest]) ↔
      ∀ document ∈ documents, Query.matched (leaf document) (waitingQuery greatest none).toValue = false := by
  obtain ⟨response, later, tells⟩ := serves.counted
  have next : (connection.after [greatestRequest index]).responses[0]? = some response := by
    simpa [after] using later
  have rendered : renderQuery (some (eligible { greatest := some greatest })) = .ok (waitingQuery greatest none) :=
    renderQuery_eligible rfl
  have known' : (connection.after [greatestRequest index]).indices.get? collection = some index := known
  have counts : (DocumentStore.count collection (some (eligible { greatest := some greatest })) :
      Action Connection Int).Leaves (connection.after [greatestRequest index]) fun outcome final =>
        outcome = .ok (documents.countP fun document =>
          Query.matched (leaf document) (waitingQuery greatest none).toValue : Int) ∧
        final = connection.after [greatestRequest index, countRequest index greatest] := by
    rw [leaves_count_of_tells known' rendered next tells]
    exact ⟨rfl, after_after _ _⟩
  rw [run_idle_iff enabled (leaves_maxId_of_snapshot known serves.snapshot serves.given) counts, Int.natCast_eq_zero,
    List.countP_eq_zero]
  simp only [Bool.not_eq_true]

end OverServer

section Eligibility

open Connection Wire

/-- The document has search fields with a leaf. -/
def Searched (document : Fields) : Prop :=
  ∃ entries, document.get? searchField = some (.object entries) ∧ (Value.object entries).holdsLeaf = true

/-- When a message that has been given search fields counts as waiting: in memory never, and on the search server
where there was nothing to index. -/
structure Migrated.Eligibility (migrated : Migrated) : Prop where
  held : (Predicate.presence searchField false).holds? (.object migrated.document) = some false
  passed : ∀ cursor, (eligible cursor).holds? (.object migrated.document) = some false
  missing : ∀ leaf, ReadsObjects leaf migrated.document →
    ∃ query, renderQuery (some (.presence searchField false)) = .ok query ∧
      (Query.matched leaf query.toValue = true ↔ ¬migrated.Indexable)
  waiting : ∀ leaf cursor, ReadsObjects leaf migrated.document →
    ∃ query, renderQuery (some (eligible cursor)) = .ok query ∧
      (Query.matched leaf query.toValue = true ↔
        ¬migrated.Indexable ∧ leaf (Predicate.clause (idRange cursor)) = true)

variable {document : Fields} {migrated : Migrated} {leaf : Value → Bool}

private theorem leaf_present {entries : Fields} (reads : ReadsObjects leaf document)
    (held : document.get? searchField = some (.object entries)) :
    leaf (Predicate.clause (.presence searchField true)) = (Value.object entries).holdsLeaf :=
  reads searchField entries (at?_searchField held)

private theorem present_iff_indexable (reads : ReadsObjects leaf migrated.document) :
    leaf (Predicate.clause (.presence searchField true)) = true ↔ migrated.Indexable := by
  rw [leaf_present reads migrated.get?_document]
  exact Envelope.holdsLeaf_searchIndex_iff

private theorem eligibility (migrated : Migrated) : migrated.Eligibility := by
  constructor
  · exact holds?_absent migrated.get?_document
  · intro cursor
    exact holds?_eligible migrated.get?_document
  · intro leaf reads
    refine ⟨_, rfl, ?_⟩
    rw [matched_absent rfl, Bool.not_eq_true', ← Bool.not_eq_true, present_iff_indexable reads]
  · intro leaf cursor reads
    refine ⟨_, rfl, ?_⟩
    rw [matched_eligible rfl, Bool.and_eq_true, Bool.not_eq_true', ← Bool.not_eq_true, present_iff_indexable reads]

/-- What a run comes to in memory where all messages have search fields. It is idle, unless the greatest id cannot be
told; that can be told where the ids are of one kind. -/
structure Rests (settings : BackfillSettings) (collection : String) (memory : Memory) : Prop where
  returns : (run settings collection ({ memory } : PlannedStore)).outcome =
    .ok (idle (DocumentStore.maxId collection ({ memory } : PlannedStore)).outcome)
  keeps : (run settings collection ({ memory } : PlannedStore)).state.memory = memory
  told : ∀ kind, (memory.collection collection).Filed kind →
    ∃ greatest, (DocumentStore.maxId collection ({ memory } : PlannedStore)).outcome = .ok greatest

private theorem rests_of_indexed {settings : BackfillSettings} {collection : String} {memory : Memory}
    (enabled : settings.enabled = true) (indexed : ∀ entry ∈ memory.collection collection, entry.unindexed = false) :
    Rests settings collection memory := by
  have quiet : PlannedStore.Quiet memory { memory } := ⟨rfl, rfl⟩
  obtain ⟨returns, keeps⟩ := leaves_run_of_indexed quiet rfl enabled indexed
  exact ⟨returns, keeps, fun _ filed => exists_greatest_of_filed quiet rfl filed⟩

/-- A message that has been given search fields waits no more in memory, so that a further run finds nothing to do
there. To a server that tells by its leaves whether an object is present, it waits no more just where its envelope or
subject gave something to index: a further run over the server asks for the greatest id and the number waiting and no
more, just when that is so of every such message up to the greatest. -/
theorem migrated_messages_leave {settings : BackfillSettings} {collection index : String} {memory : Memory}
    {connection : Connection} {leaf : Fields → Value → Bool} {greatest : Value} {held : List Migrated}
    {others : List Fields} (enabled : settings.enabled = true)
    (kept : (memory.collection collection).documents = held.map Migrated.document ++ others)
    (searched : ∀ document ∈ others, Searched document)
    (known : connection.indices.get? collection = some index)
    (reads : ∀ document ∈ held.map Migrated.document ++ others, ReadsObjects (leaf document) document)
    (serves : Serves leaf (held.map Migrated.document ++ others) connection.responses greatest) :
    (∀ migrated : Migrated, migrated.Eligibility) ∧ Rests settings collection memory ∧
      (((run settings collection connection).outcome = .ok (idle (.ok (some greatest))) ∧
        (run settings collection connection).state =
          connection.after [greatestRequest index, countRequest index greatest]) ↔
        ∀ migrated ∈ held, migrated.Indexable ∨
          leaf migrated.document (Predicate.clause (idRange { greatest := some greatest })) = false) := by
  refine ⟨eligibility, rests_of_indexed enabled ?_, ?_⟩
  · intro entry member
    have inside : entry.document ∈ held.map Migrated.document ++ others := by
      rw [← kept]
      exact List.mem_map_of_mem member
    have some_ : ∃ stored, entry.document.get? searchField = some stored := by
      rcases List.mem_append.mp inside with given | other
      · obtain ⟨migrated, -, same⟩ := List.mem_map.mp given
        exact ⟨_, same ▸ migrated.get?_document⟩
      · obtain ⟨entries, stored, -⟩ := searched _ other
        exact ⟨_, stored⟩
    obtain ⟨stored, held⟩ := some_
    simp [Entry.unindexed, held]
  · have rendered : Query.ofPredicate? (eligible { greatest := some greatest }) = some (waitingQuery greatest none) :=
      rfl
    rw [run_idle_iff_unmatched known enabled serves, List.forall_mem_append, List.forall_mem_map]
    refine (and_iff_left ?_).trans (forall₂_congr ?_)
    · intro document other
      obtain ⟨entries, stored, some_⟩ := searched document other
      have present := leaf_present (reads document (List.mem_append_right _ other)) stored
      rw [matched_eligible rendered, present, some_]
      rfl
    · intro migrated member
      have present := present_iff_indexable (reads _ (List.mem_append_left _ (List.mem_map_of_mem member)))
      rw [matched_eligible rendered, ← present, Bool.and_eq_false_iff, Bool.not_eq_false']

end Eligibility

section TwoMessages

open Connection Wire

/-- The server's answers to leaf clauses on presence and on ranges. -/
def serverLeaf (document : Fields) : Value → Bool
  | .object [("exists", .object [("field", .text path)])] => ((Value.object document).at? path).any Value.holdsLeaf
  | .object [("range", .object [(path, .object bounds)])] =>
    ((Value.object document).candidatesAt path).any ({
      gte := Table.get? bounds "gte"
      lte := Table.get? bounds "lte"
      gt := Table.get? bounds "gt"
      lt := Table.get? bounds "lt" } : Bounds).admits
  | _ => false

private theorem readsObjects_serverLeaf (document : Fields) : ReadsObjects (serverLeaf document) document := by
  intro path entries held
  change ((Value.object document).at? path).any Value.holdsLeaf = _
  rw [held, Option.any_some]

/-- A message with a subject and no envelope. -/
def subjectOnly : Migrated :=
  { message := [("id", .int 1), ("subject", .text "News")]
    envelope := .null
    subject := .text "News"
    unindexed := rfl }

/-- A message whose search fields were there before. -/
def searchedBefore : Fields := [("id", .int 2), ("search", .object [("subject", .text "kept as is")])]

def settledMemory : Memory :=
  (Memory.insert {} Collections.messages [.object subjectOnly.document, .object searchedBefore]).2

def serverOf (responses : List Response) : Connection := { Connection.opened [] false with responses }

def settledServer : Connection :=
  serverOf [listing [hit "2" [("id", .int 2)]], { value := .object [("count", .int 0)] }]

theorem migrated_messages_leave_with_a_subject :
    (settledMemory.collection Collections.messages).documents = [subjectOnly.document, searchedBefore] ∧
    Serves serverLeaf [subjectOnly.document, searchedBefore] settledServer.responses (.int 2) ∧
    subjectOnly.Indexable ∧
    (∃ greatest, (run { enabled := true } Collections.messages ({ memory := settledMemory } : PlannedStore)).outcome =
      .ok (idle (.ok greatest))) ∧
    (run { enabled := true } Collections.messages settledServer).outcome = .ok (idle (.ok (some (.int 2)))) ∧
    (run { enabled := true } Collections.messages settledServer).state.requests.length = 2 := by
  have enabled : ({ enabled := true } : BackfillSettings).enabled = true := rfl
  have known : settledServer.indices.get? Collections.messages = some "messages" := rfl
  have kept : (settledMemory.collection Collections.messages).documents =
      [subjectOnly].map Migrated.document ++ [searchedBefore] := rfl
  have searched : ∀ document ∈ [searchedBefore], Searched document := by
    intro document member
    rw [List.mem_singleton.mp member]
    exact ⟨_, rfl, rfl⟩
  have serves : Serves serverLeaf ([subjectOnly].map Migrated.document ++ [searchedBefore]) settledServer.responses
      (.int 2) := by
    have none_ : ([subjectOnly].map Migrated.document ++ [searchedBefore]).countP (fun document =>
        Query.matched (serverLeaf document) (waitingQuery (.int 2) none).toValue) = 0 := by
      decide +kernel
    refine ⟨⟨_, [("id", .int 2)], [], rfl, ⟨rfl, _, rfl, .cons rfl .nil⟩, rfl⟩, nofun, _, rfl, rfl, ?_⟩
    rw [none_]
    rfl
  have indexable : subjectOnly.Indexable := .inr (by decide +kernel)
  have filed : (settledMemory.collection Collections.messages).Filed .number := by
    apply Memory.filed_insert (Memory.filed_empty _ _)
    intro document member
    simp only [List.mem_cons, List.not_mem_nil, or_false] at member
    rcases member with rfl | rfl
    · exact ⟨.number 1, rfl⟩
    · exact ⟨.number 2, rfl⟩
  obtain ⟨-, rests, idles⟩ := migrated_messages_leave enabled kept searched known
    (fun document _ => readsObjects_serverLeaf document) serves
  obtain ⟨returned, left⟩ := idles.mpr fun migrated member => .inl (List.mem_singleton.mp member ▸ indexable)
  obtain ⟨greatest, told⟩ := rests.told .number filed
  refine ⟨kept, serves, indexable, ⟨greatest, ?_⟩, returned, ?_⟩
  · rw [rests.returns, told]
  · rw [left]
    rfl

end TwoMessages

section EmptySearchFields

open Connection Wire

/-- A message with neither an envelope nor a subject. -/
def blank : Migrated := { message := [("id", .text "a")], envelope := .null, subject := .null, unindexed := rfl }

/-- The server where the message has been given search fields: it tells that one message waits, and is then asked to
list it and to write the same once more. -/
def unsettledServer : Connection :=
  serverOf [listing [hit "a" []], { value := .object [("count", .int 1)] },
    listing [hit "a" []],
    { items := [.list [.bool true, .object [("update", .object [("result", .text "noop")])]]] }, listing []]

theorem blank_message_waits_again :
    blank.document = [("id", .text "a"), ("search", .object [])] ∧
    (Predicate.presence searchField false).holds? (.object blank.document) = some false ∧
    ReadsObjects (serverLeaf blank.document) blank.document ∧
    Query.matched (serverLeaf blank.document) (Query.negated (.present searchField)).toValue = true ∧
    Serves serverLeaf [blank.document] unsettledServer.responses (.text "a") ∧
    (run { enabled := true } Collections.messages unsettledServer).outcome =
      .ok ⟨.done, .ok ⟨{ greatest := some (.text "a"), total := 1, last := some (.text "a"), batches := 1 }, false⟩⟩ ∧
    (run { enabled := true } Collections.messages unsettledServer).state.requests.length = 5 := by
  have serves : Serves serverLeaf [blank.document] unsettledServer.responses (.text "a") := by
    have one : [blank.document].countP (fun document =>
        Query.matched (serverLeaf document) (waitingQuery (.text "a") none).toValue) = 1 := by
      decide +kernel
    refine ⟨⟨_, [("id", .text "a")], [], rfl, ⟨rfl, _, rfl, .cons rfl .nil⟩, rfl⟩, nofun, _, rfl, rfl, ?_⟩
    rw [one]
    rfl
  exact ⟨rfl, rfl, readsObjects_serverLeaf _, by decide +kernel, serves, rfl, rfl⟩

end EmptySearchFields

end MailSearch.Backfill

import MailSearch.Proofs.BackfillRequests
import MailSearch.Proofs.EntryHistory
import MailSearch.Proofs.FiledDocuments
import MailSearch.Proofs.RecordedRequests

/-! What a run writes, and over what. Each write of a run follows the listing that it was made from, and only the
deliveries planned for that moment come in between. A message is given the search fields of its own envelope and
subject, unless it is not the message that was listed under its id: then it gets those of the one that was. -/

namespace MailSearch

namespace PlannedStore

private theorem leaves_find {store : PlannedStore} {name : String} {selection : Selection} :
    (find name selection).Leaves store fun outcome final => ∀ page, outcome = .ok page →
      store.memory.find name selection = .ok page ∧
        final = (deliver (store.due .find) (store.counting .find)).state := by
  unfold find
  cases planned : store.nextFault? .find with
  | some fault =>
    rw [leaves_called_of_fault planned]
    nofun
  | none =>
    have held : (store.counting .find).memory = store.memory := rfl
    rw [leaves_called_of_clear planned, leaves_reading, held]
    cases store.memory.find name selection with
    | error failure => nofun
    | ok listed =>
      rw [Action.resumes_ok, Action.leaves_bind]
      rcases ran : deliver (store.due .find) (store.counting .find) with ⟨outcome, events, final⟩
      rw [Action.leaves_of_run ran]
      cases outcome with
      | error failure => nofun
      | ok _ =>
        rintro _ ⟨⟩
        exact ⟨rfl, rfl⟩

end PlannedStore

namespace Backfill

open PlannedStore

variable {settings : BackfillSettings} {name : String} {cursor : Cursor} {listing written : PlannedStore}
  {page : List Fields} {updates : List (Value × Fields)} {α β : Type}

section Entries

theorem unindexed_of_chooses {entry : Entry} (chooses : (eligible cursor).chooses entry.document = true) :
    entry.unindexed = true := by
  have holds := Predicate.holds_all_iff.mp (Predicate.chooses_iff.mp chooses)
  have absent := Predicate.holds_presence_iff.mp (holds _ List.mem_cons_self)
  have search : (Value.object entry.document).at? searchField = entry.document.get? searchField :=
    Value.at?_object (by decide)
  rw [search] at absent
  simpa [Entry.unindexed] using absent

/-- Each document of a batch is that of an entry without search fields, cut to what these are derived from. -/
theorem mem_batch (listed : listing.memory.find name (batchSelection settings cursor) = .ok page) {document : Fields}
    (member : document ∈ page) : ∃ source ∈ listing.memory.collection name, source.unindexed = true ∧
      document = source.document.projected (some sourceNames) := by
  have selects : Documents.selected (some (eligible cursor)) (listing.memory.collection name).documents =
      .ok ((listing.memory.collection name).documents.filter (eligible cursor).chooses) :=
    Documents.selected_of_settled fun _ _ => settled_eligible cursor _
  obtain ⟨kept, chosen, rfl⟩ := Memory.mem_find selects listed member
  obtain ⟨inside, chooses⟩ := List.mem_filter.mp chosen
  obtain ⟨source, filed, rfl⟩ := List.mem_map.mp inside
  exact ⟨source, filed, unindexed_of_chooses chooses, rfl⟩

/-- The search fields that a batch gives to each id that it lists. -/
theorem exists_values (derived : page.mapM updateFor = .ok updates) :
    ∃ values : List (Value × Value), updates = values.map (fun (id, value) => (id, [(searchField, value)])) ∧
      ∀ id value, (id, value) ∈ values → ∃ document ∈ page, document.get? "id" = some id ∧
        value = Entry.index ⟨id, document⟩ := by
  have made := forall₂_of_mapM derived
  clear derived
  induction made with
  | nil => exact ⟨[], rfl, nofun⟩
  | @cons document update _ _ first _ ih =>
    obtain ⟨named, fields⟩ := Wire.updateFor_eq_ok first
    obtain ⟨values, rfl, others⟩ := ih
    refine ⟨(update.1, Entry.index ⟨update.1, document⟩) :: values, ?_, ?_⟩
    · rw [List.map_cons, ← Prod.eta update, fields]
      rfl
    · intro id value member
      rcases List.mem_cons.mp member with same | later
      · cases same
        exact ⟨document, List.mem_cons_self, named, rfl⟩
      · obtain ⟨other, listed, given⟩ := others id value later
        exact ⟨other, List.mem_cons_of_mem _ listed, given⟩

/-- What a write makes of an entry, as against when its batch was listed. -/
inductive Rewritten (name : String) (listing : PlannedStore) (entry : Entry) : Entry → Prop where
  | kept : Rewritten name listing entry entry
  /-- The entry was listed, without search fields, and gets its own. -/
  | own (listed : entry ∈ listing.memory.collection name) (unindexed : entry.unindexed = true) :
      Rewritten name listing entry ⟨entry.key, entry.document.put searchField entry.index⟩
  /-- Another document was listed under the id of the entry; this one was delivered since, or it stood under an id that
  is not its own. -/
  | foreign {source : Entry} {id : Value} (listed : source ∈ listing.memory.collection name)
      (unindexed : source.unindexed = true) (named : source.document.get? "id" = some id)
      (addressed : entry.key.agrees id = true)
      (elsewhere : Brings (listing.due .find) name entry.document ∨
        entry ∈ listing.memory.collection name ∧ entry ≠ source) :
      Rewritten name listing entry ⟨entry.key, entry.document.put searchField source.index⟩

private theorem index_projected (source : Entry) (id : Value) :
    Entry.index ⟨id, source.document.projected (some sourceNames)⟩ = source.index := by
  have envelope : (source.document.projected (some sourceNames)).get? "envelope" = source.document.get? "envelope" :=
    Table.get?_keep.trans (if_pos (by decide))
  have subject : (source.document.projected (some sourceNames)).get? "subject" = source.document.get? "subject" :=
    Table.get?_keep.trans (if_pos (by decide))
  rw [Entry.index, envelope, subject, Entry.index]

/-- The write of a batch, over what came to be in the store since the batch was listed. -/
theorem rewritten_of_batch (listed : listing.memory.find name (batchSelection settings cursor) = .ok page)
    (derived : page.mapM updateFor = .ok updates)
    (between : written = (deliver (listing.due .find) (listing.counting .find)).state) :
    List.Forall₂ (Rewritten name listing) (written.memory.collection name)
      (Memory.updateAll (written.memory.collection name) updates).2 := by
  obtain ⟨values, rfl, given⟩ := exists_values derived
  have stood : ∀ entry ∈ written.memory.collection name,
      entry ∈ listing.memory.collection name ∨ Brings (listing.due .find) name entry.document := by
    rw [between]
    exact leaves_deliver_entries
  have sets : List.Forall₂ (fun entry entry' => entry ∈ written.memory.collection name ∧
      Collection.Sets searchField values entry entry') (written.memory.collection name) _ :=
    (List.forall₂_and_left _ _).mpr ⟨fun _ => id, Memory.sets_updateAll values⟩
  apply sets.imp
  rintro entry _ ⟨member, set⟩
  cases set with
  | kept => exact .kept
  | @set id value inside addressed =>
    obtain ⟨document, listed', named, rfl⟩ := given id value inside
    obtain ⟨source, filed, unindexed, rfl⟩ := mem_batch listed listed'
    rw [Fields.get?_id_projected] at named
    rw [index_projected]
    rcases stood entry member with before | brought
    · by_cases same : entry = source
      · subst same
        exact .own before unindexed
      · exact .foreign filed unindexed named addressed (.inr ⟨before, same⟩)
    · exact .foreign filed unindexed named addressed (.inl brought)

end Entries

section Traces

/-- The write was made from that listing: of what it found, and with nothing but the deliveries due in between. -/
structure Batch (settings : BackfillSettings) (name : String) (cursor : Cursor) (listing : PlannedStore)
    (page : List Fields) (updates : List (Value × Fields)) (written : PlannedStore) : Prop where
  listed : listing.memory.find name (batchSelection settings cursor) = .ok page
  derived : page.mapM updateFor = .ok updates
  between : written = (deliver (listing.due .find) (listing.counting .find)).state

/-- Each write comes right after the listing that it was made from. -/
def Traced (settings : BackfillSettings) (name : String) (asked : List (Asked PlannedStore)) : Prop :=
  ∀ n collection updates written, asked[n]? = some ⟨.bulkUpdate collection updates, written⟩ →
    collection = name ∧ ∃ m cursor listing page, n = m + 1 ∧
      asked[m]? = some ⟨.find name (batchSelection settings cursor), listing⟩ ∧
      Batch settings name cursor listing page updates written

/-- The action asks nothing, or writes as a run writes. -/
def Traces (settings : BackfillSettings) (name : String) (action : Action (Recording PlannedStore) α) : Prop :=
  ∀ recording, action.Leaves recording fun _ final =>
    ∃ more, final.asked = recording.asked ++ more ∧ Traced settings name more

private theorem Traced.append {asked more : List (Asked PlannedStore)} (traced : Traced settings name asked)
    (later : Traced settings name more) : Traced settings name (asked ++ more) := by
  intro n collection updates written found
  by_cases early : n < asked.length
  · rw [List.getElem?_append_left early] at found
    obtain ⟨same, m, cursor, listing, page, rfl, listed, batch⟩ := traced n collection updates written found
    refine ⟨same, m, cursor, listing, page, rfl, ?_, batch⟩
    rw [List.getElem?_append_left (by omega)]
    exact listed
  · rw [List.getElem?_append_right (by omega)] at found
    obtain ⟨same, m, cursor, listing, page, next, listed, batch⟩ := later _ collection updates written found
    refine ⟨same, asked.length + m, cursor, listing, page, by omega, ?_, batch⟩
    rw [List.getElem?_append_right (by omega), Nat.add_sub_cancel_left]
    exact listed

private theorem traces_ofExcept (outcome : Except Failure α) : Traces settings name (Action.ofExcept outcome) := by
  intro recording
  exact ⟨[], (List.append_nil _).symm, nofun⟩

private theorem traces_pure (result : α) : Traces settings name (pure result) := traces_ofExcept (.ok result)

private theorem traces_emit (severity : Severity) (event : String) (values : Fields) :
    Traces settings name (Action.emit severity event values) := by
  intro recording
  exact ⟨[], (List.append_nil _).symm, nofun⟩

private theorem traced_reading {request : StoreRequest} {store : PlannedStore}
    (reads : ∀ collection updates, request ≠ .bulkUpdate collection updates) :
    Traced settings name [⟨request, store⟩] := by
  intro n collection updates written found
  cases n with
  | zero =>
    cases found
    exact absurd rfl (reads collection updates)
  | succ n => cases found

private theorem Batch.traced (batch : Batch settings name cursor listing page updates written) :
    Traced settings name
      [⟨.find name (batchSelection settings cursor), listing⟩, ⟨.bulkUpdate name updates, written⟩] := by
  intro n collection updates written found
  match n with
  | 0 => cases found
  | 1 =>
    cases found
    exact ⟨rfl, 0, cursor, listing, page, rfl, rfl, batch⟩
  | n + 2 => cases found

private theorem traces_record {request : StoreRequest} {action : Action PlannedStore α}
    (reads : ∀ collection updates, request ≠ .bulkUpdate collection updates) :
    Traces settings name (Recording.record request action) := by
  intro recording
  exact ⟨[⟨request, recording.store⟩], rfl, traced_reading reads⟩

private theorem Traces.bind {first : Action (Recording PlannedStore) α} {second : α → Action (Recording PlannedStore) β}
    (traces : Traces settings name first) (rest : ∀ result, Traces settings name (second result)) :
    Traces settings name (first >>= second) := by
  intro recording
  rw [Action.leaves_bind]
  apply (traces recording).mono
  intro outcome middle reached
  obtain ⟨asked, left, traced⟩ := reached
  cases outcome with
  | error failure => exact ⟨asked, left, traced⟩
  | ok result =>
    rw [Action.resumes_ok]
    apply (rest result middle).mono
    intro _ final reached
    obtain ⟨more, left', later⟩ := reached
    refine ⟨asked ++ more, ?_, traced.append later⟩
    rw [left', left, List.append_assoc]

private theorem Traces.attempt {action : Action (Recording PlannedStore) α} (traces : Traces settings name action) :
    Traces settings name (Action.attempt action) := by
  intro recording
  exact traces recording

private theorem traces_nextBatch (settings : BackfillSettings) (name : String) (cursor : Cursor) :
    Traces settings name (nextBatch settings name cursor) := by
  intro recording
  have unwritten : Traced settings name [⟨.find name (batchSelection settings cursor), recording.store⟩] :=
    traced_reading nofun
  rw [nextBatch, Action.leaves_bind]
  refine Recording.leaves_record.mpr (Action.Leaves.mono leaves_find ?_)
  intro outcome written found
  cases outcome with
  | error failure => exact ⟨_, rfl, unwritten⟩
  | ok page =>
    obtain ⟨listed, between⟩ := found page rfl
    rw [Action.resumes_ok]
    cases page.getLast? with
    | none => exact ⟨_, rfl, unwritten⟩
    | some last =>
      simp only [Action.leaves_bind, Action.leaves_ofExcept]
      cases derived : page.mapM updateFor with
      | error failure => exact ⟨_, rfl, unwritten⟩
      | ok updates =>
        have batch : Batch settings name cursor recording.store page updates written := ⟨listed, derived, between⟩
        rw [Action.resumes_ok, Action.leaves_bind]
        refine Recording.leaves_record.mpr (Action.Leaves.mono (Action.leaves_trivial _ _) ?_)
        intro outcome final _
        cases outcome with
        | error failure => exact ⟨_, List.append_assoc _ _ _, batch.traced⟩
        | ok modified =>
          rw [Action.resumes_ok, Action.leaves_bind, Action.leaves_ofExcept]
          cases DocumentStore.idOf last <;> exact ⟨_, List.append_assoc _ _ _, batch.traced⟩

private theorem traces_walk (settings : BackfillSettings) (name : String) (bound : Nat) (cursor : Cursor) :
    Traces settings name (walk settings name bound cursor) := by
  have traces_report (cursor : Cursor) : Traces settings name (report settings cursor) := by
    unfold report
    split
    · exact traces_emit _ _ _
    · exact traces_pure ()
  induction bound generalizing cursor with
  | zero => exact traces_ofExcept _
  | succ bound ih =>
    apply (traces_nextBatch settings name cursor).bind
    intro next
    cases next with
    | none => exact traces_pure cursor
    | some next => exact (traces_report next).bind fun _ => ih next

private theorem traces_process (settings : BackfillSettings) (name : String) (cursor : Cursor) :
    Traces settings name (process settings name cursor) := by
  have traces_bound : Traces settings name
      (fun state => ⟨.ok (DocumentStore.pageBound state), [], state⟩ : Action (Recording PlannedStore) Nat) := by
    intro recording
    exact ⟨[], (List.append_nil _).symm, nofun⟩
  apply traces_bound.bind
  intro bound
  apply (traces_walk settings name bound cursor).bind
  intro reached
  exact (traces_emit _ _ _).bind fun _ => traces_pure reached

private theorem traces_scan (settings : BackfillSettings) (name : String) :
    Traces settings name (scan settings name) := by
  have traces_skip (reason : String) (details : Fields) (cursor : Cursor) :
      Traces settings name (skip reason details cursor) :=
    (traces_emit _ _ _).bind fun _ => traces_pure _
  have traces_maxId : Traces settings name (DocumentStore.maxId name) := traces_record nofun
  have traces_count (filter : Option Predicate) : Traces settings name (DocumentStore.count name filter) :=
    traces_record nofun
  unfold scan
  split
  · apply (traces_emit _ _ _).bind
    intro _
    apply traces_maxId.bind
    intro greatest
    cases greatest with
    | none => exact traces_skip _ _ _
    | some greatest =>
      apply (traces_count (some (eligible { greatest := some greatest }))).bind
      intro total
      simp only
      split
      · exact traces_skip _ _ _
      · exact (traces_emit _ _ _).bind fun _ => traces_pure _
  · exact (traces_emit _ _ _).bind fun _ => traces_pure _

private theorem traces_run (settings : BackfillSettings) (name : String) :
    Traces settings name (run settings name) := by
  apply (traces_scan settings name).attempt.bind
  intro scanned
  match scanned with
  | .error failure => exact traces_pure _
  | .ok (cursor, false) => exact traces_pure _
  | .ok (cursor, true) =>
    apply (traces_process settings name cursor).attempt.bind
    intro processed
    cases processed with
    | error failure => exact traces_pure _
    | ok reached => exact traces_pure _

end Traces

/-- Each write of a run comes right after the listing of its batch, sets what that listing gave, and puts nothing into
other collections; it goes over the documents that the deliveries due then have left. -/
theorem writes_follow_listings (settings : BackfillSettings) (name : String) (store : PlannedStore) :
    Recording.forget (run settings name (.of store)) = run settings name store ∧
    ∀ n collection updates written,
      (run settings name (Recording.of store)).state.asked[n]? = some ⟨.bulkUpdate collection updates, written⟩ →
      collection = name ∧ ∃ m cursor listing page, n = m + 1 ∧
        (run settings name (Recording.of store)).state.asked[m]? =
          some ⟨.find name (batchSelection settings cursor), listing⟩ ∧
        Batch settings name cursor listing page updates written ∧
        (∀ other, other ≠ name →
          (written.memory.bulkUpdate name updates).2.collection other = written.memory.collection other) ∧
        List.Forall₂ (Rewritten name listing) (written.memory.collection name)
          ((written.memory.bulkUpdate name updates).2.collection name) := by
  refine ⟨Recording.mirrors_run settings name (.of store), ?_⟩
  obtain ⟨more, left, traced⟩ := traces_run settings name (Recording.of store)
  have whole : (run settings name (Recording.of store)).state.asked = more := left
  rw [whole]
  intro n collection updates written found
  obtain ⟨same, m, cursor, listing, page, next, listed, batch⟩ := traced n collection updates written found
  refine ⟨same, m, cursor, listing, page, next, listed, batch, ?_, ?_⟩
  · intro other different
    exact Memory.collection_withCollection.trans (if_neg different)
  · have here : (written.memory.bulkUpdate name updates).2.collection name =
        (Memory.updateAll (written.memory.collection name) updates).2 :=
      Memory.collection_withCollection.trans (if_pos rfl)
    rw [here]
    exact rewritten_of_batch batch.listed batch.derived batch.between

section Redelivery

def stale : Fields := [("id", .int 1), ("subject", .text "old")]

def keptFields : Value := .object [("subject", .text "kept")]

def redelivered : Fields := [("id", .int 1), ("subject", .text "new"), ("search", keptFields)]

def staleFields : Value := .object [("subject", .text "old"), ("subjectWords", .list [.text "old"])]

/-- A message without search fields, which is delivered anew and with some right after a run has listed it. -/
def redelivery : PlannedStore :=
  { memory := (({} : Memory).insert Collections.messages [.object stale]).2
    deliveries := [⟨.find, 2, Collections.messages, [.object redelivered]⟩] }

/-- The redelivery, once it has been counted, listed and delivered. -/
def awaiting : PlannedStore :=
  { redelivery with
    memory := (redelivery.memory.insert Collections.messages [.object redelivered]).2
    calls := [.maxId, .find, .count, .find] }

private theorem asked_bulkUpdate_of_redelivery :
    (run { enabled := true } Collections.messages (Recording.of redelivery)).state.asked[3]? =
      some ⟨.bulkUpdate Collections.messages [(.int 1, [("search", staleFields)])], awaiting⟩ := by
  with_unfolding_all rfl

theorem writes_follow_listings_of_a_redelivery :
    ∃ m cursor listing page, 3 = m + 1 ∧
      (run { enabled := true } Collections.messages (Recording.of redelivery)).state.asked[m]? =
        some ⟨.find Collections.messages (batchSelection { enabled := true } cursor), listing⟩ ∧
      Batch { enabled := true } Collections.messages cursor listing page
        [(.int 1, [("search", staleFields)])] awaiting := by
  obtain ⟨-, writes⟩ := writes_follow_listings { enabled := true } Collections.messages redelivery
  obtain ⟨-, m, cursor, listing, page, next, listed, batch, -⟩ := writes _ _ _ _ asked_bulkUpdate_of_redelivery
  exact ⟨m, cursor, listing, page, next, listed, batch⟩

/-- The search fields that are there at the moment of the write are lost, and those written are not the ones of what
the message holds then. -/
theorem run_overwrites_a_redelivery :
    awaiting.memory.get Collections.messages (.int 1) = .ok (some redelivered) ∧
    redelivered.get? searchField = some keptFields ∧
    (run { enabled := true } Collections.messages (Recording.of redelivery)).state.asked[3]? =
      some ⟨.bulkUpdate Collections.messages [(.int 1, [("search", staleFields)])], awaiting⟩ ∧
    (run { enabled := true } Collections.messages redelivery).state.memory.get Collections.messages (.int 1) =
      .ok (some (redelivered.put searchField staleFields)) ∧
    staleFields ≠ keptFields ∧ staleFields ≠ Entry.index ⟨.int 1, redelivered⟩ := by
  refine ⟨rfl, rfl, asked_bulkUpdate_of_redelivery, ?_, ?_, ?_⟩
  · with_unfolding_all rfl
  · simp [staleFields, keptFields]
  · intro same
    have derived : Entry.index ⟨.int 1, redelivered⟩ =
        .object [("subject", .text "new"), ("subjectWords", .list [.text "new"])] := by
      with_unfolding_all rfl
    rw [derived] at same
    simp [staleFields] at same

end Redelivery

end Backfill

end MailSearch

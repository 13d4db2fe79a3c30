import MailSearch.Proofs.BackfillCalls

/-! What one batch comes to. It fails as one of its calls is planned to, with no document changed; or it finds
nothing eligible; or it adds search fields to just the page at its cursor, and the cursor moves past it. -/

namespace MailSearch.Backfill

open PlannedStore

variable {kind : IdKind} {name : String} {store final : PlannedStore} {settings : BackfillSettings}
  {cursor : Cursor} {entry : Entry}

theorem idOf_projected (filed : entry.Filed kind) :
    DocumentStore.idOf (Fields.projected (some sourceNames) entry.document) = .ok entry.key := by
  rw [DocumentStore.idOf_eq_ok_iff, Fields.get?_id_projected]
  exact filed.id

private theorem updateFor_projected (filed : entry.Filed kind) (writable : entry.Writable) :
    updateFor (Fields.projected (some sourceNames) entry.document) =
      .ok (entry.key, [(searchField, entry.index)]) := by
  have kept (field : String) (member : field ∈ "id" :: sourceNames) :
      (Fields.projected (some sourceNames) entry.document).get? field = entry.document.get? field := by
    simp only [Fields.projected, Table.get?_keep, member, ↓reduceIte]
  have readable : Envelope.hasOverlongEntry ((entry.document.get? "envelope").getD .null) = false := writable
  simp only [updateFor, kept "envelope" (by decide), kept "subject" (by decide), Envelope.searchIndex?, readable,
    Bool.false_eq_true, ↓reduceIte, bind, Except.bind, idOf_projected filed]
  rfl

theorem mapM_updateFor {page : List Entry} (each : ∀ entry ∈ page, entry.Filed kind ∧ entry.Writable) :
    (page.map fun entry => Fields.projected (some sourceNames) entry.document).mapM updateFor =
      .ok (page.map fun entry => (entry.key, [(searchField, entry.index)])) := by
  rw [mapM_eq_ok_iff, List.map_map, List.map_map]
  refine List.map_congr_left fun entry member => ?_
  obtain ⟨filed, writable⟩ := each entry member
  exact updateFor_projected filed writable

/-- The cursor after a page that ends with an entry. -/
def Cursor.past (cursor : Cursor) (page : List Entry) (final : Entry) : Cursor :=
  { cursor with
    processed := cursor.processed + page.length
    batches := cursor.batches + 1
    last := some final.key }

/-- A batch that ran: search fields were added to just the documents listed at its cursor. -/
structure Handled (settings : BackfillSettings) (name : String) (cursor : Cursor) (store final : PlannedStore)
    (arrived : Collection) (listed : List Entry) (last : Entry) : Prop where
  lists : page settings cursor (store.memory.collection name) = listed
  ends : listed.getLast? = some last
  moves : Advances name store final [.find, .bulkUpdate] arrived [] (listed.map Entry.key)

/-- How a batch may end. -/
inductive BatchEnd (settings : BackfillSettings) (name : String) (cursor : Cursor) (store : PlannedStore) :
    Except Failure (Option Cursor) → PlannedStore → Prop where
  | failed {failure : Failure} {final : PlannedStore} {made : List StoreCall} {arrived : Collection}
      {missed : List PlannedDelivery} (failed : final.Failed failure) (calls : [.find] <+: made)
      (moves : Advances name store final made arrived missed []) :
      BatchEnd settings name cursor store (.error failure) final
  | exhausted {final : PlannedStore} {arrived : Collection}
      (empty : page settings cursor (store.memory.collection name) = [])
      (moves : Advances name store final [.find] arrived [] []) : BatchEnd settings name cursor store (.ok none) final
  | handled {final : PlannedStore} {arrived : Collection} {listed : List Entry} {last : Entry}
      (handled : Handled settings name cursor store final arrived listed last) :
      BatchEnd settings name cursor store (.ok (some (cursor.past listed last))) final

theorem leaves_nextBatch (sound : Sound kind name store) (bounded : cursor.Bounded kind)
    (positive : 1 ≤ settings.batchSize) :
    (nextBatch settings name cursor : Action PlannedStore _).Leaves store (BatchEnd settings name cursor store) := by
  have filed := sound.filed.append_left
  let listed := page settings cursor (store.memory.collection name)
  have facts (entry : Entry) (member : entry ∈ listed) := mem_page filed bounded member
  rw [nextBatch, Action.leaves_bind]
  refine (leaves_reading_call sound (find_page filed positive rfl)).mono ?_
  intro outcome middle reached
  cases reached with
  | failed failed planned moves => exact .failed failed List.prefix_rfl moves
  | answered moves =>
    rw [Action.resumes_ok, List.getLast?_map]
    cases ends : listed.getLast? with
    | none =>
      simp only [listed] at ends
      simp only [Option.map_none]
      exact .exhausted (List.getLast?_eq_none_iff.mp ends) moves
    | some last =>
      have there (entry : Entry) (member : entry ∈ listed) :
          entry ∈ middle.memory.collection name ∧ entry.unindexed = true := by
        rw [moves.held]
        exact ⟨List.mem_append_left _ (facts entry member).1, (facts entry member).2.1⟩
      have each : ∀ entry ∈ listed, entry.Filed kind ∧ entry.Writable := fun entry member =>
        ⟨filed.each entry (facts entry member).1,
          sound.writable entry (List.mem_append_left _ (facts entry member).1)⟩
      have derived := mapM_updateFor each
      have id := idOf_projected (each last (List.mem_of_getLast? ends)).1
      have named := (each last (List.mem_of_getLast? ends)).1.named
      simp only [listed] at ends derived
      simp only [Option.map_some, Action.leaves_bind, Action.leaves_ofExcept, derived, Action.resumes_ok]
      refine (leaves_bulkUpdate (moves.sound sound) there (nodup_page filed bounded)).mono ?_
      intro outcome final reached
      cases reached with
      | failed failed planned moves' => exact .failed failed ⟨_, rfl⟩ (moves.trans sound moves')
      | answered moves' =>
        simp only [Action.resumes_ok, Action.leaves_bind, Action.leaves_ofExcept, id, Action.leaves_pure,
          named.given?_eq]
        exact .handled ⟨rfl, ends, moves.trans sound moves'⟩

end MailSearch.Backfill

import MailSearch.Collections
import MailSearch.Proofs.StockedCollections
import MailSearch.Proofs.UndisturbedBatches

/-! Runs while documents are delivered. Whatever arrives after whichever calls, and whichever calls fail, the
greatest id that a run goes by is the one that was there when it looked; nothing above it is changed, and
nothing but search fields is added. A run that comes to its end has handled all that was there at its start
without search fields, and of what arrived later just what one of its listings met. Each document has to be filed
under the id that it holds, or a run sets the fields of one on another. -/

namespace MailSearch.Backfill

open PlannedStore

variable {kind : IdKind} {name : String} {store : PlannedStore} {deliveries : List PlannedDelivery}
  {settings : BackfillSettings}

/-- What a run did to the documents that were there at its start and to those that arrived. -/
structure RunAmongDeliveries (settings : BackfillSettings) (name : String) (start final : PlannedStore) (result : Run)
    (arrived : Collection) (missed : List PlannedDelivery) (done : List Value) : Prop where
  /-- What was to be delivered has arrived, is still to come, or was to follow a call that did not answer. -/
  delivered : (arrived ++ final.incoming ++ entriesOf missed).Perm start.incoming
  unanswered : ∀ delivery ∈ missed, final.Unanswered delivery
  /-- Each document ends as it was inserted, or as that with its own search fields added. -/
  contents : final.memory.collection name = (start.memory.collection name ++ arrived : Collection).indexing done
  others : ∀ other, other ≠ name → final.memory.collection other = start.memory.collection other
  /-- Search fields are added once each, and only to documents without any. -/
  once : done.Nodup
  fresh : ∀ id ∈ done, ∃ entry ∈ start.memory.collection name ++ arrived, entry.key = id ∧ entry.unindexed = true
  /-- All listings go by the greatest id at the start, and nothing above it is changed. -/
  fixed : ∀ listing ∈ listings settings name start,
    ∃ greatest, listing.1.greatest = some greatest ∧ (start.memory.collection name).Greatest greatest
  within : ∀ greatest, (start.memory.collection name).Greatest greatest → ∀ id ∈ done, ¬greatest.Precedes id
  ended : match result.outcome with
    | .error failure => final.Failed failure
    | .ok finished =>
      missed = [] ∧
      TellsGreatest (start.memory.collection name) finished.cursor.greatest ∧
      finished.cursor.processed = done.length ∧
      (∀ entry ∈ start.memory.collection name, entry.unindexed = true → entry.key ∈ done) ∧
      ∀ entry ∈ start.memory.collection name ++ arrived, entry.unindexed = true →
        (entry.key ∈ done ↔ Met name (listings settings name start) entry)

/-- Documents may arrive after any calls, and any calls may fail. -/
theorem run_handles_what_it_meets (stocked : Stocked kind name store.memory deliveries) (faults : List PlannedFault)
    (enabled : settings.enabled = true) (positive : 1 ≤ settings.batchSize) :
    (run settings name : Action PlannedStore Run).Leaves (store.plan faults deliveries) fun outcome final =>
      ∃ result arrived missed done, outcome = .ok result ∧
        RunAmongDeliveries settings name (store.plan faults deliveries) final result arrived missed done := by
  have sound : Sound kind name (store.plan faults deliveries) := Sound.of_stocked stocked
  refine (leaves_run sound enabled positive).mono ?_
  intro outcome final reached
  obtain ⟨result, made, arrived, missed, done, returned, ran, ended⟩ := reached
  refine ⟨result, arrived, missed, done, returned, ?_⟩
  constructor
  · exact ran.moves.expected
  · exact ran.moves.unanswered
  · exact ran.moves.contents
  · exact ran.moves.others
  · exact ran.moves.once
  · exact ran.moves.fresh
  · exact ran.fixed
  · exact ran.within
  · cases ended with
    | scanning failed calls | processing failed calls => exact failed
    | finished nothing greatest processed skipped complete exact => exact ⟨nothing, greatest, processed, complete, exact⟩

section LateMessages

def message (id : Int) : Fields := [("id", .int id), ("envelope", .null)]

/-- Two messages without search fields. -/
def twoMessages : PlannedStore :=
  { memory := ⟨[(Collections.messages, [⟨.int 1, message 1⟩, ⟨.int 5, message 5⟩])]⟩ }

/-- One message arrives between these two, and one after them. -/
def lateMessages : List PlannedDelivery :=
  [⟨.count, 1, Collections.messages, [.object (message 3)]⟩, ⟨.find, 2, Collections.messages, [.object (message 9)]⟩]

private theorem stocked_lateMessages : Stocked .number Collections.messages twoMessages.memory lateMessages := by
  have entries : twoMessages.memory.collection Collections.messages ++ entriesOf lateMessages =
      [1, 5, 3, 9].map fun id => (⟨.int id, message id⟩ : Entry) := rfl
  constructor
  · rw [entries]
    constructor
    · intro entry member
      obtain ⟨id, -, rfl⟩ := List.mem_map.mp member
      exact ⟨.number id, rfl⟩
    · simp
  · decide +kernel
  · decide

/-- The second listing meets the message that came before it. The update after it fails. -/
theorem run_handles_what_it_meets_of_two_late_messages :
    Stocked .number Collections.messages twoMessages.memory lateMessages ∧
    (run { enabled := true, batchSize := 1 } Collections.messages : Action PlannedStore Run).Leaves
      (twoMessages.plan [⟨.bulkUpdate, 2, none⟩] lateMessages) fun outcome final =>
        ∃ result arrived missed done, outcome = .ok result ∧
          RunAmongDeliveries { enabled := true, batchSize := 1 } Collections.messages
            (twoMessages.plan [⟨.bulkUpdate, 2, none⟩] lateMessages) final result arrived missed done :=
  ⟨stocked_lateMessages, run_handles_what_it_meets stocked_lateMessages [⟨.bulkUpdate, 2, none⟩] rfl (by decide)⟩

end LateMessages

/-- Where two messages hold one id, a run to which nothing is delivered and in which nothing fails counts one, does not
handle it, and gives the other the search fields of it. -/
theorem run_gives_a_namesake_the_fields_of_another :
    (namesakes.memory.collection Collections.messages).documents = [renamed, namesake] ∧
    ∃ result events final, run oneByOne Collections.messages (namesakes.plan [] []) = ⟨.ok result, events, final⟩ ∧
      (∃ finished, result.outcome = .ok finished) ∧
      (final.memory.collection Collections.messages).documents =
        [renamed, namesake.put searchField renamedFields] ∧
      ¬∃ arrived missed done,
        RunAmongDeliveries oneByOne Collections.messages (namesakes.plan [] []) final result arrived missed done := by
  refine ⟨rfl, _, _, _, run_namesakes, ⟨_, rfl⟩, rfl, ?_⟩
  intro ⟨arrived, missed, done, among⟩
  have nothing : arrived ++ handledNamesakes.incoming ++ entriesOf missed = [] := among.delivered.eq_nil
  obtain ⟨⟨rfl, -⟩, -⟩ : (arrived = [] ∧ _) ∧ _ := by simpa only [List.append_eq_nil_iff] using nothing
  have contents := among.contents
  rw [List.append_nil] at contents
  exact ne_indexing_of_namesakes done contents

end MailSearch.Backfill

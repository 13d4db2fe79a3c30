import MailSearch.Proofs.FilterMeaning
import MailSearch.Proofs.MailboxPartition
import MailSearch.Proofs.PairedRuns
import MailSearch.Proofs.SortedItems

/-! A search shows nothing of what belongs to others. Every call that it makes asks for the user's record or for
documents of the user's own, so two stores that have these in common answer it alike, whatever else they hold. -/

namespace MailSearch

/-- The documents of a collection that belong to a user, in the order of the collection. -/
def Memory.owned (memory : Memory) (collection : String) (owner : Value) : List Fields :=
  (memory.collection collection).documents.filter (Predicate.eq "user" owner).chooses

/-- Two stores hold the same record of a user, and the same mailboxes and messages that are the user's own. -/
structure Memory.SharesTenant (memory : Memory) (user : Value) (memory' : Memory) : Prop where
  record : memory.get Collections.users user = memory'.get Collections.users user
  mailboxes : ∀ identity, memory.Knows user identity →
    memory.owned Collections.mailboxes (.text identity.id) = memory'.owned Collections.mailboxes (.text identity.id)
  messages : ∀ identity, memory.Knows user identity →
    memory.owned Collections.messages (.text identity.id) = memory'.owned Collections.messages (.text identity.id)

namespace Predicate

/-- Every record answers the filter, and those that satisfy it are the owner's. -/
structure Confined (filter : Predicate) (owner : Value) : Prop where
  settled : ∀ record, filter.Settled record
  owned : ∀ record, filter.Holds record → record.Offers "user" owner

variable {filter : Predicate} {owner : Value}

private theorem Confined.chooses (confined : filter.Confined owner) {document : Fields}
    (chosen : filter.chooses document = true) : (eq "user" owner).chooses document = true := by
  rw [chooses_iff] at chosen
  rw [chooses_iff, holds_eq_iff]
  exact confined.owned _ chosen

end Predicate

namespace MailboxScope

private theorem confined_covered (user : Value) : (covered user).Confined user := by
  refine ⟨fun _ => settled_covered user, fun record holds => ?_⟩
  rw [covered, Predicate.holds_all_iff] at holds
  exact Predicate.holds_eq_iff.mp (holds _ List.mem_cons_self)

private theorem confined_leftOut (user : Value) : (leftOut user).Confined user := by
  refine ⟨fun _ => settled_leftOut user, fun record holds => ?_⟩
  rw [leftOut, Predicate.holds_all_iff] at holds
  exact Predicate.holds_eq_iff.mp (holds _ List.mem_cons_self)

end MailboxScope

private theorem Criteria.confined_drafted_filter {criteria : Criteria} {user : String} {resolved : MailboxScope}
    {draft : FilterDraft}
    (made : criteria.draft user (criteria.scopeWithin resolved) = .ok draft) : draft.filter.Confined (.text user) := by
  refine ⟨fun _ => settled_drafted_filter made, fun record holds => ?_⟩
  exact ((holds_draft_iff made).mp holds).1.owner

namespace Memory

variable {memory memory' : Memory} {collection : String} {filter : Predicate} {owner : Value}

/-- What a filter selects that is confined to an owner, it selects of the owner's documents. -/
theorem selected_of_confined (confined : filter.Confined owner) :
    Documents.selected (some filter) (memory.collection collection).documents =
      .ok ((memory.owned collection owner).filter filter.chooses) := by
  rw [Documents.selected_of_settled fun _ _ => confined.settled _, owned, List.filter_filter]
  congr 1
  apply List.filter_congr
  intro document _
  cases chosen : filter.chooses document with
  | false => rfl
  | true => rw [confined.chooses chosen, Bool.and_self]

private theorem count_eq_of_owned (confined : filter.Confined owner)
    (same : memory.owned collection owner = memory'.owned collection owner) :
    memory.count collection (some filter) = memory'.count collection (some filter) := by
  unfold count
  rw [selected_of_confined confined, selected_of_confined confined, same]

private theorem find_eq_of_owned (confined : filter.Confined owner) {selection : Selection}
    (filtered : selection.filter = some filter)
    (same : memory.owned collection owner = memory'.owned collection owner) :
    memory.find collection selection = memory'.find collection selection := by
  unfold find
  rw [filtered, selected_of_confined confined, selected_of_confined confined, same]

/-- Whatever the order and the limit, what is found are documents of the owner, cut to the names asked for. -/
theorem mem_find_of_confined (confined : filter.Confined owner) {selection : Selection}
    (filtered : selection.filter = some filter) {found : List Fields}
    (done : memory.find collection selection = .ok found) {document : Fields} (member : document ∈ found) :
    ∃ kept ∈ memory.owned collection owner, filter.chooses kept = true ∧ document = kept.projected selection.names := by
  have selects : Documents.selected selection.filter (memory.collection collection).documents =
      .ok ((memory.owned collection owner).filter filter.chooses) := by
    rw [filtered]
    exact selected_of_confined confined
  obtain ⟨kept, chosen, rfl⟩ := mem_find selects done member
  obtain ⟨own, chooses⟩ := List.mem_filter.mp chosen
  exact ⟨kept, own, chooses, rfl⟩

end Memory

namespace PlannedStore

variable {α : Type} {memory memory' : Memory} {store : PlannedStore}

/-- A call to a quiet store without planned faults answers what the documents say, and logs nothing. -/
theorem called_of_faultless (quiet : Quiet memory store) (faultless : store.faults = []) (call : StoreCall)
    (read : Memory → Except Failure α) :
    called call (reading read) store = ⟨read memory, [], store.counting call⟩ := by
  have undisturbed : store.Undisturbed := ⟨faultless, quiet.still⟩
  rw [undisturbed.called, ← quiet.held]
  rfl

structure Twins (memory memory' : Memory) (store store' : PlannedStore) : Prop where
  quiet : Quiet memory store
  faultless : store.faults = []
  quiet' : Quiet memory' store'
  faultless' : store'.faults = []

private theorem blind_called {call : StoreCall} {read : Memory → Except Failure α} (same : read memory = read memory') :
    Action.Blind (Twins memory memory') (called call (reading read)) := by
  intro one other twins
  rw [called_of_faultless twins.quiet twins.faultless, called_of_faultless twins.quiet' twins.faultless', same]
  exact ⟨rfl, rfl, twins.quiet.counting call, twins.faultless, twins.quiet'.counting call, twins.faultless'⟩

variable {collection : String} {filter : Predicate} {owner id : Value}

private theorem blind_get (same : memory.get collection id = memory'.get collection id) :
    Action.Blind (Twins memory memory') (DocumentStore.get collection id) :=
  blind_called same

private theorem blind_count (confined : filter.Confined owner)
    (same : memory.owned collection owner = memory'.owned collection owner) :
    Action.Blind (Twins memory memory') (DocumentStore.count collection (some filter)) :=
  blind_called (Memory.count_eq_of_owned confined same)

private theorem blind_find (confined : filter.Confined owner) {selection : Selection}
    (filtered : selection.filter = some filter)
    (same : memory.owned collection owner = memory'.owned collection owner) :
    Action.Blind (Twins memory memory') (DocumentStore.find collection selection) :=
  blind_called (Memory.find_eq_of_owned confined filtered same)

end PlannedStore

open PlannedStore

namespace MailboxScope

open MailSearch.Action

variable {memory memory' : Memory} {user : Value}
  (same : memory.owned Collections.mailboxes user = memory'.owned Collections.mailboxes user)

include same

private theorem blind_list {filter : Predicate} (confined : filter.Confined user) :
    Blind (Twins memory memory') (list filter : Action PlannedStore _) := by
  apply (blind_find confined rfl same).bind
  intro documents
  exact blind_ofExcept _

private theorem blind_countCovered : Blind (Twins memory memory') (countCovered user : Action PlannedStore _) := by
  apply Blind.orElseOnStorage
  · exact (blind_count (confined_covered user) same).map some
  · apply (blind_emit _ _ _).bind
    intro _
    exact blind_pure none

private theorem blind_listCovered (threshold : Int) (count : Option Int) :
    Blind (Twins memory memory') (listCovered user threshold count : Action PlannedStore _) := by
  unfold listCovered
  split
  · apply Blind.orElseOnStorage
    · exact (blind_list same (confined_covered user)).map some
    · apply (blind_emit _ _ _).bind
      intro _
      exact blind_pure none
  · exact blind_pure none

/-- The count, the choice between the two lists, and the list depend on the user's own mailboxes alone. -/
theorem blind_resolve (threshold : Int) :
    Blind (Twins memory memory') (resolve user threshold : Action PlannedStore _) := by
  have blind_settle (count : Option Int) (scope : MailboxScope) :
      Blind (Twins memory memory') (settle user count scope : Action PlannedStore _) := by
    apply (blind_emit _ _ _).bind
    intro _
    exact blind_pure scope
  apply (blind_countCovered same).bind
  intro count
  apply (blind_listCovered same threshold count).bind
  intro listed
  cases listed with
  | some mailboxes => exact blind_settle count _
  | none =>
    apply ((blind_list same (confined_leftOut user)).orElseOnStorage (blind_fail .lookup)).bind
    intro mailboxes
    exact blind_settle count _

end MailboxScope

namespace Criteria

open MailSearch.Action

variable {memory memory' : Memory} {user : Value} (shared : memory.SharesTenant user memory')
  (criteria : Criteria) (threshold : Int)

include shared

private theorem blind_owner : Blind (Twins memory memory') (owner user : Action PlannedStore _) := by
  apply Blind.bind
  · apply Blind.orElseOnStorage
    · apply (blind_get shared.record).bind
      intro document
      cases document with
      | none => exact blind_pure none
      | some document =>
        simp only
        split
        · exact blind_pure _
        · exact blind_fail _
    · exact blind_fail .lookup
  · intro identity
    cases identity with
    | none => exact blind_fail .unknownUser
    | some identity => exact blind_pure identity

private theorem blind_scope {identity : Identity} (known : memory.Knows user identity) :
    Blind (Twins memory memory') (criteria.scope identity.id threshold : Action PlannedStore _) := by
  unfold scope
  split
  · exact blind_pure _
  · split
    · exact (MailboxScope.blind_resolve (shared.mailboxes identity known) threshold).map some
    · exact blind_pure none

private theorem blind_compile :
    Blind (Twins memory memory') (criteria.compile user threshold : Action PlannedStore _) := by
  apply (blind_owner shared).bind_of_result
  intro one other identity twins found
  have known : memory.Knows user identity := (leaves_owner twins.quiet).2 identity found
  apply (blind_scope shared criteria threshold known).bind
  intro scope
  apply (blind_ofExcept _).bind
  intro draft
  apply (blind_emit _ _ _).bind
  intro _
  exact blind_pure _

/-- What is listed after a filter was compiled is confined to the user whom it was compiled for. -/
theorem blind_search (selection : Selection) :
    Blind (Twins memory memory') (criteria.search user threshold selection : Action PlannedStore _) := by
  apply (blind_compile shared criteria threshold).bind_of_result
  intro one other compiled twins returned
  obtain ⟨identity, resolved, draft, known, -, made, same⟩ := leaves_compile twins.quiet compiled returned
  have confined : compiled.filter.Confined (.text identity.id) := same ▸ confined_drafted_filter made
  apply (blind_find confined rfl (shared.messages identity known)).bind
  intro messages
  exact blind_pure _

private theorem leaves_search {store store' : PlannedStore} (twins : Twins memory memory' store store')
    (selection : Selection) :
    (criteria.search user threshold selection : Action PlannedStore _).Leaves store fun outcome _ =>
      ∀ compiled documents, outcome = .ok (compiled, documents) →
        ∃ identity, memory.Knows user identity ∧ ∀ document ∈ documents,
          ∃ message ∈ memory.owned Collections.messages (.text identity.id),
            compiled.filter.chooses message = true ∧ document = message.projected selection.names := by
  have drafted : (criteria.compile user threshold : Action PlannedStore _).Leaves store _ := leaves_compile twins.quiet
  have left := (blind_compile shared criteria threshold store store' twins).state
  unfold search
  rw [leaves_bind]
  rcases ran : criteria.compile user threshold store with ⟨outcome, events, final⟩
  rw [ran] at left
  rw [leaves_of_run ran] at drafted ⊢
  cases outcome with
  | error failure => rintro _ _ ⟨⟩
  | ok compiled =>
    obtain ⟨identity, resolved, draft, known, -, made, same⟩ := drafted compiled rfl
    have confined : compiled.filter.Confined (.text identity.id) := same ▸ confined_drafted_filter made
    rw [resumes_ok, leaves_bind]
    apply (Quiet.leaves_called left.quiet).mpr
    rw [answer_of_faultless left.faultless]
    cases found : memory.find Collections.messages { selection with filter := some compiled.filter } with
    | error failure => rintro _ _ ⟨⟩
    | ok messages =>
      rintro _ _ ⟨⟩
      refine ⟨identity, known, ?_⟩
      intro document member
      exact Memory.mem_find_of_confined confined rfl found member

end Criteria

open Criteria in
/-- Two stores without faults hold the same record of a user and the same mailboxes and messages of the user's own;
in all else they differ as they may. Any criteria are compiled alike for the user in both, and searches end alike:
with the same filter and the same documents, or with the same failure. They log the same as well. Whatever document
is returned is one of the user's messages. -/
theorem searches_show_only_what_is_owned {user : Value} {memory memory' : Memory}
    (shared : memory.SharesTenant user memory') {store store' : PlannedStore} (quiet : Quiet memory store)
    (faultless : store.faults = []) (quiet' : Quiet memory' store') (faultless' : store'.faults = [])
    (criteria : Criteria) (threshold : Int) (selection : Selection) :
    (criteria.compile user threshold store).outcome = (criteria.compile user threshold store').outcome ∧
    (criteria.search user threshold selection store).outcome =
      (criteria.search user threshold selection store').outcome ∧
    (criteria.search user threshold selection store).events =
      (criteria.search user threshold selection store').events ∧
    ∀ compiled documents, (criteria.search user threshold selection store).outcome = .ok (compiled, documents) →
      ∃ identity, memory.Knows user identity ∧ ∀ document ∈ documents,
        ∃ message ∈ memory.owned Collections.messages (.text identity.id),
          compiled.filter.chooses message = true ∧ document = message.projected selection.names := by
  have twins : Twins memory memory' store store' := ⟨quiet, faultless, quiet', faultless'⟩
  have compiles := blind_compile shared criteria threshold store store' twins
  have searches := blind_search shared criteria threshold selection store store' twins
  exact ⟨compiles.outcome, searches.outcome, searches.events, leaves_search shared criteria threshold twins selection⟩

section Neighbours

def ownMessage : Fields := [("id", .int 2), ("user", .text "u"), ("mailbox", .text "m"), ("searchable", .bool true)]

def quietHouse : PlannedStore :=
  { memory := ⟨[(Collections.users, [⟨.text "u", Criteria.soleRecord⟩]),
      (Collections.mailboxes, [⟨.text "m", inboxMailbox⟩]), (Collections.messages, [⟨.int 2, ownMessage⟩])]⟩ }

/-- The same house with another user in it, whose mailbox and message come first. -/
def sharedHouse : PlannedStore :=
  { memory := ⟨[(Collections.users, [⟨.text "v", [("id", .text "v")]⟩, ⟨.text "u", Criteria.soleRecord⟩]),
      (Collections.mailboxes, [⟨.text "w", [("user", .text "v")]⟩, ⟨.text "m", inboxMailbox⟩]),
      (Collections.messages, [⟨.int 1, [("id", .int 1), ("user", .text "v"), ("mailbox", .text "m")]⟩,
        ⟨.int 2, ownMessage⟩])]⟩ }

theorem searches_show_only_what_is_owned_beside_another_user :
    quietHouse.memory.SharesTenant (.text "u") sharedHouse.memory ∧
    (Criteria.search { searchable := true } (.text "u") 200 { limit := some 1 } quietHouse).outcome =
      (Criteria.search { searchable := true } (.text "u") 200 { limit := some 1 } sharedHouse).outcome ∧
    ∃ compiled, (Criteria.search { searchable := true } (.text "u") 200 { limit := some 1 } quietHouse).outcome =
      .ok (compiled, [ownMessage]) := by
  have known : quietHouse.memory.Knows (.text "u") Criteria.soleIdentity := ⟨Criteria.soleRecord, rfl, rfl⟩
  have shared : quietHouse.memory.SharesTenant (.text "u") sharedHouse.memory := by
    refine ⟨rfl, ?_, ?_⟩
    all_goals
      intro identity known'
      cases known.unique known'
      rfl
  obtain ⟨-, searched, -, -⟩ := searches_show_only_what_is_owned shared (show Quiet _ quietHouse from ⟨rfl, rfl⟩) rfl
    (show Quiet _ sharedHouse from ⟨rfl, rfl⟩) rfl { searchable := true } 200 { limit := some 1 }
  exact ⟨shared, searched, _, rfl⟩

end Neighbours

end MailSearch

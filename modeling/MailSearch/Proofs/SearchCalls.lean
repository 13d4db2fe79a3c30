import MailSearch.Proofs.RecordedRequests
import MailSearch.Proofs.SearchRuns

/-! What a search asks of its store before it has a filter, and when that fails. The user is looked up once. Only a
search across all mailboxes asks more: it counts the mailboxes it covers, lists these where they are few, and lists
those it leaves out where it could not list the others; that last listing is the only one it needs. -/

namespace MailSearch

namespace PlannedStore

variable {α : Type} {store : PlannedStore} {call other : StoreCall} {number : Nat}

/-- The call of this kind with this number, counted from here on, is planned to fail. -/
def fails (store : PlannedStore) (call : StoreCall) (number : Nat) : Bool :=
  (store.faultAt? call (store.calls.count call + number)).isSome

private theorem fails_counting :
    (store.counting other).fails call number = store.fails call (if other = call then number + 1 else number) := by
  simp only [fails, counting, List.count_append, List.count_singleton, beq_iff_eq]
  split <;> simp only [faultAt?, Nat.add_assoc, Nat.add_comm 1, Nat.add_zero]

private theorem answer_of_fails (planned : store.fails call 1 = true) (given : Except Failure α) :
    ∃ message, store.answer call given = .error (.storage message none) := by
  obtain ⟨fault, found⟩ := Option.isSome_iff_exists.mp planned
  have next : store.nextFault? call = some fault := found
  exact ⟨fault.message, by rw [answer, next]⟩

private theorem answer_of_clear (clear : store.fails call 1 = false) (given : Except Failure α) :
    store.answer call given = given := by
  have next : store.nextFault? call = none := Option.isSome_eq_false_iff.mp clear |> Option.isNone_iff_eq_none.mp
  rw [answer, next]

end PlannedStore

namespace MailboxScope

open PlannedStore

/-- The number of the user's mailboxes that a search across all mailboxes covers. -/
def coveredCount (memory : Memory) (user : Value) : Nat :=
  ((memory.collection Collections.mailboxes).documents.filter (covered user).chooses).length

def probe (user : Value) : StoreRequest := .count Collections.mailboxes (some (covered user))

def listing (filter : Predicate) : StoreRequest :=
  .find Collections.mailboxes { filter := some filter, names := some ["id"] }

/-- The mailboxes covered are to be listed: their number is told, and they are few. -/
def listsCovered (memory : Memory) (store : PlannedStore) (user : Value) (threshold : Int) : Bool :=
  !store.fails .count 1 && (0 < coveredCount memory user && (coveredCount memory user : Int) < threshold)

/-- The mailboxes covered are had. -/
def hasCovered (memory : Memory) (store : PlannedStore) (user : Value) (threshold : Int) : Bool :=
  listsCovered memory store user threshold && !store.fails .find 1

/-- The mailboxes left out are needed, and listing them fails. -/
def lacksBoth (memory : Memory) (store : PlannedStore) (user : Value) (threshold : Int) : Bool :=
  !hasCovered memory store user threshold &&
    store.fails .find (if listsCovered memory store user threshold then 2 else 1)

/-- Fails over a look-up where what is needed is lacking, and returns a result where it is not. -/
def Settles {α : Type} (lacking : Bool) (outcome : Except Failure α) : Prop :=
  if lacking then outcome = .error .lookup else ∃ result, outcome = .ok result

private theorem Settles.map {α β : Type} {lacking : Bool} {outcome : Except Failure α}
    (settles : Settles lacking outcome) (f : α → β) : Settles lacking (outcome.map f) := by
  cases lacking with
  | true =>
    rw [show outcome = .error .lookup from settles]
    rfl
  | false =>
    obtain ⟨result, rfl⟩ : ∃ result, outcome = .ok result := settles
    exact ⟨f result, rfl⟩

def requests (memory : Memory) (store : PlannedStore) (user : Value) (threshold : Int) : List StoreRequest :=
  probe user :: ((if listsCovered memory store user threshold then [listing (covered user)] else []) ++
    if hasCovered memory store user threshold then [] else [listing (leftOut user)])

variable {memory : Memory} {recording : Recording PlannedStore} {user : Value} {threshold : Int}

/-- Looking up the user does not change which of the later calls are to fail. -/
theorem listsCovered_counting_get (store : PlannedStore) :
    listsCovered memory (store.counting .get) user threshold = listsCovered memory store user threshold := by
  rw [listsCovered, listsCovered, fails_counting]
  rfl

private theorem hasCovered_counting_get (store : PlannedStore) :
    hasCovered memory (store.counting .get) user threshold = hasCovered memory store user threshold := by
  rw [hasCovered, hasCovered, listsCovered_counting_get, fails_counting]
  rfl

private theorem requests_counting_get (store : PlannedStore) :
    requests memory (store.counting .get) user threshold = requests memory store user threshold := by
  rw [requests, requests, listsCovered_counting_get, hasCovered_counting_get]

private theorem lacksBoth_counting_get (store : PlannedStore) :
    lacksBoth memory (store.counting .get) user threshold = lacksBoth memory store user threshold := by
  rw [lacksBoth, lacksBoth, listsCovered_counting_get, hasCovered_counting_get, fails_counting]
  rfl

private theorem count_eq (memory : Memory) (user : Value) :
    memory.count Collections.mailboxes (covered user) = .ok (coveredCount memory user : Int) := by
  unfold Memory.count
  rw [Documents.selected_of_settled fun _ _ => settled_covered user]
  rfl

private theorem leaves_recorded_count (quiet : Quiet memory recording.store) {filter : Option Predicate}
    {post : Except Failure Int → Recording PlannedStore → Prop} :
    (DocumentStore.count Collections.mailboxes filter : Action (Recording PlannedStore) _).Leaves recording post ↔
      post (recording.store.answer .count (memory.count Collections.mailboxes filter))
        (recording.asking (.count Collections.mailboxes filter) (recording.store.counting .count)) :=
  Recording.leaves_record.trans (leaves_count quiet)

private theorem leaves_recorded_list (quiet : Quiet memory recording.store) {filter : Predicate}
    {post : Except Failure (List Value) → Recording PlannedStore → Prop} :
    (list filter : Action (Recording PlannedStore) _).Leaves recording post ↔
      post (recording.store.answer .find (memory.mailboxIds filter))
        (recording.asking (listing filter) (recording.store.counting .find)) := by
  have recorded : (list filter : Action (Recording PlannedStore) _) = Recording.record (listing filter) (list filter) :=
    (Recording.record_bind_ofExcept _ _ _).symm
  rw [recorded, Recording.leaves_record, leaves_list quiet]

private theorem leaves_recorded_countCovered (quiet : Quiet memory recording.store) :
    (countCovered user : Action (Recording PlannedStore) _).Leaves recording fun outcome final =>
      outcome = .ok (if recording.store.fails .count 1 then none else some (coveredCount memory user : Int)) ∧
        final = recording.asking (probe user) (recording.store.counting .count) := by
  rw [countCovered, Action.leaves_orElseOnStorage, Action.leaves_map, leaves_recorded_count quiet, count_eq]
  cases planned : recording.store.fails .count 1 with
  | true =>
    obtain ⟨message, failed⟩ := answer_of_fails planned (.ok (coveredCount memory user : Int))
    rw [failed]
    exact ⟨rfl, rfl⟩
  | false =>
    rw [answer_of_clear planned]
    exact ⟨rfl, rfl⟩

private theorem isListable_eq (store : PlannedStore) :
    isListable threshold (if store.fails .count 1 then none else some (coveredCount memory user : Int)) =
      listsCovered memory store user threshold := by
  unfold listsCovered
  cases store.fails .count 1 with
  | true => rfl
  | false =>
    have some_ : ((coveredCount memory user : Int) != 0) = decide (0 < coveredCount memory user) := by
      rw [Bool.eq_iff_iff, bne_iff_ne, decide_eq_true_eq]
      omega
    simp only [Bool.false_eq_true, ↓reduceIte, isListable, Bool.not_false, Bool.true_and, some_]

private theorem leaves_recorded_listCovered (quiet : Quiet memory recording.store) (identified : memory.Identified)
    {count : Option Int} (few : isListable threshold count = true) :
    (listCovered user threshold count : Action (Recording PlannedStore) _).Leaves recording fun outcome final =>
      final = recording.asking (listing (covered user)) (recording.store.counting .find) ∧
        if recording.store.fails .find 1 then outcome = .ok none else ∃ ids, outcome = .ok (some ids) := by
  obtain ⟨ids, listed⟩ := Memory.mailboxIds_of_identified identified fun _ => settled_covered user
  rw [listCovered, if_pos few, Action.leaves_orElseOnStorage, Action.leaves_map, leaves_recorded_list quiet, listed]
  cases planned : recording.store.fails .find 1 with
  | true =>
    obtain ⟨message, failed⟩ := answer_of_fails planned (.ok ids)
    rw [failed]
    exact ⟨rfl, rfl⟩
  | false =>
    rw [answer_of_clear planned]
    exact ⟨rfl, ids, rfl⟩

private theorem leaves_recorded_exclusion (quiet : Quiet memory recording.store) (identified : memory.Identified)
    {count : Option Int} :
    (do
      let mailboxes ← Action.orElseOnStorage (list (leftOut user)) (Action.fail .lookup)
      settle user count (.excluding mailboxes) : Action (Recording PlannedStore) MailboxScope).Leaves recording
      fun outcome final =>
        final = recording.asking (listing (leftOut user)) (recording.store.counting .find) ∧
          Settles (recording.store.fails .find 1) outcome := by
  obtain ⟨ids, listed⟩ := Memory.mailboxIds_of_identified identified fun _ => settled_leftOut user
  rw [Action.leaves_bind, Action.leaves_orElseOnStorage, leaves_recorded_list quiet, listed]
  cases planned : recording.store.fails .find 1 with
  | true =>
    obtain ⟨message, failed⟩ := answer_of_fails planned (.ok ids)
    rw [failed]
    exact ⟨rfl, rfl⟩
  | false =>
    rw [answer_of_clear planned]
    exact ⟨rfl, _, rfl⟩

private theorem leaves_recorded_resolve (quiet : Quiet memory recording.store) (identified : memory.Identified) :
    (resolve user threshold : Action (Recording PlannedStore) _).Leaves recording fun outcome final =>
      final.requests = recording.requests ++ requests memory recording.store user threshold ∧
        Quiet memory final.store ∧
        Settles (lacksBoth memory recording.store user threshold) outcome := by
  rw [resolve, Action.leaves_bind]
  apply (leaves_recorded_countCovered quiet).mono
  intro outcome middle reached
  obtain ⟨rfl, rfl⟩ := reached
  have next : Quiet memory (recording.store.counting .count) := quiet.counting .count
  have few : isListable threshold (if recording.store.fails .count 1 then none else
      some (coveredCount memory user : Int)) = listsCovered memory recording.store user threshold := isListable_eq _
  have first : (recording.store.counting .count).fails .find 1 = recording.store.fails .find 1 := fails_counting
  have second : ((recording.store.counting .count).counting .find).fails .find 1 = recording.store.fails .find 2 :=
    fails_counting.trans fails_counting
  rw [Action.resumes_ok, Action.leaves_bind, requests, lacksBoth, hasCovered]
  cases lists : listsCovered memory recording.store user threshold with
  | false =>
    rw [lists] at few
    rw [listCovered, if_neg (by rw [few]; decide), Action.leaves_pure, Action.resumes_ok]
    apply (leaves_recorded_exclusion next identified).mono
    intro outcome final reached
    obtain ⟨rfl, ended⟩ := reached
    rw [Recording.store_asking, first] at ended
    exact ⟨by simp, next.counting .find, ended⟩
  | true =>
    apply (leaves_recorded_listCovered next identified (few.trans lists)).mono
    intro outcome later reached
    obtain ⟨rfl, ended⟩ := reached
    rw [Recording.store_asking, first] at ended
    cases planned : recording.store.fails .find 1 with
    | false =>
      rw [planned] at ended
      obtain ⟨ids, rfl⟩ := ended
      simp only [Action.resumes_ok, settle, Action.leaves_bind, Action.leaves_emit, Action.leaves_pure]
      exact ⟨by simp, next.counting .find, _, rfl⟩
    | true =>
      rw [planned] at ended
      cases ended
      rw [Action.resumes_ok]
      refine Action.Leaves.mono (leaves_recorded_exclusion ?_ identified) ?_
      · exact next.counting .find
      intro outcome final reached
      obtain ⟨rfl, ended⟩ := reached
      rw [Recording.store_asking, Recording.store_asking, second] at ended
      exact ⟨by simp, (next.counting .find).counting .find, ended⟩

end MailboxScope

namespace Criteria

open PlannedStore

variable {memory : Memory} {store : PlannedStore} {recording : Recording PlannedStore} {criteria : Criteria}
  {user : Value} {threshold : Int} {identity : Identity}

def lookup (user : Value) : StoreRequest := .get Collections.users user

private theorem leaves_recorded_owner (quiet : Quiet memory recording.store) (hashable : user.isHashable = true)
    (valid : ∀ document ∈ (memory.collection Collections.users).documents,
      ∃ identity, Identity.read (.object document) = .valid identity) :
    (owner user : Action (Recording PlannedStore) _).Leaves recording fun outcome final =>
      final = recording.asking (lookup user) (recording.store.counting .get) ∧
        (recording.store.fails .get 1 = true → outcome = .error .lookup) ∧
        (recording.store.fails .get 1 = false →
          memory.get Collections.users user = .ok none ∧ outcome = .error .unknownUser ∨
            ∃ identity, memory.Knows user identity ∧ outcome = .ok identity) := by
  simp only [owner, DocumentStore.user, Action.leaves_bind, Action.leaves_orElseOnStorage]
  refine Recording.leaves_record.mpr ((leaves_get quiet).mpr ?_)
  cases planned : recording.store.fails .get 1 with
  | true =>
    obtain ⟨message, failed⟩ := answer_of_fails planned (memory.get Collections.users user)
    rw [failed]
    exact ⟨rfl, fun _ => rfl, nofun⟩
  | false =>
    rw [answer_of_clear planned]
    have given : memory.get Collections.users user = .ok ((memory.collection Collections.users).find? user) :=
      if_pos hashable
    cases found : (memory.collection Collections.users).find? user with
    | none =>
      rw [found] at given
      rw [given]
      exact ⟨rfl, nofun, fun _ => .inl ⟨rfl, rfl⟩⟩
    | some document =>
      rw [found] at given
      obtain ⟨identity, read⟩ := valid document (Collection.find?_mem found)
      rw [given]
      simp only [Action.resumes_ok, read]
      exact ⟨rfl, nofun, fun _ => .inr ⟨identity, ⟨document, given, read⟩, rfl⟩⟩

/-- What a search makes of its criteria: what it asked of the store, and how it ended. -/
structure Compiles (memory : Memory) (store : PlannedStore) (criteria : Criteria) (user : Value) (threshold : Int)
    (requests : List StoreRequest) (outcome : Except Failure SearchFilter) : Prop where
  failing : store.fails .get 1 = true → requests = [lookup user] ∧ outcome = .error .lookup
  unknown : store.fails .get 1 = false → memory.get Collections.users user = .ok none →
    requests = [lookup user] ∧ outcome = .error .unknownUser
  /-- Whatever other calls are planned to fail. -/
  narrow : store.fails .get 1 = false → memory.get Collections.users user ≠ .ok none →
    criteria.NamesMailbox ∨ criteria.searchable = false →
      requests = [lookup user] ∧ ∃ compiled, outcome = .ok compiled
  broad : store.fails .get 1 = false → memory.get Collections.users user ≠ .ok none →
    ¬criteria.NamesMailbox → criteria.searchable = true → ∃ identity, memory.Knows user identity ∧
      requests = lookup user :: MailboxScope.requests memory store (.text identity.id) threshold ∧
      MailboxScope.Settles (MailboxScope.lacksBoth memory store (.text identity.id) threshold) outcome

/-- What finding a scope asks, and how it ends. A scope across mailboxes alone asks anything. -/
structure Scoped (memory : Memory) (recording : Recording PlannedStore) (criteria : Criteria) (owner : String)
    (threshold : Int) {α : Type} (outcome : Except Failure α) (final : Recording PlannedStore) : Prop where
  quiet : Quiet memory final.store
  narrow : criteria.NamesMailbox ∨ criteria.searchable = false →
    final.requests = recording.requests ∧ ∃ result, outcome = .ok result
  broad : ¬criteria.NamesMailbox → criteria.searchable = true →
    final.requests = recording.requests ++ MailboxScope.requests memory recording.store (.text owner) threshold ∧
      MailboxScope.Settles (MailboxScope.lacksBoth memory recording.store (.text owner) threshold) outcome

variable {final : Recording PlannedStore} {owner : String}

private theorem Scoped.map {α β : Type} {outcome : Except Failure α}
    (reached : Scoped memory recording criteria owner threshold outcome final) (f : α → β) :
    Scoped memory recording criteria owner threshold (outcome.map f) final := by
  refine ⟨reached.quiet, ?_, ?_⟩
  · intro narrow
    obtain ⟨asked, result, rfl⟩ := reached.narrow narrow
    exact ⟨asked, f result, rfl⟩
  · intro unnamed all
    obtain ⟨asked, ended⟩ := reached.broad unnamed all
    exact ⟨asked, ended.map f⟩

private theorem leaves_recorded_scope (quiet : Quiet memory recording.store) (identified : memory.Identified) :
    (criteria.scope owner threshold : Action (Recording PlannedStore) _).Leaves recording
      (Scoped memory recording criteria owner threshold) := by
  unfold scope
  cases named : nonEmpty criteria.mailbox with
  | some mailbox =>
    have names : criteria.NamesMailbox := ⟨mailbox, nonEmpty_eq_some_iff.mp named⟩
    exact ⟨quiet, fun _ => ⟨rfl, _, rfl⟩, fun unnamed => absurd names unnamed⟩
  | none =>
    have unnamed : ¬criteria.NamesMailbox := by
      rintro ⟨mailbox, given⟩
      cases named.symm.trans (nonEmpty_eq_some_iff.mpr given)
    cases broad : criteria.searchable with
    | false => exact ⟨quiet, fun _ => ⟨rfl, _, rfl⟩, fun _ all => nomatch broad.symm.trans all⟩
    | true =>
      simp only [↓reduceIte, Action.leaves_map]
      apply (MailboxScope.leaves_recorded_resolve quiet identified).mono
      intro outcome final reached
      obtain ⟨asked, quiet, ended⟩ := reached
      refine ⟨quiet, ?_, ?_⟩
      · intro narrow
        rcases narrow with names | general
        · exact absurd names unnamed
        · cases broad.symm.trans general
      · intro _ _
        exact ⟨asked, ended.map some⟩

/-- Where the user is found, what else is asked is asked for the scope. -/
theorem Compiles.of_scoped (known : memory.Knows user identity) (clear : store.fails .get 1 = false)
    {outcome : Except Failure SearchFilter}
    (reached : Scoped memory ((Recording.of store).asking (lookup user) (store.counting .get)) criteria identity.id
      threshold outcome final) : Compiles memory store criteria user threshold final.requests outcome := by
  obtain ⟨document, found, -⟩ := id known
  have present : memory.get Collections.users user ≠ .ok none := by
    rw [found]
    nofun
  constructor
  · intro failing
    cases clear.symm.trans failing
  · intro _ absent
    exact absurd absent present
  · intro _ _ narrow
    exact reached.narrow narrow
  · intro _ _ unnamed all
    obtain ⟨asked, ended⟩ := reached.broad unnamed all
    rw [Recording.store_asking, MailboxScope.requests_counting_get] at asked
    rw [Recording.store_asking, MailboxScope.lacksBoth_counting_get] at ended
    exact ⟨identity, known, asked, ended⟩

private theorem leaves_recorded_compile (quiet : Quiet memory store) (identified : memory.Identified)
    (valid : ∀ document ∈ (memory.collection Collections.users).documents,
      ∃ identity, Identity.read (.object document) = .valid identity)
    (hashable : user.isHashable = true) (readable : ∀ s, criteria.uids = some s → Numeral.Readable s) :
    (criteria.compile user threshold : Action (Recording PlannedStore) _).Leaves (.of store) fun outcome final =>
      final.store.memory = memory ∧ Compiles memory store criteria user threshold final.requests outcome := by
  rw [compile, Action.leaves_bind]
  have held : Quiet memory (Recording.of store).store := quiet
  apply (leaves_recorded_owner held hashable valid).mono
  intro outcome middle reached
  obtain ⟨rfl, refused, answered⟩ := reached
  cases planned : store.fails .get 1 with
  | true =>
    have clear {claim : Prop} (clear : store.fails .get 1 = false) : claim := by
      cases planned.symm.trans clear
    rw [refused planned]
    exact ⟨quiet.held, fun _ => ⟨rfl, rfl⟩, clear, clear, clear⟩
  | false =>
    have failing {claim : Prop} (failing : store.fails .get 1 = true) : claim := by
      cases planned.symm.trans failing
    rcases answered planned with ⟨absent, rfl⟩ | ⟨identity, known, rfl⟩
    · exact ⟨quiet.held, failing, fun _ _ => ⟨rfl, rfl⟩, fun _ present => absurd absent present,
        fun _ present => absurd absent present⟩
    · rw [Action.resumes_ok, Action.leaves_bind]
      have next : Quiet memory ((Recording.of store).asking (lookup user) (store.counting .get)).store :=
        quiet.counting .get
      apply (leaves_recorded_scope next identified).mono
      intro outcome final reached
      obtain ⟨draft, made⟩ := Classical.skolem.mp (draft_of_readable readable identity.id)
      have compiles := Compiles.of_scoped known planned
        (reached.map fun scope => ⟨(draft scope).clauses, criteria.query⟩)
      cases outcome with
      | error failure => exact ⟨reached.quiet.held, compiles⟩
      | ok scope =>
        simp only [Action.resumes_ok, Action.leaves_bind, Action.leaves_ofExcept, made]
        exact ⟨reached.quiet.held, compiles⟩

/-- A search looks its user up once. What else it asks, and whether it fails, depends on its criteria, on how many
mailboxes it covers and on which of the calls are planned to fail, and on nothing else. It leaves the documents as they
are, and a store that is not recorded ends alike. -/
theorem compile_asks_what_it_needs {memory : Memory} (reachable : memory.Reachable)
    (valid : ∀ document ∈ (memory.collection Collections.users).documents,
      ∃ identity, Identity.read (.object document) = .valid identity)
    {store : PlannedStore} (quiet : Quiet memory store) {criteria : Criteria}
    (readable : ∀ s, criteria.uids = some s → Numeral.Readable s) {user : Value} (hashable : user.isHashable = true)
    (threshold : Int) :
    Recording.forget (criteria.compile user threshold (.of store)) = criteria.compile user threshold store ∧
      (criteria.compile user threshold store).state.memory = memory ∧
      Compiles memory store criteria user threshold
        (criteria.compile user threshold (Recording.of store)).state.requests
        (criteria.compile user threshold store).outcome := by
  have same : Recording.forget (criteria.compile user threshold (.of store)) = criteria.compile user threshold store :=
    Recording.mirrors_compile criteria user threshold (.of store)
  obtain ⟨kept, compiles⟩ := leaves_recorded_compile quiet reachable.identified valid hashable readable
  refine ⟨same, ?_, ?_⟩
  · rw [← same]
    exact kept
  · rw [← same]
    exact compiles

section OneMailbox

def oneMailbox : Memory :=
  ((({} : Memory).insert Collections.users [.object [("id", .text "u"), ("username", .text "u")]]).2.insert
    Collections.mailboxes [.object [("id", .text "inbox"), ("user", .text "u")]]).2

def unlisted : PlannedStore := { memory := oneMailbox, faults := [⟨.find, 1, none⟩] }

/-- The one mailbox is counted but cannot be listed, so that those left out are listed. -/
theorem compile_asks_what_it_needs_where_a_listing_fails :
    oneMailbox.Reachable ∧ Quiet oneMailbox unlisted ∧
    (Criteria.compile { searchable := true } (.text "u") 200 (Recording.of unlisted)).state.requests =
      [lookup (.text "u"), MailboxScope.probe (.text "u"), MailboxScope.listing (MailboxScope.covered (.text "u")),
        MailboxScope.listing (MailboxScope.leftOut (.text "u"))] ∧
    (∃ compiled, (Criteria.compile { searchable := true } (.text "u") 200 unlisted).outcome = .ok compiled) := by
  have reachable : oneMailbox.Reachable := (Memory.Reachable.empty.insert _ _).insert _ _
  have valid : ∀ document ∈ (oneMailbox.collection Collections.users).documents,
      ∃ identity, Identity.read (.object document) = .valid identity := by
    intro document member
    cases List.mem_singleton.mp member
    exact ⟨⟨"u", "u", none, none, []⟩, rfl⟩
  have quiet : Quiet oneMailbox unlisted := ⟨rfl, rfl⟩
  have readable : ∀ s, ({ searchable := true } : Criteria).uids = some s → Numeral.Readable s := nofun
  have hashable : (Value.text "u").isHashable = true := rfl
  obtain ⟨-, -, compiles⟩ := compile_asks_what_it_needs reachable valid quiet readable hashable 200
  have found : oneMailbox.get Collections.users (.text "u") =
      .ok (some [("id", .text "u"), ("username", .text "u")]) := rfl
  have present : oneMailbox.get Collections.users (.text "u") ≠ .ok none := by
    rw [found]
    nofun
  have unnamed : ¬({ searchable := true } : Criteria).NamesMailbox := by
    rintro ⟨mailbox, given, -⟩
    cases given
  obtain ⟨identity, known, asked, ended⟩ := compiles.broad rfl present unnamed rfl
  obtain rfl : identity = ⟨"u", "u", none, none, []⟩ := known.unique ⟨_, found, rfl⟩
  exact ⟨reachable, quiet, asked, ended⟩

end OneMailbox

end Criteria

end MailSearch

import MailSearch.Proofs.CriteriaSlots
import MailSearch.Proofs.TextPieces

/-! What criteria ask of a message, said without a filter, and that the filter drafted for them selects
just the messages that satisfy them. One kind of message comes on top: where a bound on the size is
given, a size that is an undefined number counts as within it, since it lies neither below nor above. -/

namespace MailSearch

namespace Value

/-- The value compares with the bound and is not below it. -/
def AtLeast (value bound : Value) : Prop :=
  value.compareWith bound = .ordered .eq ∨ value.compareWith bound = .ordered .gt

/-- The value compares with the bound and is not above it. -/
def AtMost (value bound : Value) : Prop :=
  value.compareWith bound = .ordered .eq ∨ value.compareWith bound = .ordered .lt

/-- The value lies within the bounds that are given. -/
def Within (value : Value) (least most : Option Value) : Prop :=
  (∀ bound, least = some bound → value.AtLeast bound) ∧ (∀ bound, most = some bound → value.AtMost bound)

/-- If a bound is given, some one value that the record offers at the path lies within the bounds. -/
def OffersWithin (record : Value) (path : String) (least most : Option Value) : Prop :=
  least.isSome ∨ most.isSome → ∃ found ∈ record.candidatesAt path, found.Within least most

end Value

/-- What a term asks of the addresses and names of a role: a term with an at sign is one of the addresses,
any other occurs in one of the names. -/
def RoleFields.Matched (fields : RoleFields) (term : String) (record : Value) : Prop :=
  if '@' ∈ term.toList then ∃ field ∈ fields.addresses, record.Offers field (.text term)
  else ∃ field ∈ fields.names, record.OffersText field ⟨term, false⟩

/-- Each word of the term begins a word of the subject. -/
def SubjectMatched (term : String) (record : Value) : Prop :=
  ∀ word ∈ Text.pieces term, record.OffersText subjectWordsField ⟨word, true⟩

namespace Criteria

/-- The text is given and not empty. -/
def Given (text : Option String) (s : String) : Prop := text = some s ∧ s ≠ ""

/-- The text is given, and this is what is left of it in normal form, if anything is. -/
def Asks (text : Option String) (term : String) : Prop :=
  ∃ s, text = some s ∧ Text.normalized s = term ∧ term ≠ ""

/-- What one of the alternatives asks of a message. The alternative query is none where there is a query
besides. -/
inductive Alternative (query : Option String) (alternatives : Alternatives) : (Value → Prop) → Prop where
  | query {s : String} (alone : ¬∃ other, Given query other) (given : Given alternatives.query s) :
      Alternative query alternatives fun record => Predicate.sharesWord s record = true
  | sender {term : String} (asked : Asks alternatives.sender term) :
      Alternative query alternatives (RoleFields.sender.Matched term)
  | recipient {term : String} (asked : Asks alternatives.recipient term) :
      Alternative query alternatives (RoleFields.recipient.Matched term)
  | subject {term : String} (asked : Asks alternatives.subject term) :
      Alternative query alternatives (SubjectMatched term)

def NamesMailbox (criteria : Criteria) : Prop := ∃ mailbox, Given criteria.mailbox mailbox

/-- A message of the user is what the criteria ask for. The scope is the one that a search across all of
the user's mailboxes is restricted to; it counts only in such a search. -/
structure Satisfied (criteria : Criteria) (user : String) (resolved : MailboxScope) (record : Value) :
    Prop where
  owner : record.Offers "user" (.text user)
  query : ∀ query, Given criteria.query query → Predicate.sharesWord query record = true
  searches : (∃ query, Given criteria.query query) ∨ criteria.seen = true ∨ criteria.unseen = true ∨
    criteria.searchable = true → record.Offers "searchable" (.bool true)
  unseen : criteria.unseen = true → record.Offers "unseen" (.bool true)
  seen : criteria.seen = true → criteria.unseen = false → record.Offers "unseen" (.bool false)
  mailbox : ∀ mailbox, Given criteria.mailbox mailbox → record.Offers "mailbox" (.text mailbox)
  scope : criteria.searchable = true → ¬criteria.NamesMailbox → (resolved.predicate "mailbox").Holds record
  uids : criteria.NamesMailbox ∨ criteria.searchable = true → ∀ condition,
    UidRange.predicate? criteria.uids "uid" = .ok (some condition) → condition.Holds record
  thread : ∀ thread, Given criteria.thread thread → record.Offers "thread" (.text thread)
  flagged : criteria.flagged = true → record.Offers "flagged" (.bool true)
  attachments : criteria.attachments = true → record.Offers "ha" (.bool true)
  dates : record.OffersWithin "idate" (criteria.dateStart.map .time) (criteria.dateEnd.map .time)
  sizes : record.OffersWithin "size" (sizeBound criteria.minSize) (sizeBound criteria.maxSize)
  sender : ∀ term, Asks criteria.sender term → RoleFields.sender.Matched term record
  recipient : ∀ term, Asks criteria.recipient term → RoleFields.recipient.Matched term record
  subject : ∀ term, Asks criteria.subject term → SubjectMatched term record
  alternatives : (∃ asks, Alternative criteria.query criteria.alternatives asks) →
    ∃ asks, Alternative criteria.query criteria.alternatives asks ∧ asks record

/-- The criteria without their bounds on the size. -/
def withoutSizes (criteria : Criteria) : Criteria := { criteria with minSize := none, maxSize := none }

variable {criteria : Criteria} {record : Value}

theorem nonEmpty_eq_some_iff {text : Option String} {s : String} : nonEmpty text = some s ↔ Given text s := by
  simp [nonEmpty, Given, Option.filter_eq_some_iff]

private theorem isSome_nonEmpty_iff {text : Option String} : (nonEmpty text).isSome = true ↔ ∃ s, Given text s := by
  simp only [Option.isSome_iff_exists, nonEmpty_eq_some_iff]

private theorem term?_eq_some_iff {text : Option String} {term : String} : term? text = some term ↔ Asks text term := by
  have empty : Text.normalized "" = "" := by decide
  simp only [term?, nonEmpty_eq_some_iff, Given, Option.map_eq_some_iff, Asks]
  constructor
  · intro holds
    obtain ⟨⟨s, ⟨given, -⟩, normal⟩, nonblank⟩ := holds
    exact ⟨s, given, normal, nonblank⟩
  · intro holds
    obtain ⟨s, given, normal, nonblank⟩ := holds
    refine ⟨⟨s, ⟨given, ?_⟩, normal⟩, nonblank⟩
    intro rfl
    exact nonblank (normal.symm.trans empty)

end Criteria

namespace RoleFields

variable {record : Value}

private theorem settled_anyField {condition : String → Predicate} (settled : ∀ field, (condition field).Settled record)
    (fields : List String) : (anyField condition fields).Settled record := by
  unfold anyField
  split
  · exact settled _
  · apply Predicate.settled_any
    intro clause member
    obtain ⟨field, -, rfl⟩ := List.mem_map.mp member
    exact settled field

private theorem holds_anyField_iff {condition : String → Predicate}
    (settled : ∀ field, (condition field).Settled record) (fields : List String) :
    (anyField condition fields).Holds record ↔ ∃ field ∈ fields, (condition field).Holds record := by
  unfold anyField
  split
  · simp
  · rw [Predicate.holds_any_iff]
    · constructor
      · intro holds
        obtain ⟨clause, member, holds⟩ := holds
        obtain ⟨field, inside, rfl⟩ := List.mem_map.mp member
        exact ⟨field, inside, holds⟩
      · intro holds
        obtain ⟨field, inside, holds⟩ := holds
        exact ⟨condition field, List.mem_map.mpr ⟨field, inside, rfl⟩, holds⟩
    · intro clause member
      obtain ⟨field, -, rfl⟩ := List.mem_map.mp member
      exact settled field

private theorem settled_condition (fields : RoleFields) (term : String) :
    (fields.condition term).Settled record := by
  unfold condition
  split
  · exact settled_anyField (fun field => Predicate.settled_eq field _) _
  · exact settled_anyField (fun field => Predicate.settled_pattern field _) _

private theorem holds_condition_iff (fields : RoleFields) (term : String) :
    (fields.condition term).Holds record ↔ fields.Matched term record := by
  unfold condition Matched
  by_cases address : '@' ∈ term.toList
  · simp only [address, List.contains_iff_mem, ↓reduceIte]
    rw [holds_anyField_iff fun field => Predicate.settled_eq field _]
    simp only [Predicate.holds_eq_iff]
  · simp only [address, List.contains_iff_mem, ↓reduceIte]
    rw [holds_anyField_iff fun field => Predicate.settled_pattern field _]
    simp only [Predicate.holds_pattern_iff]

end RoleFields

section Subject

variable {record : Value} {term : String}

private theorem settled_subjectConditions : ∀ condition ∈ subjectConditions term, condition.Settled record := by
  intro condition member
  obtain ⟨word, -, rfl⟩ := List.mem_map.mp member
  exact Predicate.settled_pattern _ _

private theorem forall_subjectConditions_iff :
    (∀ condition ∈ subjectConditions term, condition.Holds record) ↔ SubjectMatched term record := by
  simp [subjectConditions, SubjectMatched, Predicate.holds_pattern_iff]

end Subject

namespace Value

private theorem compareWith_int_undefined_iff {value : Value} {n : Int} :
    value.compareWith (.int n) = .undefined ↔ value.isUndefined = true := by
  cases value with
  | float x =>
    cases x <;> simp [compareWith, quantity?, Binary64.quantity, Quantity.ofInt, Quantity.compare?,
      Comparison.ofNumbers, isUndefined, Binary64.isUndefined]
  | _ => simp [compareWith, quantity?, Quantity.ofInt, Quantity.compare?, Comparison.ofNumbers, isUndefined]

private theorem compareWith_time_ne_undefined (value : Value) (t : Timestamp) :
    value.compareWith (.time t) ≠ .undefined := by
  cases value with
  | time other => cases compared : other.compare? t <;> simp [compareWith, Comparison.ofKinds, compared]
  | float x => cases x <;> simp [compareWith, quantity?]
  | _ => simp [compareWith, quantity?]

end Value

namespace Bounds

private theorem passes_least_iff {value bound : Value} :
    passes value (some bound) (· == .lt) = true ↔
      value.AtLeast bound ∨ value.compareWith bound = .undefined := by
  simp only [passes, Value.AtLeast]
  cases compared : value.compareWith bound with
  | ordered order => cases order <;> simp
  | _ => simp

private theorem passes_most_iff {value bound : Value} :
    passes value (some bound) (· == .gt) = true ↔
      value.AtMost bound ∨ value.compareWith bound = .undefined := by
  simp only [passes, Value.AtMost]
  cases compared : value.compareWith bound with
  | ordered order => cases order <;> simp
  | _ => simp

/-- Inclusive bounds admit what lies within them and, where it is an undefined number that they are
compared with, that number too. -/
theorem admits_inclusive_iff {value : Value} {least most : Option Value} {stray : Prop}
    (low : ∀ bound, least = some bound → (value.compareWith bound = .undefined ↔ stray))
    (high : ∀ bound, most = some bound → (value.compareWith bound = .undefined ↔ stray)) :
    ({ gte := least, lte := most } : Bounds).admits value = true ↔
      value.Within least most ∨ stray := by
  have lower : passes value least (· == .lt) = true ↔
      (∀ bound, least = some bound → value.AtLeast bound ∨ stray) := by
    cases least with
    | none => simp [passes]
    | some bound => simp [passes_least_iff, low bound rfl]
  have upper : passes value most (· == .gt) = true ↔
      (∀ bound, most = some bound → value.AtMost bound ∨ stray) := by
    cases most with
    | none => simp [passes]
    | some bound => simp [passes_most_iff, high bound rfl]
  have unbounded : passes value none (· != .gt) = true ∧ passes value none (· != .lt) = true := ⟨rfl, rfl⟩
  simp only [admits, Bool.and_eq_true, lower, upper, unbounded, and_true, Value.Within]
  by_cases astray : stray
  · simp [astray]
  · simp [astray]

end Bounds

namespace Criteria

variable {criteria : Criteria} {record : Value}

private theorem forall_rangeCondition?_iff {field : String} {least most : Option Value} :
    (∀ condition, rangeCondition? field least most = some condition → condition.Holds record) ↔
      (least.isSome ∨ most.isSome → ∃ found ∈ record.candidatesAt field,
        ({ gte := least, lte := most } : Bounds).admits found = true) := by
  unfold rangeCondition?
  by_cases bounded : least.isSome = true ∨ most.isSome = true
  · simp [bounded, Predicate.holds_range_iff]
  · simp [bounded]

private theorem forall_timeRange_iff {field : String} {start stop : Option Timestamp} :
    (∀ condition, rangeCondition? field (start.map .time) (stop.map .time) = some condition →
      condition.Holds record) ↔ record.OffersWithin field (start.map .time) (stop.map .time) := by
  have never (found : Value) (time : Option Timestamp) (bound : Value) (same : time.map .time = some bound) :
      found.compareWith bound = .undefined ↔ False := by
    obtain ⟨t, -, rfl⟩ := Option.map_eq_some_iff.mp same
    simp [Value.compareWith_time_ne_undefined]
  rw [forall_rangeCondition?_iff]
  simp only [Value.OffersWithin,
    fun found => Bounds.admits_inclusive_iff (never found start) (never found stop), or_false]

/-- A size satisfies a range between numbers when it lies within the bounds or is an undefined number. -/
theorem forall_sizeRange_iff {field : String} {least most : Option Int} :
    (∀ condition, rangeCondition? field (sizeBound least) (sizeBound most) = some condition →
      condition.Holds record) ↔
      record.OffersWithin field (sizeBound least) (sizeBound most) ∨
        ∃ found ∈ record.candidatesAt field, found.isUndefined = true := by
  have stray (found : Value) (size : Option Int) (bound : Value) (same : sizeBound size = some bound) :
      found.compareWith bound = .undefined ↔ found.isUndefined = true := by
    obtain ⟨n, -, rfl⟩ := Option.map_eq_some_iff.mp same
    exact Value.compareWith_int_undefined_iff
  rw [forall_rangeCondition?_iff]
  simp only [Value.OffersWithin, fun found => Bounds.admits_inclusive_iff (stray found least) (stray found most)]
  constructor
  · intro offered
    by_cases given : (sizeBound least).isSome = true ∨ (sizeBound most).isSome = true
    · obtain ⟨found, member, within | undefined⟩ := offered given
      · exact .inl fun _ => ⟨found, member, within⟩
      · exact .inr ⟨found, member, undefined⟩
    · exact .inl fun given' => absurd given' given
  · intro holds given
    rcases holds with offered | ⟨found, member, undefined⟩
    · obtain ⟨found, member, within⟩ := offered given
      exact ⟨found, member, .inl within⟩
    · exact ⟨found, member, .inr undefined⟩

private theorem forall_whenSet_iff {flag : Bool} {condition : Predicate} :
    (∀ found, whenSet flag condition = some found → found.Holds record) ↔
      (flag = true → condition.Holds record) := by
  cases flag <;> simp [whenSet]

private theorem forall_given_iff {text : Option String} {condition : String → Predicate} :
    (∀ found, (nonEmpty text).map condition = some found → found.Holds record) ↔
      ∀ s, Given text s → (condition s).Holds record := by
  simp only [Option.map_eq_some_iff, nonEmpty_eq_some_iff]
  constructor
  · intro all s given
    exact all _ ⟨s, given, rfl⟩
  · intro all found reached
    obtain ⟨s, given, rfl⟩ := reached
    exact all s given

private theorem forall_asked_iff {text : Option String} {property : String → Prop} :
    (∀ term ∈ (term? text).toList, property term) ↔ ∀ term, Asks text term → property term := by
  simp only [Option.mem_toList, term?_eq_some_iff]

/-- The scope of a search: the mailbox that is named or else, across all mailboxes, the resolved one. -/
def scopeWithin (criteria : Criteria) (resolved : MailboxScope) : Option MailboxScope :=
  match nonEmpty criteria.mailbox with
  | some mailbox => some (.explicit (.text mailbox))
  | none => if criteria.searchable then some resolved else none

theorem isSome_scopeWithin_iff (resolved : MailboxScope) :
    (criteria.scopeWithin resolved).isSome = true ↔ criteria.NamesMailbox ∨ criteria.searchable = true := by
  unfold scopeWithin NamesMailbox
  rw [← isSome_nonEmpty_iff]
  cases nonEmpty criteria.mailbox <;> cases criteria.searchable <;> simp

private theorem forall_scope_iff {resolved : MailboxScope} :
    (∀ condition, (criteria.scopeWithin resolved).map (·.predicate MailboxScope.standardField) = some condition →
      condition.Holds record) ↔
      (∀ mailbox, Given criteria.mailbox mailbox → record.Offers "mailbox" (.text mailbox)) ∧
        (criteria.searchable = true → ¬criteria.NamesMailbox →
          (resolved.predicate "mailbox").Holds record) := by
  unfold scopeWithin NamesMailbox
  simp only [← nonEmpty_eq_some_iff]
  cases nonEmpty criteria.mailbox with
  | some mailbox => simp [MailboxScope.predicate, Predicate.holds_eq_iff, MailboxScope.standardField]
  | none => cases criteria.searchable <;> simp [MailboxScope.standardField]

/-- The condition on message numbers that is read within the scope. -/
theorem forall_uids_iff {resolved : MailboxScope} {uids : Option Predicate}
    (read : criteria.uidCondition? (criteria.scopeWithin resolved) = .ok uids) :
    (∀ condition, uids = some condition → condition.Holds record) ↔
      (criteria.NamesMailbox ∨ criteria.searchable = true → ∀ condition,
        UidRange.predicate? criteria.uids "uid" = .ok (some condition) → condition.Holds record) := by
  rw [← isSome_scopeWithin_iff resolved]
  unfold uidCondition? at read
  cases scope : criteria.scopeWithin resolved with
  | none =>
    simp only [scope, Except.ok.injEq] at read
    simp [← read]
  | some scope' =>
    simp only [scope] at read
    simp [read]

private theorem forall_unseen_iff :
    (∀ condition, criteria.unseenCondition? = some condition → condition.Holds record) ↔
      (criteria.unseen = true → record.Offers "unseen" (.bool true)) ∧
        (criteria.seen = true → criteria.unseen = false → record.Offers "unseen" (.bool false)) := by
  unfold unseenCondition?
  cases criteria.unseen <;> cases criteria.seen <;> simp [flagCondition, Predicate.holds_eq_iff]

private theorem forall_required_iff :
    (∀ condition ∈ criteria.requiredConditions, condition.Holds record) ↔
      (∀ term, Asks criteria.sender term → RoleFields.sender.Matched term record) ∧
      (∀ term, Asks criteria.recipient term → RoleFields.recipient.Matched term record) ∧
      (∀ term, Asks criteria.subject term → SubjectMatched term record) := by
  simp only [requiredConditions, List.forall_mem_append, List.forall_mem_map, List.forall_mem_flatMap,
    RoleFields.holds_condition_iff, forall_subjectConditions_iff, forall_asked_iff, and_assoc]

private theorem settled_required : ∀ condition ∈ criteria.requiredConditions, condition.Settled record := by
  simp only [requiredConditions, List.forall_mem_append, List.forall_mem_map, List.forall_mem_flatMap]
  exact ⟨⟨fun _ _ => RoleFields.settled_condition _ _, fun _ _ => RoleFields.settled_condition _ _⟩,
    fun _ _ => settled_subjectConditions⟩

private theorem settled_together {conditions : List Predicate}
    (settled : ∀ condition ∈ conditions, condition.Settled record) :
    ∀ condition ∈ together conditions, condition.Settled record := by
  match conditions, settled with
  | [], settled => exact settled
  | [_], settled => exact settled
  | _ :: _ :: _, settled => simpa [together] using Predicate.settled_all settled

private theorem exists_together_iff {conditions : List Predicate} (some_ : conditions ≠ []) :
    (∃ condition ∈ together conditions, condition.Holds record) ↔
      ∀ condition ∈ conditions, condition.Holds record := by
  match conditions, some_ with
  | [_], _ => simp [together]
  | _ :: _ :: _, _ => simp [together, Predicate.holds_all_iff]

private theorem settled_alternatives : ∀ condition ∈ criteria.alternativeConditions, condition.Settled record := by
  simp only [alternativeConditions, List.forall_mem_append, List.forall_mem_map, List.forall_mem_flatMap]
  exact ⟨⟨⟨fun query _ => (Predicate.settled_iff.mpr ⟨_, rfl⟩), fun _ _ => RoleFields.settled_condition _ _⟩,
    fun _ _ => RoleFields.settled_condition _ _⟩, fun _ _ => settled_together settled_subjectConditions⟩

private theorem alternativeQuery?_eq_some_iff {query : String} :
    criteria.alternativeQuery? = some query ↔
      (¬∃ other, Given criteria.query other) ∧ Given criteria.alternatives.query query := by
  unfold alternativeQuery?
  rw [← isSome_nonEmpty_iff]
  cases nonEmpty criteria.query <;> simp [nonEmpty_eq_some_iff]

private theorem subjectConditions_ne_nil {text : Option String} {term : String} (asked : Asks text term) :
    subjectConditions term ≠ [] := by
  obtain ⟨s, -, rfl, nonblank⟩ := asked
  simpa [subjectConditions] using Text.pieces_normalized_ne_nil nonblank

private theorem exists_alternative_iff :
    (∃ condition ∈ criteria.alternativeConditions, condition.Holds record) ↔
      ∃ asks, Alternative criteria.query criteria.alternatives asks ∧ asks record := by
  simp only [alternativeConditions, List.mem_append, List.mem_map, List.mem_flatMap, Option.mem_toList,
    term?_eq_some_iff, alternativeQuery?_eq_some_iff]
  constructor
  · intro holds
    rcases holds with ⟨condition, ((⟨query, ⟨alone, given⟩, rfl⟩ | ⟨term, asked, rfl⟩) | ⟨term, asked, rfl⟩) |
      ⟨term, asked, member⟩, holds⟩
    · exact ⟨_, .query alone given, Predicate.holds_words_iff.mp holds⟩
    · exact ⟨_, .sender asked, (RoleFields.holds_condition_iff _ _).mp holds⟩
    · exact ⟨_, .recipient asked, (RoleFields.holds_condition_iff _ _).mp holds⟩
    · refine ⟨_, .subject asked, forall_subjectConditions_iff.mp ?_⟩
      exact (exists_together_iff (subjectConditions_ne_nil asked)).mp ⟨condition, member, holds⟩
  · intro holds
    obtain ⟨asks, alternative, satisfied⟩ := holds
    cases alternative with
    | query alone given => exact ⟨_, .inl (.inl (.inl ⟨_, ⟨alone, given⟩, rfl⟩)), Predicate.holds_words_iff.mpr satisfied⟩
    | sender asked =>
      exact ⟨_, .inl (.inl (.inr ⟨_, asked, rfl⟩)), (RoleFields.holds_condition_iff _ _).mpr satisfied⟩
    | recipient asked =>
      exact ⟨_, .inl (.inr ⟨_, asked, rfl⟩), (RoleFields.holds_condition_iff _ _).mpr satisfied⟩
    | subject asked =>
      obtain ⟨condition, member, holds⟩ :=
        (exists_together_iff (subjectConditions_ne_nil asked)).mpr (forall_subjectConditions_iff.mpr satisfied)
      exact ⟨condition, .inr ⟨_, asked, member⟩, holds⟩

private theorem alternativeConditions_ne_nil_iff :
    criteria.alternativeConditions ≠ [] ↔ ∃ asks, Alternative criteria.query criteria.alternatives asks := by
  have together_ne_nil {conditions : List Predicate} (some_ : conditions ≠ []) : together conditions ≠ [] := by
    match conditions, some_ with
    | [_], _ => simp [together]
    | _ :: _ :: _, _ => simp [together]
  constructor
  · intro given
    obtain ⟨condition, member⟩ := List.exists_mem_of_ne_nil _ given
    simp only [alternativeConditions, List.mem_append, List.mem_map, List.mem_flatMap, Option.mem_toList,
      term?_eq_some_iff, alternativeQuery?_eq_some_iff] at member
    rcases member with ((⟨_, ⟨alone, given⟩, -⟩ | ⟨_, asked, -⟩) | ⟨_, asked, -⟩) | ⟨_, asked, -⟩
    · exact ⟨_, .query alone given⟩
    · exact ⟨_, .sender asked⟩
    · exact ⟨_, .recipient asked⟩
    · exact ⟨_, .subject asked⟩
  · intro holds
    obtain ⟨asks, alternative⟩ := holds
    cases alternative with
    | query alone given =>
      simp [alternativeConditions, alternativeQuery?_eq_some_iff.mpr ⟨alone, given⟩]
    | sender asked => simp [alternativeConditions, term?_eq_some_iff.mpr asked]
    | recipient asked => simp [alternativeConditions, term?_eq_some_iff.mpr asked]
    | subject asked =>
      simp [alternativeConditions, term?_eq_some_iff.mpr asked,
        together_ne_nil (subjectConditions_ne_nil asked)]

theorem satisfied_iff {user : String} {resolved : MailboxScope} :
    criteria.Satisfied user resolved record ↔
      criteria.withoutSizes.Satisfied user resolved record ∧
        record.OffersWithin "size" (sizeBound criteria.minSize) (sizeBound criteria.maxSize) := by
  have unbounded : record.OffersWithin "size" (sizeBound none) (sizeBound none) := by
    simp [Value.OffersWithin, sizeBound]
  exact ⟨fun satisfied => ⟨{ satisfied with sizes := unbounded }, satisfied.sizes⟩,
    fun ⟨others, sizes⟩ => { others with sizes }⟩

private theorem amongSearches_iff :
    criteria.amongSearches = true ↔ (∃ query, Given criteria.query query) ∨ criteria.seen = true ∨
      criteria.unseen = true ∨ criteria.searchable = true := by
  simp [amongSearches, ← isSome_nonEmpty_iff, or_assoc]

section Draft

variable {user : String} {scope : Option MailboxScope} {uids : Option Predicate} {draft : FilterDraft}

theorem Parts.forall_slots_iff (parts : criteria.Parts user scope uids draft) {property : Predicate → Prop} :
    (∀ name condition, draft.get? name = some condition → property condition) ↔
      ∀ entry ∈ criteria.conditions user scope uids, ∀ condition, entry.2 = some condition →
        property condition := by
  have distinct : ((criteria.conditions user scope uids).map Prod.fst).Nodup := by
    simp [conditions]
  simp only [parts.slots, Option.join_eq_some_iff, Table.get?_eq_some_iff distinct]
  constructor
  · rintro all ⟨name, _⟩ member condition rfl
    exact all name condition member
  · intro all name condition member
    exact all _ member condition rfl

theorem isLeaf_of_mem_conditions (read : criteria.uidCondition? scope = .ok uids) :
    ∀ entry ∈ criteria.conditions user scope uids, ∀ condition, entry.2 = some condition → condition.IsLeaf := by
  have numbers (condition : Predicate) (made : uids = some condition) : condition.IsLeaf := by
    subst made
    cases scope with
    | none => simp [uidCondition?] at read
    | some => exact .inl ⟨_, UidRange.field?_predicate? read⟩
  have ranges (field : String) (least most : Option Value) (condition : Predicate)
      (made : rangeCondition? field least most = some condition) : condition.IsLeaf := by
    simp only [rangeCondition?, Option.ite_none_right_eq_some, Option.some.injEq] at made
    exact made.2 ▸ .inl ⟨field, rfl⟩
  have flags (flag : Bool) (field : String) (condition : Predicate)
      (made : whenSet flag (flagCondition field true) = some condition) : condition.IsLeaf := by
    simp only [whenSet, Option.ite_none_right_eq_some, Option.some.injEq] at made
    exact made.2 ▸ .inl ⟨field, rfl⟩
  simp only [conditions, List.forall_mem_cons, Option.map_eq_some_iff]
  refine ⟨?_, flags _ _, ?_, ?_, numbers, ?_, flags _ _, ?_, ranges _ _ _, flags _ _, ranges _ _ _, by simp⟩
  · intro _ same
    cases same
    exact .inl ⟨_, rfl⟩
  · intro _ reached
    obtain ⟨query, -, rfl⟩ := reached
    exact .inr ⟨query, rfl⟩
  · intro _ reached
    obtain ⟨within, -, rfl⟩ := reached
    cases within <;> exact .inl ⟨_, rfl⟩
  · intro _ reached
    obtain ⟨thread, -, rfl⟩ := reached
    exact .inl ⟨_, rfl⟩
  · intro _ made
    unfold unseenCondition? at made
    cases asked : criteria.unseen with
    | true =>
      simp only [asked, ↓reduceIte, Option.some.injEq] at made
      exact made ▸ .inl ⟨_, rfl⟩
    | false =>
      simp only [asked, Bool.false_eq_true, ↓reduceIte, Option.ite_none_right_eq_some, Option.some.injEq] at made
      exact made.2 ▸ .inl ⟨_, rfl⟩

private theorem settled_draft (made : criteria.draft user scope = .ok draft) : draft.Settled record := by
  obtain ⟨uids, read, parts⟩ := parts_of_draft made
  constructor
  · rw [parts.forall_slots_iff]
    intro entry member condition made
    exact (isLeaf_of_mem_conditions read entry member condition made).settled
  · rw [parts.required]
    exact settled_required
  · rw [parts.alternatives]
    exact settled_alternatives

theorem settled_drafted_filter (made : criteria.draft user scope = .ok draft) :
    draft.filter.Settled record := by
  obtain ⟨uids, -, parts⟩ := parts_of_draft made
  exact (settled_draft made).filter parts.distinct

/-- A message satisfies what is drafted for the criteria when it satisfies all of them but for the bounds
on the size, and its size lies within these or is an undefined number. -/
theorem holds_draft_iff {resolved : MailboxScope}
    (made : criteria.draft user (criteria.scopeWithin resolved) = .ok draft) :
    draft.filter.Holds record ↔
      criteria.withoutSizes.Satisfied user resolved record ∧
        (record.OffersWithin "size" (sizeBound criteria.minSize) (sizeBound criteria.maxSize) ∨
          ∃ found ∈ record.candidatesAt "size", found.isUndefined = true) := by
  obtain ⟨uids, read, parts⟩ := parts_of_draft made
  rw [FilterDraft.filter_holds_iff parts.distinct (settled_draft made), parts.forall_slots_iff,
    parts.required, parts.alternatives, alternativeConditions_ne_nil_iff, exists_alternative_iff,
    forall_required_iff]
  simp only [conditions, List.forall_mem_cons, forall_whenSet_iff, forall_given_iff, forall_timeRange_iff,
    forall_sizeRange_iff, forall_scope_iff, forall_uids_iff read, forall_unseen_iff, amongSearches_iff,
    Predicate.holds_eq_iff, Predicate.holds_words_iff, inSearches, flagCondition, Option.some.injEq, forall_eq']
  constructor
  · intro holds
    obtain ⟨⟨owner, searches, query, ⟨mailbox, scope⟩, uids, thread, flagged, ⟨unseen, seen⟩, dates, attachments,
      sizes, -⟩, ⟨sender, recipient, subject⟩, alternatives⟩ := holds
    refine ⟨⟨owner, query, searches, unseen, seen, mailbox, scope, uids, thread, flagged, attachments, dates, ?_,
      sender, recipient, subject, alternatives⟩, sizes⟩
    simp [Value.OffersWithin, withoutSizes, sizeBound]
  · intro holds
    obtain ⟨others, sizes⟩ := holds
    exact ⟨⟨others.owner, others.searches, others.query, ⟨others.mailbox, others.scope⟩, others.uids, others.thread,
      others.flagged, ⟨others.unseen, others.seen⟩, others.dates, others.attachments, sizes, by simp⟩,
      ⟨others.sender, others.recipient, others.subject⟩, others.alternatives⟩

end Draft

end Criteria

end MailSearch

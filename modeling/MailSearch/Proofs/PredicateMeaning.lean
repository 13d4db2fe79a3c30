import MailSearch.Predicate.Matching

/-! What each kind of condition asks of a record. A condition is settled by a record when its evaluation
ends with an answer, as it does unless it reaches a condition of no kind. -/

namespace MailSearch

/-- The record offers a value at the path that equals the given one. -/
def Value.Offers (record : Value) (path : String) (value : Value) : Prop :=
  ∃ found ∈ record.candidatesAt path, found.same value = true

/-- The record offers a text at the path that the pattern accepts. -/
def Value.OffersText (record : Value) (path : String) (pattern : Pattern) : Prop :=
  ∃ s, .text s ∈ record.candidatesAt path ∧ pattern.accepts s = true

theorem Value.agrees_text_iff {value : Value} {s : String} :
    value.agrees (.text s) = true ↔ value = .text s := by
  cases value with
  | text t => simp [Value.agrees]
  | float x => cases x <;> simp [Value.agrees, Value.quantity?]
  | _ => simp [Value.agrees, Value.quantity?]

theorem Value.at?_object {fields : Fields} {path : String} (single : Text.pathNames path = [path]) :
    (Value.object fields).at? path = fields.get? path := by
  simp only [Value.at?, single, Value.follow?]
  cases fields.get? path <;> rfl

namespace Predicate

attribute [simp] holds?

/-- The record satisfies the condition. -/
def Holds (condition : Predicate) (record : Value) : Prop := condition.holds? record = some true

/-- The evaluation of the condition on the record ends with an answer. -/
def Settled (condition : Predicate) (record : Value) : Prop := (condition.holds? record).isSome = true

variable {record : Value}

theorem settled_iff {condition : Predicate} :
    condition.Settled record ↔ ∃ answer, condition.holds? record = some answer :=
  Option.isSome_iff_exists

/-- A settled condition answers with what holds of the record. -/
theorem Settled.holds?_eq {condition : Predicate} (settled : condition.Settled record) {answer : Bool}
    (means : condition.Holds record ↔ answer = true) : condition.holds? record = some answer := by
  obtain ⟨found, evaluated⟩ := settled_iff.mp settled
  unfold Holds at means
  rw [evaluated] at means ⊢
  cases found <;> cases answer <;> simp_all

theorem holds_eq_iff {field : String} {value : Value} :
    (eq field value).Holds record ↔ record.Offers field value := by
  simp [Holds, Value.Offers]

theorem holds_range_iff {field : String} {bounds : Bounds} :
    (range field bounds).Holds record ↔ ∃ found ∈ record.candidatesAt field, bounds.admits found = true := by
  simp [Holds]

theorem holds_memberOf_iff {field : String} {values : List Value} :
    (memberOf field values).Holds record ↔
      ∃ found ∈ record.candidatesAt field, isListed values found = true := by
  simp [Holds]

theorem holds_notMemberOf_iff {field : String} {values : List Value} :
    (notMemberOf field values).Holds record ↔
      ∀ found ∈ record.candidatesAt field, isListed values found = false := by
  simp [Holds]

theorem holds_pattern_iff {field : String} {literal : Pattern} :
    (pattern field literal).Holds record ↔ record.OffersText field literal := by
  simp only [Holds, holds?, Option.some.injEq, List.any_eq_true, Value.OffersText]
  constructor
  · intro holds
    obtain ⟨found, member, accepted⟩ := holds
    cases found with
    | text s => exact ⟨s, member, by simpa [Value.text?] using accepted⟩
    | _ => simp [Value.text?] at accepted
  · intro holds
    obtain ⟨s, member, accepted⟩ := holds
    exact ⟨.text s, member, by simpa [Value.text?] using accepted⟩

theorem holds_words_iff {query : String} :
    (words query).Holds record ↔ sharesWord query record = true := by
  simp [Holds]

theorem holds_presence_iff {field : String} {present : Bool} :
    (presence field present).Holds record ↔ (record.at? field).isSome = present := by
  simp [Holds]

theorem settled_eq (field : String) (value : Value) : (eq field value).Settled record := by
  simp [Settled]

theorem settled_pattern (field : String) (literal : Pattern) :
    (pattern field literal).Settled record := by
  simp [Settled]

/-- A condition of a kind that is about a field is settled by every record. -/
theorem settled_of_field {condition : Predicate} {field : String} (about : condition.field? = some field) :
    condition.Settled record := by
  cases condition <;> simp_all [field?, Settled]

/-- The condition is one on a field, or one of full text. -/
def IsLeaf (condition : Predicate) : Prop :=
  (∃ field, condition.field? = some field) ∨ ∃ query, condition = .words query

theorem IsLeaf.settled {condition : Predicate} (leaf : condition.IsLeaf) : condition.Settled record := by
  rcases leaf with ⟨field, about⟩ | ⟨query, rfl⟩
  · exact settled_of_field about
  · exact settled_iff.mpr ⟨_, rfl⟩

theorem holds_all_iff {clauses : List Predicate} :
    (all clauses).Holds record ↔ ∀ clause ∈ clauses, clause.Holds record := by
  have evaluated : allHold? record clauses = some true ↔ ∀ clause ∈ clauses, clause.Holds record := by
    induction clauses with
    | nil => simp [allHold?]
    | cons clause rest ih =>
      rw [List.forall_mem_cons, ← ih]
      simp only [allHold?, Holds]
      rcases holds? record clause with _ | answer
      · simp
      · cases answer <;> simp
  simpa only [Holds, holds?] using evaluated

theorem settled_all {clauses : List Predicate} (settled : ∀ clause ∈ clauses, clause.Settled record) :
    (all clauses).Settled record := by
  have evaluated : (allHold? record clauses).isSome = true := by
    induction clauses with
    | nil => rfl
    | cons clause rest ih =>
      obtain ⟨here, later⟩ := List.forall_mem_cons.mp settled
      obtain ⟨answer, evaluated⟩ := settled_iff.mp here
      simp only [allHold?, evaluated]
      cases answer with
      | true => exact ih later
      | false => rfl
  simpa only [Settled, holds?] using evaluated

/-- Where no clause goes without an answer, a disjunction holds as soon as one of its clauses does. -/
theorem holds_any_iff {clauses : List Predicate} (settled : ∀ clause ∈ clauses, clause.Settled record) :
    (any clauses).Holds record ↔ ∃ clause ∈ clauses, clause.Holds record := by
  have evaluated : anyHolds? record clauses = some true ↔ ∃ clause ∈ clauses, clause.Holds record := by
    induction clauses with
    | nil => simp [anyHolds?]
    | cons clause rest ih =>
      obtain ⟨here, later⟩ := List.forall_mem_cons.mp settled
      obtain ⟨answer, evaluated⟩ := settled_iff.mp here
      simp only [List.mem_cons, exists_eq_or_imp, ← ih later]
      simp only [anyHolds?, Holds, evaluated]
      cases answer <;> simp
  simpa only [Holds, holds?] using evaluated

theorem settled_any {clauses : List Predicate} (settled : ∀ clause ∈ clauses, clause.Settled record) :
    (any clauses).Settled record := by
  have evaluated : (anyHolds? record clauses).isSome = true := by
    induction clauses with
    | nil => rfl
    | cons clause rest ih =>
      obtain ⟨here, later⟩ := List.forall_mem_cons.mp settled
      obtain ⟨answer, evaluated⟩ := settled_iff.mp here
      simp only [anyHolds?, evaluated]
      cases answer with
      | true => rfl
      | false => exact ih later
  simpa only [Settled, holds?] using evaluated

end Predicate

end MailSearch

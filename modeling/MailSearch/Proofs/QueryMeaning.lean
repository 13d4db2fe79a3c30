import MailSearch.Elastic.Query

/-! What a rendered filter asks of the search server. A query as it is sent is matched by the rules for
combined clauses, from the leaf clauses that match; whichever these are, it matches just when the filter
that it was rendered from asks for it. A filter cannot be rendered just when a condition of no kind stands
somewhere in it. -/

namespace MailSearch

namespace Elastic.Query

mutual

/-- Whether a query as it is sent matches, where `leaf` tells which clauses match that combine no others. -/
def matched (leaf : Value → Bool) : Value → Bool
  | .object [("match_all", _)] => true
  | .object [("bool", .object sections)] =>
    let least := match Table.get? sections "minimum_should_match" with
      | some (.int n) => n
      | _ => 0
    sectionsMatched leaf least sections
  | clause => leaf clause

/-- All clauses of filters and all that must match do, none does that must not, and of the optional ones
at least so many. -/
def sectionsMatched (leaf : Value → Bool) (least : Int) : List (String × Value) → Bool
  | [] => true
  | (name, .list clauses) :: rest =>
    (match name with
      | "filter" | "must" => countMatched leaf clauses == clauses.length
      | "must_not" => countMatched leaf clauses == 0
      | "should" => least ≤ countMatched leaf clauses
      | _ => true) && sectionsMatched leaf least rest
  | _ :: rest => sectionsMatched leaf least rest

def countMatched (leaf : Value → Bool) : List Value → Nat
  | [] => 0
  | clause :: rest => (matched leaf clause).toNat + countMatched leaf rest

end

variable {leaf : Value → Bool}

private theorem toValues_eq_map (queries : List Query) : toValues queries = queries.map toValue := by
  induction queries with
  | nil => rfl
  | cons query rest ih => rw [toValues, ih, List.map_cons]

private theorem countMatched_eq_countP (clauses : List Value) :
    countMatched leaf clauses = clauses.countP (matched leaf) := by
  induction clauses with
  | nil => rfl
  | cons clause rest ih =>
    rw [countMatched, ih, List.countP_cons, Nat.add_comm]
    cases matched leaf clause <;> rfl

private theorem countMatched_toValues (queries : List Query) :
    countMatched leaf (toValues queries) = queries.countP (matched leaf ·.toValue) := by
  rw [toValues_eq_map, countMatched_eq_countP, List.countP_map]
  rfl

private theorem countMatched_beq_length (queries : List Query) :
    (countMatched leaf (toValues queries) == (toValues queries).length) = queries.all (matched leaf ·.toValue) := by
  rw [Bool.eq_iff_iff, beq_iff_eq, countMatched_toValues, toValues_eq_map, List.length_map, List.countP_eq_length,
    List.all_eq_true]

private theorem matched_negated (query : Query) :
    matched leaf (negated query).toValue = !matched leaf query.toValue := by
  have section_ : (negated query).toValue = .object [("bool", .object [("must_not", .list [query.toValue])])] := by
    simp [negated, toValue, toValues, combination, single]
  rw [section_]
  simp only [matched, sectionsMatched, countMatched]
  cases matched leaf query.toValue <;> rfl

/-- What counts for the ranking is written apart, and has to match all the same. -/
theorem matched_conjunction (queries : List Query) :
    matched leaf (conjunction queries).toValue = queries.all (matched leaf ·.toValue) := by
  have parted : queries.all (matched leaf ·.toValue) =
      ((queries.filter (!·.isFullText)).all (matched leaf ·.toValue) &&
        (queries.filter isFullText).all (matched leaf ·.toValue)) := by
    rw [Bool.eq_iff_iff]
    simp only [List.all_filter, Bool.and_eq_true, List.all_eq_true, ← forall_and]
    refine forall_congr' fun query => ?_
    cases query.isFullText <;> simp
  rw [parted, ← countMatched_beq_length, ← countMatched_beq_length]
  cases ranked : queries.filter isFullText with
  | nil => simp [conjunction, ranked, toValue, toValues, combination, single, matched, sectionsMatched, countMatched]
  | cons => simp [conjunction, ranked, toValue, toValues, combination, single, matched, sectionsMatched]

private theorem matched_disjunction (queries : List Query) :
    matched leaf (disjunction queries).toValue = queries.any (matched leaf ·.toValue) := by
  have section_ : (disjunction queries).toValue =
      .object [("bool", .object [("should", .list (toValues queries)), ("minimum_should_match", .int 1)])] := by
    simp [disjunction, toValue, toValues, combination, single]
  rw [section_, Bool.eq_iff_iff, List.any_eq_true, ← List.countP_pos_iff, ← countMatched_toValues]
  simp [matched, sectionsMatched, Table.get?]
  omega

end Elastic.Query

namespace Predicate

/-- One filter stands somewhere in another. -/
inductive Part (part : Predicate) : Predicate → Prop where
  | whole : Part part part
  | all {clauses : List Predicate} {clause : Predicate} (member : clause ∈ clauses) (inside : Part part clause) :
      Part part (.all clauses)
  | any {clauses : List Predicate} {clause : Predicate} (member : clause ∈ clauses) (inside : Part part clause) :
      Part part (.any clauses)

/-- The clause that a condition is sent as. -/
def clause (condition : Predicate) : Value :=
  ((Elastic.Query.ofPredicate? condition).map Elastic.Query.toValue).getD .null

mutual

/-- What a filter asks for, where `leaf` tells which clauses match. -/
def asks (leaf : Value → Bool) : Predicate → Bool
  | .all clauses => allAsk leaf clauses
  | .any clauses => anyAsks leaf clauses
  | .notMemberOf field values => !leaf (clause (.memberOf field values))
  | .presence field false => !leaf (clause (.presence field true))
  | condition => leaf (clause condition)

def allAsk (leaf : Value → Bool) : List Predicate → Bool
  | [] => true
  | clause :: rest => asks leaf clause && allAsk leaf rest

def anyAsks (leaf : Value → Bool) : List Predicate → Bool
  | [] => false
  | clause :: rest => asks leaf clause || anyAsks leaf rest

end

variable {leaf : Value → Bool}

private theorem allAsk_eq_all (clauses : List Predicate) : allAsk leaf clauses = clauses.all (asks leaf) := by
  induction clauses with
  | nil => rfl
  | cons clause rest ih => rw [allAsk, ih, List.all_cons]

private theorem anyAsks_eq_any (clauses : List Predicate) : anyAsks leaf clauses = clauses.any (asks leaf) := by
  induction clauses with
  | nil => rfl
  | cons clause rest ih => rw [anyAsks, ih, List.any_cons]

open Elastic Elastic.Query

theorem part_all_iff (part : Predicate) {clauses : List Predicate} (other : part ≠ .all clauses) :
    Part part (.all clauses) ↔ ∃ clause ∈ clauses, Part part clause := by
  constructor
  · intro stands
    cases stands with
    | whole => exact absurd rfl other
    | all member inside => exact ⟨_, member, inside⟩
  · intro stands
    obtain ⟨clause, member, inside⟩ := stands
    exact .all member inside

theorem part_any_iff (part : Predicate) {clauses : List Predicate} (other : part ≠ .any clauses) :
    Part part (.any clauses) ↔ ∃ clause ∈ clauses, Part part clause := by
  constructor
  · intro stands
    cases stands with
    | whole => exact absurd rfl other
    | any member inside => exact ⟨_, member, inside⟩
  · intro stands
    obtain ⟨clause, member, inside⟩ := stands
    exact .any member inside

mutual

/-- Rendering looks at every clause, so that a condition of no kind is found wherever it stands. -/
theorem ofPredicate?_eq_none_iff (filter : Predicate) : ofPredicate? filter = none ↔ Part .bare filter := by
  cases filter with
  | all clauses =>
    rw [part_all_iff .bare nofun, ← ofPredicates?_eq_none_iff clauses, ofPredicate?, Option.map_eq_none_iff]
  | any clauses =>
    rw [part_any_iff .bare nofun, ← ofPredicates?_eq_none_iff clauses, ofPredicate?, Option.map_eq_none_iff]
  | bare => exact ⟨fun _ => .whole, fun _ => rfl⟩
  | _ =>
    constructor
    · intro failed
      cases failed
    · intro stands
      cases stands

private theorem ofPredicates?_eq_none_iff (clauses : List Predicate) :
    ofPredicates? clauses = none ↔ ∃ clause ∈ clauses, Part .bare clause := by
  match clauses with
  | [] => simp [ofPredicates?]
  | clause :: rest =>
    simp only [List.mem_cons, exists_eq_or_imp]
    rw [← ofPredicate?_eq_none_iff clause, ← ofPredicates?_eq_none_iff rest, ofPredicates?]
    cases ofPredicate? clause with
    | none => simp
    | some query => cases ofPredicates? rest <;> simp

end

mutual

/-- Whatever leaf clauses match, a query is matched when the filter that it renders asks for it. -/
theorem matched_toValue (filter : Predicate) {query : Query} (rendered : ofPredicate? filter = some query) :
    matched leaf query.toValue = filter.asks leaf := by
  cases filter with
  | all clauses =>
    obtain ⟨queries, each, rfl⟩ := Option.map_eq_some_iff.mp rendered
    have same := congrArg (List.all · id) (map_matched_toValue clauses each)
    simpa only [matched_conjunction, asks, allAsk_eq_all, List.all_map, Function.id_comp] using same
  | any clauses =>
    obtain ⟨queries, each, rfl⟩ := Option.map_eq_some_iff.mp rendered
    have same := congrArg (List.any · id) (map_matched_toValue clauses each)
    simpa only [matched_disjunction, asks, anyAsks_eq_any, List.any_map, Function.id_comp] using same
  | notMemberOf field values =>
    cases rendered
    exact matched_negated _
  | presence field wanted =>
    cases rendered
    cases wanted with
    | true => rfl
    | false => exact matched_negated _
  | pattern field literal =>
    cases rendered
    obtain ⟨text, anchored⟩ := literal
    cases anchored <;> rfl
  | bare => cases rendered
  | _ =>
    cases rendered
    rfl

private theorem map_matched_toValue (clauses : List Predicate) {queries : List Query}
    (rendered : ofPredicates? clauses = some queries) :
    queries.map (matched leaf ·.toValue) = clauses.map (asks leaf) := by
  match clauses with
  | [] =>
    cases rendered
    rfl
  | clause :: rest =>
    rw [ofPredicates?] at rendered
    cases first : ofPredicate? clause with
    | none => simp [first] at rendered
    | some query =>
      cases others : ofPredicates? rest with
      | none => simp [first, others] at rendered
      | some later =>
        simp only [first, others, Option.some.injEq] at rendered
        subst rendered
        rw [List.map_cons, List.map_cons, matched_toValue clause first, map_matched_toValue rest others]

end

end Predicate

end MailSearch

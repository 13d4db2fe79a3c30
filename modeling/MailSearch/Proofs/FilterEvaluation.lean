import MailSearch.Proofs.QueryMeaning
import MailSearch.Proofs.RangeLimits

/-! How a filter is evaluated. The clauses of a conjunction are put to the record from the left up to the first that
answers false, those of a disjunction up to the first that answers true. Every evaluation either ends with an answer or
comes to a condition of no kind, and the latter only where one stands in the filter. Where a text is compared it is one
whose characters are known: a text with half a pair of code units is equal to none. -/

namespace MailSearch

namespace Predicate

/-- The evaluation from the left ends with the answer. -/
inductive Answers (record : Value) : Predicate → Bool → Prop where
  | leaf {condition : Predicate} {answer : Bool} (leaf : condition.IsLeaf)
      (evaluated : condition.holds? record = some answer) : Answers record condition answer
  | all {clauses : List Predicate} (each : ∀ clause ∈ clauses, Answers record clause true) :
      Answers record (.all clauses) true
  | notAll {before rest : List Predicate} {clause : Predicate} (each : ∀ earlier ∈ before, Answers record earlier true)
      (stops : Answers record clause false) : Answers record (.all (before ++ clause :: rest)) false
  | any {before rest : List Predicate} {clause : Predicate} (none : ∀ earlier ∈ before, Answers record earlier false)
      (stops : Answers record clause true) : Answers record (.any (before ++ clause :: rest)) true
  | notAny {clauses : List Predicate} (none : ∀ clause ∈ clauses, Answers record clause false) :
      Answers record (.any clauses) false

/-- The evaluation from the left comes to a condition of no kind. -/
inductive ReachesBare (record : Value) : Predicate → Prop where
  | bare : ReachesBare record .bare
  | all {before rest : List Predicate} {clause : Predicate} (each : ∀ earlier ∈ before, Answers record earlier true)
      (reached : ReachesBare record clause) : ReachesBare record (.all (before ++ clause :: rest))
  | any {before rest : List Predicate} {clause : Predicate} (none : ∀ earlier ∈ before, Answers record earlier false)
      (reached : ReachesBare record clause) : ReachesBare record (.any (before ++ clause :: rest))

variable {record : Value} {condition : Predicate}

private theorem allHold?_append {before : List Predicate} (each : ∀ clause ∈ before, clause.holds? record = some true)
    (rest : List Predicate) : allHold? record (before ++ rest) = allHold? record rest := by
  induction before with
  | nil => rfl
  | cons clause before ih =>
    obtain ⟨here, later⟩ := List.forall_mem_cons.mp each
    simp only [List.cons_append, allHold?, here, ih later]

private theorem anyHolds?_append {before : List Predicate} (none : ∀ clause ∈ before, clause.holds? record = some false)
    (rest : List Predicate) : anyHolds? record (before ++ rest) = anyHolds? record rest := by
  induction before with
  | nil => rfl
  | cons clause before ih =>
    obtain ⟨here, later⟩ := List.forall_mem_cons.mp none
    simp only [List.cons_append, anyHolds?, here, ih later]

private theorem Answers.evaluated {answer : Bool} (answers : Answers record condition answer) :
    condition.holds? record = some answer := by
  induction answers with
  | leaf leaf evaluated => exact evaluated
  | all each ih => simpa [allHold?] using allHold?_append ih []
  | notAll each stops ih here => simp [allHold?_append ih, allHold?, here]
  | any none stops ih here => simp [anyHolds?_append ih, anyHolds?, here]
  | notAny none ih => simpa [anyHolds?] using anyHolds?_append ih []

private theorem ReachesBare.evaluated (reached : ReachesBare record condition) : condition.holds? record = none := by
  induction reached with
  | bare => rfl
  | all each reached here => simp [allHold?_append fun clause member => (each clause member).evaluated, allHold?, here]
  | any none reached here => simp [anyHolds?_append fun clause member => (none clause member).evaluated, anyHolds?, here]

private theorem ReachesBare.part (reached : ReachesBare record condition) : Part .bare condition := by
  induction reached with
  | bare => exact .whole
  | all each reached inside => exact .all List.mem_append_cons_self inside
  | any none reached inside => exact .any List.mem_append_cons_self inside

/-- The evaluation of clauses goes past all of them, or it stops at one, where `stop` is the answer to stop at. -/
def Scanned (record : Value) (stop : Bool) (clauses : List Predicate) : Prop :=
  (∀ clause ∈ clauses, Answers record clause !stop) ∨
    ∃ before clause rest, clauses = before ++ clause :: rest ∧ (∀ earlier ∈ before, Answers record earlier !stop) ∧
      (Answers record clause stop ∨ ReachesBare record clause)

private theorem Scanned.cons {stop : Bool} {clause : Predicate} {clauses : List Predicate}
    (passed : Answers record clause !stop) (scanned : Scanned record stop clauses) :
    Scanned record stop (clause :: clauses) := by
  rcases scanned with all | ⟨before, next, rest, rfl, earlier, stopped⟩
  · exact .inl (List.forall_mem_cons.mpr ⟨passed, all⟩)
  · exact .inr ⟨clause :: before, next, rest, rfl, List.forall_mem_cons.mpr ⟨passed, earlier⟩, stopped⟩

mutual

private theorem answers_or_reaches (record : Value) (condition : Predicate) :
    (∃ answer, Answers record condition answer) ∨ ReachesBare record condition := by
  match condition with
  | .bare => exact .inr .bare
  | .all clauses =>
    rcases scanned record false clauses with all | ⟨before, clause, rest, rfl, earlier, stops | reached⟩
    · exact .inl ⟨true, .all all⟩
    · exact .inl ⟨false, .notAll earlier stops⟩
    · exact .inr (.all earlier reached)
  | .any clauses =>
    rcases scanned record true clauses with none | ⟨before, clause, rest, rfl, earlier, stops | reached⟩
    · exact .inl ⟨false, .notAny none⟩
    · exact .inl ⟨true, .any earlier stops⟩
    · exact .inr (.any earlier reached)
  | .eq .. | .range .. | .memberOf .. | .notMemberOf .. | .pattern .. | .presence .. =>
    exact .inl ⟨_, .leaf (.inl ⟨_, rfl⟩) rfl⟩
  | .words _ => exact .inl ⟨_, .leaf (.inr ⟨_, rfl⟩) rfl⟩

private theorem scanned (record : Value) (stop : Bool) (clauses : List Predicate) : Scanned record stop clauses := by
  match clauses with
  | [] => exact .inl nofun
  | clause :: rest =>
    rcases answers_or_reaches record clause with ⟨answer, answers⟩ | reached
    · by_cases stops : answer = stop
      · subst stops
        exact .inr ⟨[], clause, rest, rfl, nofun, .inl answers⟩
      · obtain rfl : answer = !stop := Bool.eq_not.mpr stops
        exact (scanned record stop rest).cons answers
    · exact .inr ⟨[], clause, rest, rfl, nofun, .inr reached⟩

end

private theorem holds?_eq_some_iff {answer : Bool} :
    condition.holds? record = some answer ↔ Answers record condition answer := by
  refine ⟨fun evaluated => ?_, Answers.evaluated⟩
  rcases answers_or_reaches record condition with ⟨other, answers⟩ | reached
  · obtain rfl : other = answer := Option.some.inj (answers.evaluated.symm.trans evaluated)
    exact answers
  · cases reached.evaluated.symm.trans evaluated

private theorem holds?_eq_none_iff : condition.holds? record = none ↔ ReachesBare record condition := by
  refine ⟨fun failed => ?_, ReachesBare.evaluated⟩
  rcases answers_or_reaches record condition with ⟨answer, answers⟩ | reached
  · cases answers.evaluated.symm.trans failed
  · exact reached

private theorem settled_of_not_part (kinds : ¬Part .bare condition) : condition.Settled record := by
  rcases answers_or_reaches record condition with ⟨answer, answers⟩ | reached
  · exact settled_iff.mpr ⟨answer, answers.evaluated⟩
  · exact absurd reached.part kinds

private theorem holds_range_iff_contains_or_strays {field : String} {bounds : Bounds} :
    (range field bounds).Holds record ↔
      ∃ found ∈ record.candidatesAt field, bounds.Contains found ∨ bounds.Strays found := by
  simp only [holds_range_iff, Bounds.admits_iff_contains_or_strays]

/-- A range asks for a value that satisfies all bounds, unless none does and only an undefined number goes through. -/
theorem holds_range_iff_contains_iff {field : String} {bounds : Bounds} :
    ((range field bounds).Holds record ↔ ∃ found ∈ record.candidatesAt field, bounds.Contains found) ↔
      (∃ found ∈ record.candidatesAt field, bounds.Contains found) ∨
        ∀ found ∈ record.candidatesAt field, ¬bounds.Strays found := by
  rw [holds_range_iff_contains_or_strays]
  constructor
  · intro exactly
    by_cases contained : ∃ found ∈ record.candidatesAt field, bounds.Contains found
    · exact .inl contained
    · exact .inr fun found member strays => contained (exactly.mp ⟨found, member, .inr strays⟩)
  · rintro (⟨found, member, contains⟩ | none)
    · exact iff_of_true ⟨found, member, .inl contains⟩ ⟨found, member, contains⟩
    · exact exists_congr fun found => and_congr_right fun member => or_iff_left (none found member)

/-- Evaluation gives no answer just where it comes, from the left, to a condition of no kind. A range asks for one value
that satisfies all its bounds, in whatever order they are examined, but for values that stray. -/
theorem evaluation_fails_only_at_bare_conditions (condition : Predicate) (record : Value) :
    (¬Part .bare condition → ∃ answer, condition.holds? record = some answer) ∧
    (∀ answer, condition.holds? record = some answer ↔ Answers record condition answer) ∧
    (condition.holds? record = none ↔ ReachesBare record condition) ∧
    ∀ field bounds,
      ((range field bounds).Holds record ↔
        ∃ found ∈ record.candidatesAt field, bounds.Contains found ∨ bounds.Strays found) ∧
      (((range field bounds).Holds record ↔ ∃ found ∈ record.candidatesAt field, bounds.Contains found) ↔
        (∃ found ∈ record.candidatesAt field, bounds.Contains found) ∨
          ∀ found ∈ record.candidatesAt field, ¬bounds.Strays found) ∧
      ∀ found,
        (∀ side limit, bounds.limit? side = some limit →
          found.compareWith limit = .incomparable → bounds.admits found = false) ∧
        (∀ checks, (∀ side limit, (side, limit) ∈ checks ↔ bounds.limit? side = some limit) →
          (bounds.admits found = true ↔ Bounds.examine found checks = .ok true)) ∧
        (found.hasUndefined = false →
          (∀ side limit, bounds.limit? side = some limit → limit.hasUndefined = false) → ¬bounds.Strays found) := by
  refine ⟨fun kinds => settled_iff.mp (settled_of_not_part kinds), fun _ => holds?_eq_some_iff, holds?_eq_none_iff, ?_⟩
  intro field bounds
  refine ⟨holds_range_iff_contains_or_strays, holds_range_iff_contains_iff, fun found => ⟨?_, ?_, ?_⟩⟩
  · exact fun side limit => Bounds.not_admits_of_incomparable
  · exact fun checks => Bounds.admits_iff_examine
  · exact Bounds.not_strays_of_defined

section MixedValues

/-- Sizes of several kinds, the last of which is a number. -/
def mixedSizes : Value := .object [("size", .list [.null, .text "7", .list [.int 7], .bytes [55], .int 7])]

def middleSizes : Bounds := { gte := some (.int 5), lte := some (.int 9) }

def middling : Predicate := .any [.words "", .all [.range "size" middleSizes]]

theorem evaluation_fails_only_at_bare_conditions_on_mixed_sizes :
    ¬Part .bare middling ∧ (∃ answer, middling.holds? mixedSizes = some answer) ∧
    ((range "size" middleSizes).Holds mixedSizes ↔
      ∃ found ∈ mixedSizes.candidatesAt "size", middleSizes.Contains found) ∧
    middleSizes.admits (.text "7") = false ∧
    (middleSizes.admits (.int 7) = true ↔ Bounds.examine (.int 7) [(.lte, .int 9), (.gte, .int 5)] = .ok true) := by
  have kinds : ¬Part .bare middling := (ofPredicate?_eq_none_iff middling).not.mp (by decide)
  have limits : ∀ side limit, middleSizes.limit? side = some limit → limit.hasUndefined = false := by
    intro side limit there
    cases side <;> cases there <;> rfl
  have given : ∀ side limit, (side, limit) ∈ [(Bounds.Side.lte, Value.int 9), (.gte, .int 5)] ↔
      middleSizes.limit? side = some limit := by
    intro side limit
    cases side <;> simp [middleSizes, Bounds.limit?, eq_comm]
  obtain ⟨ends, -, -, ranges⟩ := evaluation_fails_only_at_bare_conditions middling mixedSizes
  obtain ⟨-, exactly, each⟩ := ranges "size" middleSizes
  refine ⟨kinds, ends kinds, exactly.mpr (.inr ?_), ?_, ?_⟩
  · intro found member
    refine (each found).2.2 ?_ limits
    revert found
    decide
  · exact (each (.text "7")).1 .gte (.int 5) rfl rfl
  · exact (each (.int 7)).2.1 _ given

/-- A range takes a number that is undefined, though there is no order between it and the bound. -/
theorem undefined_number_passes_a_least_size :
    (range "size" { gte := some (.int 5) }).Holds (.object [("size", .float (.undefined 0))]) ∧
    ∀ found ∈ (Value.object [("size", .float (.undefined 0))]).candidatesAt "size",
      ¬Bounds.Contains { gte := some (.int 5) } found := by
  refine ⟨rfl, ?_⟩
  intro found member contains
  obtain rfl : found = .float (.undefined 0) := List.mem_singleton.mp member
  obtain ⟨order, compared, -⟩ := contains .gte (.int 5) rfl
  cases compared

end MixedValues

end Predicate

end MailSearch

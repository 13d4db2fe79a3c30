import MailSearch.Proofs.DraftHistories
import MailSearch.Proofs.IdOrder

/-! What merging bounds into a range makes of it. Bounds that are given take the place of the old ones, and the
inclusive bounds that are not given stay; exclusive ones are dropped. A record whose only value in the field violates a
bound that is there afterwards does not satisfy the filter. -/

namespace MailSearch

namespace Bounds

/-- The four bounds that a range may have. -/
inductive Side where
  | gte
  | lte
  | gt
  | lt
  deriving DecidableEq, Repr

def limit? (bounds : Bounds) : Side → Option Value
  | .gte => bounds.gte
  | .lte => bounds.lte
  | .gt => bounds.gt
  | .lt => bounds.lt

namespace Side

def isInclusive : Side → Bool
  | gte | lte => true
  | gt | lt => false

/-- Whether the bound refuses a value that has this order to its limit. -/
def refuses : Side → Ordering → Bool
  | gte => (· == .lt)
  | lte => (· == .gt)
  | gt => (· != .gt)
  | lt => (· != .lt)

/-- The limits that are given for inclusive bounds. -/
def given? (gte lte : Option Value) : Side → Option Value
  | .gte => gte
  | .lte => lte
  | .gt | .lt => none

/-- The value lies where the bound refuses it, or is of a kind that has no order to the limit. -/
def Violated (side : Side) (value limit : Value) : Prop :=
  (∃ order, value.compareWith limit = .ordered order ∧ side.refuses order = true) ∨
    value.compareWith limit = .incomparable

end Side

variable {bounds : Bounds} {value limit : Value} {side : Side}

theorem passes_iff_not_violated : passes value (some limit) side.refuses = true ↔ ¬side.Violated value limit := by
  cases compared : value.compareWith limit with
  | ordered order => simp [passes, Side.Violated, compared]
  | undefined | incomparable => simp [passes, Side.Violated, compared]

theorem not_violated_of_admits (admitted : bounds.admits value = true) (there : bounds.limit? side = some limit) :
    ¬side.Violated value limit := by
  simp only [admits, Bool.and_eq_true] at admitted
  obtain ⟨⟨⟨least, most⟩, above⟩, below⟩ := admitted
  rw [← passes_iff_not_violated, ← there]
  cases side with
  | gte => exact least
  | lte => exact most
  | gt => exact above
  | lt => exact below

end Bounds

namespace FilterDraft

open Bounds

variable {draft : FilterDraft} {field other : String} {bounds : Bounds} {record value limit : Value} {side : Side}

private theorem limit?_mergedBounds (other : String) (bounds : Bounds) (gte lte : Option Value) (side : Side) :
    (mergedBounds (some (.range other bounds)) gte lte).limit? side =
      (side.given? gte lte).or (if side.isInclusive then bounds.limit? side else none) := by
  cases side <;> rfl

/-- All bounds that are not given stay just when none of them is exclusive. -/
theorem keeps_limits_iff (other : String) (bounds : Bounds) (gte lte : Option Value) :
    (∀ side : Side, side.given? gte lte = none →
      (mergedBounds (some (.range other bounds)) gte lte).limit? side = bounds.limit? side) ↔
        bounds.gt = none ∧ bounds.lt = none := by
  constructor
  · intro stay
    exact ⟨(stay .gt rfl).symm, (stay .lt rfl).symm⟩
  · intro inclusive side absent
    rw [limit?_mergedBounds, absent, Option.none_or]
    cases side with
    | gte | lte => rfl
    | gt => exact inclusive.1.symm
    | lt => exact inclusive.2.symm

/-- A record satisfies the finished filter only if it satisfies the condition in each slot. -/
theorem holds_of_get? (distinct : draft.Distinct) {name : String} {condition : Predicate}
    (held : draft.get? name = some condition) (holds : draft.filter.Holds record) : condition.Holds record := by
  refine Predicate.holds_all_iff.mp holds condition ?_
  have placed : condition ∈ draft.slots.map Prod.snd :=
    List.mem_map_of_mem (f := Prod.snd) ((Table.get?_eq_some_iff distinct).mp held)
  exact List.mem_append_left _ (List.mem_append_left _ placed)

private theorem not_holds_of_violated (distinct : draft.Distinct) (held : draft.get? field = some (.range field bounds))
    (single : record.candidatesAt field = [value]) (there : bounds.limit? side = some limit)
    (violated : side.Violated value limit) : ¬draft.filter.Holds record := by
  intro holds
  obtain ⟨found, member, admitted⟩ := Predicate.holds_range_iff.mp (holds_of_get? distinct held holds)
  rw [single, List.mem_singleton] at member
  exact not_violated_of_admits (member ▸ admitted) there violated

/-- Merging bounds into a range leaves one range in its place, with the bounds that are given and, of the others, the
inclusive ones that were there. -/
theorem merging_keeps_inclusive_bounds (history : List Change) {field other : String} {bounds : Bounds}
    (held : (({} : FilterDraft).after history).get? field = some (.range other bounds)) (gte lte : Option Value) :
    ∃ merged new, merged = (({} : FilterDraft).after history).mergeRange field gte lte ∧
      merged.get? field = some (.range field new) ∧
      merged.slots.map Prod.fst = (({} : FilterDraft).after history).slots.map Prod.fst ∧
      (∀ name, name ≠ field → merged.get? name = (({} : FilterDraft).after history).get? name) ∧
      (∀ side, new.limit? side =
        (side.given? gte lte).or (if side.isInclusive then bounds.limit? side else none)) ∧
      ((∀ side : Side, side.given? gte lte = none → new.limit? side = bounds.limit? side) ↔
        bounds.gt = none ∧ bounds.lt = none) ∧
      ∀ record value, record.candidatesAt field = [value] → ∀ side limit, new.limit? side = some limit →
        side.Violated value limit → ¬merged.filter.Holds record := by
  have distinct : (({} : FilterDraft).after history).Distinct := distinct_empty.after history
  have merged (name : String) : ((({} : FilterDraft).after history).mergeRange field gte lte).get? name = _ :=
    get?_mergeRange field gte lte name
  rw [held] at merged
  have there : field ∈ (({} : FilterDraft).after history).slots.map Prod.fst :=
    List.mem_map_of_mem (f := Prod.fst) ((Table.get?_eq_some_iff distinct).mp held)
  refine ⟨_, mergedBounds (some (.range other bounds)) gte lte, rfl, ?_, ?_, ?_, ?_, ?_, ?_⟩
  · rw [merged, if_pos rfl]
  · exact (Table.names_put _ _ _).trans (if_pos there)
  · intro name different
    rw [merged, if_neg (Ne.symm different)]
  · exact limit?_mergedBounds other bounds gte lte
  · exact keeps_limits_iff other bounds gte lte
  · intro record value single side limit kept violated
    refine not_holds_of_violated (distinct.mergeRange field gte lte) ?_ single kept violated
    rw [merged, if_pos rfl]

section Sizes

/-- A least size that was merged in. -/
def leastSize : List Change := [.set (.eq "user" (.text "u")), .mergeRange "size" (some (.int 10)) none]

theorem merging_keeps_inclusive_bounds_of_a_least_size :
    (({} : FilterDraft).after leastSize).get? "size" = some (.range "size" { gte := some (.int 10) }) ∧
    ∃ merged new, merged = (({} : FilterDraft).after leastSize).mergeRange "size" none (some (.int 20)) ∧
      merged.get? "size" = some (.range "size" new) ∧ new.limit? .gte = some (.int 10) ∧
      new.limit? .lte = some (.int 20) ∧
      ¬merged.filter.Holds (.object [("user", .text "u"), ("size", .int 5)]) := by
  have held : (({} : FilterDraft).after leastSize).get? "size" = some (.range "size" { gte := some (.int 10) }) := rfl
  obtain ⟨merged, new, made, there, -, -, limits, -, refused⟩ :=
    merging_keeps_inclusive_bounds leastSize held none (some (.int 20))
  refine ⟨held, merged, new, made, there, limits .gte, limits .lte, ?_⟩
  exact refused _ (.int 5) rfl .gte (.int 10) (limits .gte) (.inl ⟨.lt, Value.compareWith_int 5 10, rfl⟩)

/-- An exclusive bound is gone once a bound on the other side is merged in, and what it refused is let pass. -/
theorem exclusive_bound_is_dropped :
    (({} : FilterDraft).after [.set (.range "size" { gt := some (.int 5) })]).get? "size" =
      some (.range "size" { gt := some (.int 5) }) ∧
    ∃ merged, merged = (({} : FilterDraft).after [.set (.range "size" { gt := some (.int 5) })]).mergeRange "size" none
        (some (.int 20)) ∧
      merged.clauses = [.range "size" { lte := some (.int 20) }] ∧
      Side.gt.Violated (.int 3) (.int 5) ∧ merged.filter.Holds (.object [("size", .int 3)]) := by
  have compared : (Value.int 3).compareWith (.int 20) = .ordered .lt := Value.compareWith_int 3 20
  refine ⟨rfl, _, rfl, rfl, .inl ⟨.lt, Value.compareWith_int 3 5, rfl⟩, Predicate.holds_all_iff.mpr ?_⟩
  change ∀ clause ∈ [Predicate.range "size" { lte := some (.int 20) }], _
  rw [List.forall_mem_singleton, Predicate.holds_range_iff]
  exact ⟨.int 3, List.mem_singleton_self _, by simp [admits, passes, compared]⟩

end Sizes

end FilterDraft

end MailSearch

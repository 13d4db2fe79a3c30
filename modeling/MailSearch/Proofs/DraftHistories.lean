import Mathlib.Data.List.Induction
import MailSearch.Proofs.DraftSlots

/-! What becomes of a condition that was put into a slot. Slots stay in the order in which they were first filled, and
each holds what was put there last; so a condition goes only with a change that fills its slot again. Such a change
names the same field or brings a condition of the same kind, unless one of the two goes by its kind and the other by
a field that has the name of this kind. -/

namespace MailSearch.FilterDraft

/-- A step in the making of a filter. -/
inductive Change where
  | set (condition : Predicate)
  | mergeRange (field : String) (gte lte : Option Value)
  | require (condition : Predicate)
  | either (condition : Predicate)
  deriving Repr

/-- The condition goes by its kind: it has no field, or one without a name. -/
def GoesByKind (condition : Predicate) : Prop := condition.field? = none ∨ condition.field? = some ""

/-- The first condition goes by its kind, and the other one is about a field of that name. -/
def KindNamesField (condition other : Predicate) : Prop :=
  GoesByKind condition ∧ condition.kind ≠ "" ∧ other.field? = some condition.kind

namespace Change

def apply (draft : FilterDraft) : Change → FilterDraft
  | set condition => draft.set condition
  | mergeRange field gte lte => draft.mergeRange field gte lte
  | require condition => draft.require condition
  | either condition => draft.either condition

/-- The slot that the change fills. -/
def slot? : Change → Option String
  | set condition => some (slot condition)
  | mergeRange field _ _ => some field
  | require _ | either _ => none

def required? : Change → Option Predicate
  | require condition => some condition
  | _ => none

def alternative? : Change → Option Predicate
  | either condition => some condition
  | _ => none

/-- The change names the field of the condition or, where that has none, brings another one of its kind. -/
def Replaces (condition : Predicate) : Change → Prop
  | set later =>
    match condition.field? with
    | some field => later.field? = some field
    | none => later.kind = condition.kind
  | mergeRange field _ _ => condition.field? = some field
  | require _ | either _ => False

/-- The change is about a field that has the name of a kind by which the condition goes, or the other way round. -/
def Collides (condition : Predicate) : Change → Prop
  | set later => KindNamesField condition later ∨ KindNamesField later condition
  | mergeRange field _ _ => GoesByKind condition ∧ field = condition.kind
  | require _ | either _ => False

end Change

/-- The draft after changes one after another. -/
def after (draft : FilterDraft) (history : List Change) : FilterDraft := history.foldl Change.apply draft

/-- The slots that a history fills, in the order in which it first does so. -/
def places (history : List Change) : List String := (history.filterMap Change.slot?).eraseDups

section Slots

variable {condition later : Predicate} {change : Change} {draft : FilterDraft} {name : String}

private theorem slot_of_goesByKind (byKind : GoesByKind condition) : slot condition = condition.kind := by
  rcases byKind with none_ | unnamed
  · simp [slot, none_]
  · simp [slot, unnamed]

private theorem goesByKind_or_named (condition : Predicate) :
    GoesByKind condition ∨ ∃ field, condition.field? = some field ∧ field ≠ "" := by
  cases about : condition.field? with
  | none => exact .inl (.inl about)
  | some field =>
    by_cases unnamed : field = ""
    · exact .inl (.inr (unnamed ▸ about))
    · exact .inr ⟨field, rfl, unnamed⟩

/-- Whether a condition has a field is a matter of its kind. -/
theorem isSome_field?_of_kind_eq (same : later.kind = condition.kind) :
    later.field?.isSome = condition.field?.isSome := by
  cases condition <;> cases later <;> simp_all [Predicate.kind, Predicate.field?]

private theorem replaces_of_kind_eq (first : GoesByKind condition) (second : GoesByKind later)
    (same : later.kind = condition.kind) : (Change.set later).Replaces condition := by
  have alike := isSome_field?_of_kind_eq same
  unfold Change.Replaces
  rcases first with none_ | unnamed
  · rw [none_]
    exact same
  · rcases second with none_ | unnamed'
    · simp [none_, unnamed] at alike
    · rw [unnamed]
      exact unnamed'

/-- What fills the slot of a condition replaces it or collides with it. -/
theorem Change.replaces_or_collides (fills : change.slot? = some (slot condition)) :
    change.Replaces condition ∨ change.Collides condition := by
  cases change with
  | set later =>
    have same : slot later = slot condition := Option.some.inj fills
    rcases goesByKind_or_named condition with first | ⟨field, about, named⟩
    · rw [slot_of_goesByKind first] at same
      rcases goesByKind_or_named later with second | ⟨field, about, named⟩
      · rw [slot_of_goesByKind second] at same
        exact .inl (replaces_of_kind_eq first second same)
      · rw [slot_of_field about named] at same
        exact .inr (.inl ⟨first, same ▸ named, same ▸ about⟩)
    · rw [slot_of_field about named] at same
      rcases goesByKind_or_named later with second | ⟨field', about', named'⟩
      · rw [slot_of_goesByKind second] at same
        exact .inr (.inr ⟨second, same ▸ named, same ▸ about⟩)
      · rw [slot_of_field about' named'] at same
        exact .inl (by simp [Replaces, about, about', same])
  | mergeRange field gte lte =>
    have same : field = slot condition := Option.some.inj fills
    rcases goesByKind_or_named condition with first | ⟨field, about, named⟩
    · exact .inr ⟨first, same.trans (slot_of_goesByKind first)⟩
    · rw [slot_of_field about named] at same
      exact .inl (same ▸ about)
  | require | either => cases fills

private theorem Change.slot?_of_collides (collides : change.Collides condition) :
    change.slot? = some (slot condition) := by
  cases change with
  | set later =>
    rcases collides with ⟨byKind, named, about⟩ | ⟨byKind, named, about⟩
    · simp only [slot?, slot_of_field about named, slot_of_goesByKind byKind]
    · simp only [slot?, slot_of_field about named, slot_of_goesByKind byKind]
  | mergeRange field gte lte =>
    obtain ⟨byKind, rfl⟩ := collides
    simp only [slot?, slot_of_goesByKind byKind]
  | require | either => cases collides

/-- A change that leaves a condition in the slot that it fills is one that replaces the condition. -/
theorem Change.replaces_of_get?_apply (fills : change.slot? = some name)
    (left : (change.apply draft).get? name = some condition) : change.Replaces condition := by
  cases change with
  | set later =>
    obtain rfl : slot later = name := Option.some.inj fills
    obtain rfl : later = condition := by simpa [apply, get?_set] using left
    cases about : later.field? <;> simp [Replaces, about]
  | mergeRange field gte lte =>
    obtain rfl : field = name := Option.some.inj fills
    obtain rfl : Predicate.range field _ = condition := by simpa [apply, get?_mergeRange] using left
    rfl
  | require | either => cases fills

private theorem Change.get?_apply_of_ne (passes : change.slot? ≠ some name) :
    (change.apply draft).get? name = draft.get? name := by
  cases change with
  | set later => exact (get?_set name).trans (if_neg fun same => passes (congrArg some same))
  | mergeRange field gte lte =>
    exact (get?_mergeRange field gte lte name).trans (if_neg fun same => passes (congrArg some same))
  | require | either => rfl

/-- A slot that is filled again stays in its place, and a new one comes last. -/
theorem Change.names_apply_of_fills (fills : change.slot? = some name) :
    (change.apply draft).slots.map Prod.fst =
      if name ∈ draft.slots.map Prod.fst then draft.slots.map Prod.fst else draft.slots.map Prod.fst ++ [name] := by
  cases change with
  | set later =>
    obtain rfl : slot later = name := Option.some.inj fills
    exact Table.names_put _ _ _
  | mergeRange field gte lte =>
    obtain rfl : field = name := Option.some.inj fills
    exact Table.names_put _ _ _
  | require | either => cases fills

private theorem Change.slots_apply_of_fills_none (fills : change.slot? = none) :
    (change.apply draft).slots = draft.slots := by
  cases change with
  | set | mergeRange => cases fills
  | require | either => rfl

end Slots

section Histories

variable {history later : List Change} {condition : Predicate} {draft : FilterDraft}

private theorem after_append (draft : FilterDraft) (history later : List Change) :
    draft.after (history ++ later) = (draft.after history).after later := List.foldl_append

private theorem eraseDups_append_singleton (names : List String) (name : String) :
    (names ++ [name]).eraseDups = if name ∈ names then names.eraseDups else names.eraseDups ++ [name] := by
  rw [List.eraseDups_append]
  split
  next there => simp [List.removeAll, there]
  next absent => simp [List.removeAll, absent, List.eraseDups_cons]

/-- The slots of a draft stand in the order in which they were first filled. -/
theorem names_after (history : List Change) : (({} : FilterDraft).after history).slots.map Prod.fst = places history := by
  induction history using List.reverseRecOn with
  | nil => rfl
  | append_singleton earlier change ih =>
    have last : ({} : FilterDraft).after (earlier ++ [change]) = change.apply (({} : FilterDraft).after earlier) :=
      after_append _ _ _
    rw [last, places, List.filterMap_append]
    cases fills : change.slot? with
    | none =>
      rw [Change.slots_apply_of_fills_none fills, ih, List.filterMap_cons_none fills, List.filterMap_nil,
        List.append_nil, places]
    | some name =>
      rw [Change.names_apply_of_fills fills, ih, List.filterMap_cons_some fills, List.filterMap_nil,
        eraseDups_append_singleton]
      simp only [places, List.mem_eraseDups]

private theorem required_after (draft : FilterDraft) (history : List Change) :
    (draft.after history).required = draft.required ++ history.filterMap Change.required? := by
  induction history generalizing draft with
  | nil => simp [after]
  | cons change later ih =>
    rw [after, List.foldl_cons, ← after, ih]
    cases change <;> simp [Change.apply, List.filterMap_cons, Change.required?]

private theorem alternatives_after (draft : FilterDraft) (history : List Change) :
    (draft.after history).alternatives = draft.alternatives ++ history.filterMap Change.alternative? := by
  induction history generalizing draft with
  | nil => simp [after]
  | cons change later ih =>
    rw [after, List.foldl_cons, ← after, ih]
    cases change <;> simp [Change.apply, List.filterMap_cons, Change.alternative?]

theorem Distinct.after (distinct : draft.Distinct) (history : List Change) : (draft.after history).Distinct := by
  induction history generalizing draft with
  | nil => exact distinct
  | cons change later ih =>
    cases change with
    | set condition => exact ih (distinct.set condition)
    | mergeRange field gte lte => exact ih (distinct.mergeRange field gte lte)
    | require condition | either condition => exact ih distinct

/-- Changes that do not replace a condition leave it in a slot just when none of them fills the slot. -/
theorem get?_after_iff {name : String} (kept : ∀ change ∈ later, ¬change.Replaces condition) :
    (draft.after later).get? name = some condition ↔
      draft.get? name = some condition ∧ ∀ change ∈ later, change.slot? ≠ some name := by
  induction later generalizing draft with
  | nil => simp [after]
  | cons change rest ih =>
    obtain ⟨here, others⟩ := List.forall_mem_cons.mp kept
    rw [after, List.foldl_cons, ← after, ih others, List.forall_mem_cons, ← and_assoc]
    refine and_congr_left fun _ => ?_
    by_cases fills : change.slot? = some name
    · simp [fills, mt (Change.replaces_of_get?_apply fills) here]
    · simp [fills, Change.get?_apply_of_ne fills]

private theorem getElem?_idxOf_names {table : Table Predicate} {name : String} :
    (table.map Prod.snd)[(table.map Prod.fst).idxOf name]? = table.get? name := by
  induction table with
  | nil => rfl
  | cons first rest ih =>
    obtain ⟨key, entry⟩ := first
    by_cases same : key = name
    · simp [Table.get?, same]
    · simp only [List.map_cons, List.idxOf_cons, beq_false_of_ne same, cond_false, List.getElem?_cons_succ, ih, Table.get?,
        same, ↓reduceIte]

/-- The finished filter has one condition for each slot, where the slot was first filled, then all that is required, and
last the alternatives together. A condition that was set and not replaced is still in its place, unless a later change
collides with it. -/
theorem conditions_keep_their_places (history : List Change) :
    ∃ placed : List Predicate, placed.length = (places history).length ∧
      (({} : FilterDraft).after history).filter = .all (placed ++ history.filterMap Change.required? ++
        match history.filterMap Change.alternative? with
        | [] => []
        | alternatives => [.any alternatives]) ∧
      ∀ earlier condition later, history = earlier ++ .set condition :: later →
        (∀ change ∈ later, ¬change.Replaces condition) →
          (placed[(places history).idxOf (slot condition)]? = some condition ↔
            ∀ change ∈ later, ¬change.Collides condition) := by
  let draft := ({} : FilterDraft).after history
  have names : draft.slots.map Prod.fst = places history := names_after history
  refine ⟨draft.slots.map Prod.snd, ?_, ?_, ?_⟩
  · rw [← names, List.length_map, List.length_map]
  · have required : draft.required = history.filterMap Change.required? := required_after {} history
    have alternatives : draft.alternatives = history.filterMap Change.alternative? := alternatives_after {} history
    change draft.filter = _
    rw [filter, clauses, required, alternatives]
    cases history.filterMap Change.alternative? <;> rfl
  · rintro earlier condition later rfl kept
    have placed : draft.slots.get? (slot condition) = some condition ↔
        ∀ change ∈ later, change.slot? ≠ some (slot condition) := by
      have set_ : ((({} : FilterDraft).after earlier).set condition).get? (slot condition) = some condition := by
        simp [get?_set]
      have ran : draft = ((({} : FilterDraft).after earlier).set condition).after later := after_append _ _ _
      change draft.get? (slot condition) = _ ↔ _
      rw [ran, get?_after_iff kept]
      exact and_iff_right set_
    rw [← names, getElem?_idxOf_names, placed]
    refine forall₂_congr fun change member => not_congr ⟨fun fills => ?_, Change.slot?_of_collides⟩
    exact (Change.replaces_or_collides fills).resolve_left (kept change member)

end Histories

section Messages

/-- Conditions on an owner and a mailbox, of which the first is set again after two more were added. -/
def ownedHistory : List Change :=
  [.set (.eq "user" (.text "u")), .set (.words "news"), .require (.presence "thread" true),
    .mergeRange "size" (some (.int 10)) none, .either (.eq "flagged" (.bool true)), .set (.eq "user" (.text "v"))]

/-- The owner set last stands first, and the words that were set stay behind it. -/
theorem conditions_keep_their_places_around_a_new_owner :
    places ownedHistory = ["user", "text", "size"] ∧
    ∃ placed : List Predicate, placed.length = 3 ∧
      (({} : FilterDraft).after ownedHistory).filter =
        .all (placed ++ [.presence "thread" true] ++ [.any [.eq "flagged" (.bool true)]]) ∧
      placed[0]? = some (.eq "user" (.text "v")) ∧ placed[1]? = some (.words "news") := by
  have names : places ownedHistory = ["user", "text", "size"] := by decide
  obtain ⟨placed, size, filter, stay⟩ := conditions_keep_their_places ownedHistory
  rw [names] at size stay
  refine ⟨names, placed, size, filter, ?_, ?_⟩
  · refine (stay (ownedHistory.take 5) (.eq "user" (.text "v")) [] rfl ?_).mpr ?_
    · simp
    · simp
  · refine (stay (ownedHistory.take 1) (.words "news") (ownedHistory.drop 2) rfl ?_).mpr ?_
    · simp [ownedHistory, Change.Replaces, Predicate.field?, Predicate.kind]
    · simp [ownedHistory, Change.Collides, KindNamesField, GoesByKind, Predicate.field?, Predicate.kind]

/-- Words that were set are dropped for a condition on the field that is called as their kind. -/
theorem words_give_way_to_a_field_of_the_name_of_their_kind :
    ¬(Change.set (.eq "text" (.int 1))).Replaces (.words "a") ∧
      (({} : FilterDraft).after [.set (.words "a"), .set (.eq "text" (.int 1))]).clauses = [.eq "text" (.int 1)] ∧
      .words "a" ∉ (({} : FilterDraft).after [.set (.words "a"), .set (.eq "text" (.int 1))]).clauses := by
  have left : (({} : FilterDraft).after [.set (.words "a"), .set (.eq "text" (.int 1))]).clauses =
      [.eq "text" (.int 1)] := rfl
  refine ⟨by simp [Change.Replaces, Predicate.field?, Predicate.kind], left, ?_⟩
  simp [left]

end Messages

end MailSearch.FilterDraft

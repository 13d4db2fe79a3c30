import MailSearch.Proofs.MergedBounds

/-! Which values a range lets pass. A value is put to one bound after the other, up to the first that refuses it or that
it has no order to; in whatever order the bounds come, it passes just when none refuses it and it compares with all. It
then satisfies every bound, but for one case: an undefined number is neither below a limit nor above it, so that no
bound refuses it. -/

namespace MailSearch

namespace Value

mutual

/-- Whether a value is an undefined number, or a list or a tuple that holds one. -/
def hasUndefined : Value → Bool
  | .float x => x.isUndefined
  | .list items | .tuple items => anyUndefined items
  | _ => false

def anyUndefined : List Value → Bool
  | [] => false
  | item :: rest => hasUndefined item || anyUndefined rest

end

private theorem quantity?_ne_undefined {a : Value} (defined : a.hasUndefined = false) :
    a.quantity? ≠ some .undefined := by
  cases a with
  | float x => cases x <;> simp_all [hasUndefined, quantity?, Binary64.quantity, Binary64.isUndefined]
  | _ => simp [quantity?, Quantity.ofInt]

private theorem compare?_isSome {p q : Quantity} (one : p ≠ .undefined) (other : q ≠ .undefined) :
    ∃ order, p.compare? q = some order := by
  cases p <;> cases q <;> simp_all [Quantity.compare?]

/-- A number has no order to what is no number. -/
theorem compareWith_number {a b : Value} {p : Quantity} (number : a.quantity? = some p) :
    a.compareWith b = (b.quantity?.map fun q => .ofNumbers (p.compare? q)).getD .incomparable := by
  cases a with
  | bool c => cases number; cases b <;> rfl
  | int n => cases number; cases b <;> rfl
  | float x => cases number; cases b <;> rfl
  | _ => cases number

private theorem compareWith_number_ne_undefined {a b : Value} (one : a.hasUndefined = false)
    (other : b.hasUndefined = false) {p : Quantity} (number : a.quantity? = some p) : a.compareWith b ≠ .undefined := by
  have defined : p ≠ .undefined := fun same => quantity?_ne_undefined one (same ▸ number)
  rw [compareWith_number number]
  cases told : b.quantity? with
  | none => simp
  | some q =>
    obtain ⟨order, compared⟩ := compare?_isSome defined fun same => quantity?_ne_undefined other (same ▸ told)
    simp [Comparison.ofNumbers, compared]

mutual

/-- Comparing values comes to an order or to none at all, unless there is an undefined number in one of them. -/
theorem compareWith_ne_undefined {a b : Value} (one : a.hasUndefined = false) (other : b.hasUndefined = false) :
    a.compareWith b ≠ .undefined := by
  cases a with
  | bool c => exact compareWith_number_ne_undefined one other rfl
  | int n => exact compareWith_number_ne_undefined one other rfl
  | float x => exact compareWith_number_ne_undefined one other rfl
  | list items =>
    cases b with
    | list others => exact compareItems_ne_undefined one other
    | _ => simp [compareWith, quantity?]
  | tuple items =>
    cases b with
    | tuple others => exact compareItems_ne_undefined one other
    | _ => simp [compareWith, quantity?]
  | time t =>
    cases b with
    | time u => cases compared : t.compare? u <;> simp [compareWith, Comparison.ofKinds, compared]
    | _ => simp [compareWith, quantity?]
  | _ => cases b <;> simp [compareWith, quantity?]

private theorem compareItems_ne_undefined {as bs : List Value} (one : anyUndefined as = false)
    (other : anyUndefined bs = false) : compareItems as bs ≠ .undefined := by
  match as, bs with
  | [], [] => simp [compareItems]
  | [], _ :: _ => simp [compareItems]
  | _ :: _, [] => simp [compareItems]
  | a :: as, b :: bs =>
    rw [anyUndefined, Bool.or_eq_false_iff] at one other
    rw [compareItems]
    split
    · exact compareItems_ne_undefined one.2 other.2
    · exact compareWith_ne_undefined one.1 other.1

end

end Value

namespace Bounds

namespace Side

/-- The value has an order to the limit, and lies where the bound lets it. -/
def Satisfied (side : Side) (value limit : Value) : Prop :=
  ∃ order, value.compareWith limit = .ordered order ∧ side.refuses order = false

variable {side : Side} {value limit : Value}

private theorem not_violated_iff :
    ¬side.Violated value limit ↔ side.Satisfied value limit ∨ value.compareWith limit = .undefined := by
  cases compared : value.compareWith limit with
  | ordered order => simp [Violated, Satisfied, compared]
  | undefined | incomparable => simp [Violated, Satisfied, compared]

end Side

/-- Puts a value to limits one after the other, up to the first that refuses it; where there is no order between the
two, that is an error. -/
def examine (value : Value) : List (Side × Value) → Except Failure Bool
  | [] => .ok true
  | (side, limit) :: rest =>
    match value.compareWith limit with
    | .ordered order => if side.refuses order then .ok false else examine value rest
    | .undefined => examine value rest
    | .incomparable => .error .wrongKind

/-- The value satisfies all bounds that are given. -/
def Contains (bounds : Bounds) (value : Value) : Prop :=
  ∀ side limit, bounds.limit? side = some limit → side.Satisfied value limit

/-- The value satisfies the bounds, but for some to which it lies neither below nor above, for an undefined number. -/
structure Strays (bounds : Bounds) (value : Value) : Prop where
  others : ∀ side limit, bounds.limit? side = some limit →
    side.Satisfied value limit ∨ value.compareWith limit = .undefined
  undefined : ∃ side limit, bounds.limit? side = some limit ∧ value.compareWith limit = .undefined

variable {bounds : Bounds} {value : Value} {checks : List (Side × Value)}

private theorem examine_iff : examine value checks = .ok true ↔ ∀ check ∈ checks, ¬check.1.Violated value check.2 := by
  induction checks with
  | nil => simp [examine]
  | cons check rest ih =>
    obtain ⟨side, limit⟩ := check
    rw [List.forall_mem_cons, ← ih, examine]
    cases compared : value.compareWith limit with
    | ordered order => cases refused : side.refuses order <;> simp [Side.Violated, compared, refused]
    | undefined | incomparable => simp [Side.Violated, compared]

private theorem admits_iff : bounds.admits value = true ↔
    ∀ side limit, bounds.limit? side = some limit → ¬side.Violated value limit := by
  refine ⟨fun admitted side limit there => not_violated_of_admits admitted there, fun none => ?_⟩
  have each (side : Side) : passes value (bounds.limit? side) side.refuses = true := by
    cases there : bounds.limit? side with
    | none => rfl
    | some limit => exact passes_iff_not_violated.mpr (none side limit there)
  simp only [admits, Bool.and_eq_true]
  exact ⟨⟨⟨each .gte, each .lte⟩, each .gt⟩, each .lt⟩

/-- The order in which the bounds are examined makes no difference. -/
theorem admits_iff_examine
    (given : ∀ side limit, (side, limit) ∈ checks ↔ bounds.limit? side = some limit) :
    bounds.admits value = true ↔ examine value checks = .ok true := by
  rw [admits_iff, examine_iff, Prod.forall]
  exact forall₂_congr fun side limit => by rw [given]

theorem admits_iff_contains_or_strays : bounds.admits value = true ↔ bounds.Contains value ∨ bounds.Strays value := by
  simp only [admits_iff, Side.not_violated_iff]
  constructor
  · intro passes
    by_cases stray : ∃ side limit, bounds.limit? side = some limit ∧ value.compareWith limit = .undefined
    · exact .inr ⟨passes, stray⟩
    · refine .inl fun side limit there => (passes side limit there).resolve_right fun undefined => ?_
      exact stray ⟨side, limit, there, undefined⟩
  · rintro (contains | strays)
    · exact fun side limit there => .inl (contains side limit there)
    · exact strays.others

theorem not_admits_of_incomparable {side : Side} {limit : Value} (there : bounds.limit? side = some limit)
    (apart : value.compareWith limit = .incomparable) : bounds.admits value = false := by
  rw [← Bool.not_eq_true, admits_iff]
  exact fun none => none side limit there (.inr apart)

/-- Nothing strays where there is no undefined number. -/
theorem not_strays_of_defined (defined : value.hasUndefined = false)
    (limits : ∀ side limit, bounds.limit? side = some limit → limit.hasUndefined = false) : ¬bounds.Strays value := by
  rintro ⟨-, side, limit, there, undefined⟩
  exact Value.compareWith_ne_undefined defined (limits side limit there) undefined

end Bounds

end MailSearch

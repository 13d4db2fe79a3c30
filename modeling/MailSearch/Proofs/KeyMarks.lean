import MailSearch.Proofs.DraftSlots
import MailSearch.Value.Order

/-! When values agree. Each value that can be a key has a mark, and keys agree just when they have the same one, so
that agreement divides keys into classes: 1, true and 1.0 are one key, and so are two spellings of one instant. Any
value agrees with itself, unless an object in it gives a name twice or a text in it has half a pair of code units. -/

namespace MailSearch

private theorem Quantity.compare?_eq_iff {p q : Quantity} (defined : p ≠ .undefined) :
    p.compare? q = some .eq ↔ p = q := by
  cases p with
  | exact a =>
    cases q with
    | exact b =>
      by_cases same : a = b
      · simp only [compare?, same, Rat.lt_irrefl, ↓reduceIte]
      · by_cases below : a < b <;> simp [compare?, same, below]
    | infinite negative => cases negative <;> simp [compare?]
    | undefined => simp [compare?]
  | infinite a =>
    cases q with
    | infinite b => cases a <;> cases b <;> simp [compare?]
    | exact b => cases a <;> simp [compare?]
    | undefined => simp [compare?]
  | undefined => exact absurd rfl defined

/-- What a timestamp is told by: the instant, or its local time where no offset is known. -/
def Timestamp.moment (t : Timestamp) : Bool × Int := (t.offset.isSome, t.localMicroseconds - t.offset.getD 0)

private theorem Timestamp.compare?_eq_iff {t u : Timestamp} : t.compare? u = some .eq ↔ t.moment = u.moment := by
  unfold compare? moment
  cases t.offset <;> cases u.offset <;> simp

namespace Value

/-- What a key is told by. -/
inductive Mark where
  | null
  | number (amount : Quantity)
  | undefined (payload : Nat)
  | text (s : String)
  | time (moment : Bool × Int)
  | bytes (data : List UInt8)
  | tuple (items : List Mark)

mutual

/-- The mark of a value, if it is one that can be a key. -/
def mark? : Value → Option Mark
  | .null => some .null
  | .bool b => some (.number (.ofInt (if b then 1 else 0)))
  | .int n => some (.number (.ofInt n))
  | .float (.undefined payload) => some (.undefined payload)
  | .float x => some (.number x.quantity)
  | .text s => some (.text s)
  | .time t => some (.time t.moment)
  | .bytes data => some (.bytes data)
  | .tuple items => (marks? items).map .tuple
  | .list _ | .object _ | .unpaired _ => none

def marks? : List Value → Option (List Mark)
  | [] => some []
  | item :: rest =>
    match mark? item, marks? rest with
    | some first, some others => some (first :: others)
    | _, _ => none

end

/-- Two values that have the same mark. -/
def SameMark (a b : Value) : Prop := a.mark?.isSome = true ∧ a.mark? = b.mark?

theorem SameMark.symm {a b : Value} (same : SameMark a b) : SameMark b a := ⟨same.2 ▸ same.1, same.2.symm⟩

theorem SameMark.trans {a b c : Value} (first : SameMark a b) (second : SameMark b c) : SameMark a c :=
  ⟨first.1, first.2.trans second.2⟩

section Numbers

variable {a b : Value} {p : Quantity}

private theorem mark?_eq_number_iff (defined : p ≠ .undefined) : some (.number p) = b.mark? ↔ some p = b.quantity? := by
  cases b with
  | float x => cases x <;> simp [mark?, quantity?, Binary64.quantity, defined]
  | tuple items => cases marked : marks? items <;> simp [mark?, quantity?, marked]
  | _ => simp [mark?, quantity?]

private theorem number_agrees_iff (number : a.quantity? = some p) (defined : p ≠ .undefined) :
    a.agrees b = true ↔ some p = b.quantity? := by
  have unfolded : a.agrees b = match b.quantity? with
      | some q => p.compare? q == some .eq
      | none => false := by
    cases a with
    | float x =>
      obtain rfl := Option.some.inj number
      cases x with
      | undefined payload => exact absurd rfl defined
      | _ => cases b <;> rfl
    | _ => cases number <;> cases b <;> rfl
  rw [unfolded]
  cases b.quantity? <;> simp [Quantity.compare?_eq_iff defined]

private theorem number_agrees_self (number : a.quantity? = some p) (defined : p ≠ .undefined) : a.agrees a = true :=
  (number_agrees_iff number defined).mpr number.symm

private theorem number_agrees_iff_sameMark (number : a.quantity? = some p) (defined : p ≠ .undefined) :
    a.agrees b = true ↔ SameMark a b := by
  rw [number_agrees_iff number defined, ← mark?_eq_number_iff defined, SameMark,
    ← (mark?_eq_number_iff defined).mpr number.symm]
  simp

end Numbers

mutual

/-- Keys agree just when they have the same mark. -/
theorem agrees_iff_sameMark {a : Value} (key : a.isHashable = true) (b : Value) :
    a.agrees b = true ↔ SameMark a b := by
  cases a with
  | bool c => exact number_agrees_iff_sameMark rfl nofun
  | int n => exact number_agrees_iff_sameMark rfl nofun
  | float x =>
    cases x with
    -- an undefined number is compared as a copy of another, not by its amount
    | undefined payload =>
      cases b with
      | float y => cases y <;> simp [agrees, SameMark, mark?, quantity?, Binary64.quantity, Quantity.compare?]
      | tuple others => cases marked : marks? others <;> simp [agrees, SameMark, mark?, quantity?, marked]
      | _ => simp [agrees, SameMark, mark?, quantity?, Quantity.compare?, Binary64.quantity]
    | infinite negative => exact number_agrees_iff_sameMark rfl nofun
    | finite negative significand exponent => exact number_agrees_iff_sameMark rfl nofun
  | tuple items =>
    rw [isHashable] at key
    cases b with
    | tuple others =>
      rw [agrees, itemsAgree_iff_same_marks key, SameMark, mark?, mark?]
      cases marks? items <;> cases marks? others <;> simp
    | float y => cases y <;> cases marked : marks? items <;> simp [agrees, SameMark, mark?, quantity?, marked]
    | _ => cases marked : marks? items <;> simp [agrees, SameMark, mark?, quantity?, marked]
  | list items => cases key
  | object entries => cases key
  | _ =>
    cases b with
    | float y => cases y <;> simp [agrees, SameMark, mark?, quantity?]
    | tuple others => cases marked : marks? others <;> simp [agrees, SameMark, mark?, quantity?, marked]
    | _ => simp [agrees, SameMark, mark?, quantity?, Timestamp.compare?_eq_iff]

private theorem itemsAgree_iff_same_marks {as : List Value} (keys : isHashable.allHashable as = true)
    (bs : List Value) : itemsAgree as bs = true ↔ (marks? as).isSome = true ∧ marks? as = marks? bs := by
  cases as with
  | nil =>
    cases bs with
    | nil => simp [itemsAgree, marks?]
    | cons b others => cases first : mark? b <;> cases later : marks? others <;> simp [itemsAgree, marks?, first, later]
  | cons a rest =>
    rw [isHashable.allHashable, Bool.and_eq_true] at keys
    cases bs with
    | nil => cases first : mark? a <;> cases later : marks? rest <;> simp [itemsAgree, marks?, first, later]
    | cons b others =>
      rw [itemsAgree, Bool.and_eq_true, agrees_iff_sameMark keys.1, itemsAgree_iff_same_marks keys.2, SameMark, marks?,
        marks?]
      cases mark? a <;> cases mark? b <;> cases marks? rest <;> cases marks? others <;> simp

end

section Keys

variable {a b c : Value}

/-- Two keys that agree with one value agree with one another. -/
theorem agrees_of_agree_with (first : a.isHashable = true) (second : b.isHashable = true) (one : a.agrees c = true)
    (other : b.agrees c = true) : a.agrees b = true := by
  rw [agrees_iff_sameMark first] at one ⊢
  rw [agrees_iff_sameMark second] at other
  exact one.trans other.symm

/-- What agrees with a key agrees with whatever else does. -/
theorem agrees_of_key_agrees (first : a.isHashable = true) (second : b.isHashable = true) (one : a.agrees b = true)
    (other : a.agrees c = true) : b.agrees c = true := by
  rw [agrees_iff_sameMark first] at one other
  rw [agrees_iff_sameMark second]
  exact one.symm.trans other

end Keys

/-- All of them can be keys, and no two agree. -/
structure DistinctKeys (keys : List Value) : Prop where
  hashable : ∀ key ∈ keys, key.isHashable = true
  apart : keys.Pairwise fun key other => key.agrees other = false

namespace DistinctKeys

variable {key id other : Value} {ids : List Value}

theorem of_cons (distinct : DistinctKeys (id :: ids)) : DistinctKeys ids :=
  ⟨(List.forall_mem_cons.mp distinct.hashable).2, (List.pairwise_cons.mp distinct.apart).2⟩

/-- What agrees with one of several distinct keys agrees with no other one. -/
theorem disagrees (distinct : DistinctKeys (id :: ids)) (hashable : key.isHashable = true)
    (agrees : key.agrees id = true) (there : other ∈ ids) : key.agrees other = false := by
  refine Bool.eq_false_iff.mpr fun also => ?_
  have both := agrees_of_key_agrees hashable (distinct.hashable id List.mem_cons_self) agrees also
  cases both.symm.trans ((List.pairwise_cons.mp distinct.apart).1 other there)

end DistinctKeys

mutual

/-- Whether no object in the value gives a name twice, and every text in it is known. -/
def isWellFormed : Value → Bool
  | .list items | .tuple items => allWellFormed items
  | .object entries => decide (entries.map Prod.fst).Nodup && entriesWellFormed entries
  | .unpaired _ => false
  | _ => true

def allWellFormed : List Value → Bool
  | [] => true
  | item :: rest => isWellFormed item && allWellFormed rest

def entriesWellFormed : List (String × Value) → Bool
  | [] => true
  | (_, value) :: rest => isWellFormed value && entriesWellFormed rest

end

private theorem entriesWellFormed_iff {entries : List (String × Value)} :
    entriesWellFormed entries = true ↔ ∀ entry ∈ entries, entry.2.isWellFormed = true := by
  induction entries with
  | nil => simp [entriesWellFormed]
  | cons first rest ih => simp [entriesWellFormed, ih]

theorem object_isWellFormed_iff {entries : Fields} : (Value.object entries).isWellFormed = true ↔
    (entries.map Prod.fst).Nodup ∧ ∀ entry ∈ entries, entry.2.isWellFormed = true := by
  rw [isWellFormed, Bool.and_eq_true, decide_eq_true_iff, entriesWellFormed_iff]

mutual

/-- A well-formed value agrees with itself. -/
theorem agrees_self {a : Value} (wellFormed : a.isWellFormed = true) : a.agrees a = true := by
  cases a with
  | bool c => exact number_agrees_self rfl nofun
  | int n => exact number_agrees_self rfl nofun
  | float x =>
    cases x with
    | undefined payload => simp [agrees]
    | infinite negative => exact number_agrees_self rfl nofun
    | finite negative significand exponent => exact number_agrees_self rfl nofun
  | time t => simpa [agrees] using Timestamp.compare?_eq_iff.mpr rfl
  | list items =>
    rw [agrees]
    exact itemsAgree_self wellFormed
  | tuple items =>
    rw [agrees]
    exact itemsAgree_self wellFormed
  | object entries =>
    obtain ⟨distinct, -⟩ := object_isWellFormed_iff.mp wellFormed
    rw [isWellFormed, Bool.and_eq_true] at wellFormed
    rw [agrees, beq_self_eq_true, Bool.true_and]
    exact entriesAgree_self wellFormed.2 fun name value => (Table.get?_eq_some_iff distinct).mpr
  | unpaired kind => cases wellFormed
  | _ => simp [agrees]

private theorem itemsAgree_self {items : List Value} (wellFormed : allWellFormed items = true) :
    itemsAgree items items = true := by
  cases items with
  | nil => rfl
  | cons first rest =>
    rw [allWellFormed, Bool.and_eq_true] at wellFormed
    rw [itemsAgree, agrees_self wellFormed.1, itemsAgree_self wellFormed.2, Bool.and_self]

private theorem entriesAgree_self {entries : List (String × Value)} {whole : Fields}
    (wellFormed : entriesWellFormed entries = true)
    (found : ∀ name value, (name, value) ∈ entries → whole.get? name = some value) :
    entriesAgree entries whole = true := by
  cases entries with
  | nil => rfl
  | cons first rest =>
    rw [entriesWellFormed, Bool.and_eq_true] at wellFormed
    have later := entriesAgree_self wellFormed.2 fun name value there =>
      found name value (List.mem_cons_of_mem first there)
    simp only [entriesAgree, found first.1 first.2 List.mem_cons_self, agrees_self wellFormed.1, later, Bool.and_self]

end

/-- One table of entries agrees with another if that gives each name a value that agrees. -/
theorem entriesAgree_iff {entries : List (String × Value)} {other : Fields} : entriesAgree entries other = true ↔
    ∀ entry ∈ entries, ∃ b, other.get? entry.1 = some b ∧ entry.2.agrees b = true := by
  induction entries with
  | nil => simp [entriesAgree]
  | cons first rest ih =>
    rw [entriesAgree, Bool.and_eq_true, ih, List.forall_mem_cons]
    cases other.get? first.1 <;> simp

end Value

end MailSearch

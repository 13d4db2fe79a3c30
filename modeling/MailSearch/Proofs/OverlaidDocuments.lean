import MailSearch.Proofs.KeyMarks
import MailSearch.Proofs.StoredDocuments

/-! What setting fields makes of a document: what it gives under each name then, and whether it is another document.
The document counts as changed if some field is not equal to what it gives under the name, or to null if it gives
nothing. That is when it becomes another document, but for two cases: one that gains nothing but nulls under new
names becomes another uncounted, and one that is given its own undefined number again is counted and stays as it
is. -/

namespace MailSearch

namespace Table

variable {α : Type} {table news : Table α}

private theorem get?_overlay (distinct : (news.map Prod.fst).Nodup) (name : String) :
    (table.overlay news).get? name = (news.get? name).or (table.get? name) := by
  unfold overlay
  induction news generalizing table with
  | nil => rfl
  | cons first rest ih =>
    obtain ⟨key, entry⟩ := first
    obtain ⟨fresh, later⟩ := List.nodup_cons.mp distinct
    rw [List.foldl_cons, ih later, get?_put]
    by_cases same : key = name
    · subst same
      simp [get?, get?_eq_none_iff.mpr fresh]
    · simp [get?, same, Ne.symm same]

private theorem length_put (table : Table α) (name : String) (entry : α) :
    (table.put name entry).length = if name ∈ table.map Prod.fst then table.length else table.length + 1 := by
  rw [← List.length_map Prod.fst, names_put]
  split <;> simp

private theorem length_le_overlay (table news : Table α) : table.length ≤ (table.overlay news).length := by
  unfold overlay
  induction news generalizing table with
  | nil => exact Nat.le_refl _
  | cons first rest ih =>
    refine Nat.le_trans ?_ (ih _)
    rw [length_put]
    split <;> omega

/-- An overlay gives no new names just when all of its names are there already. -/
theorem length_overlay_eq_iff :
    table.length = (table.overlay news).length ↔ ∀ entry ∈ news, entry.1 ∈ table.map Prod.fst := by
  induction news generalizing table with
  | nil => simp [overlay]
  | cons first rest ih =>
    have step : table.overlay (first :: rest) = (table.put first.1 first.2).overlay rest := rfl
    rw [step, List.forall_mem_cons]
    by_cases there : first.1 ∈ table.map Prod.fst
    · have names := names_put table first.1 first.2
      have length := length_put table first.1 first.2
      rw [if_pos there] at names length
      rw [← length, ih, names]
      simp [there]
    · have longer := length_le_overlay (table.put first.1 first.2) rest
      rw [length_put, if_neg there] at longer
      simp only [there, false_and, iff_false]
      omega

end Table

private theorem Value.same_iff {old value : Value} :
    old.same value = true ↔ old.isUndefined = false ∧ old.agrees value = true := by
  simp [same]

namespace Fields

variable {document news : Fields}

/-- Whether setting the fields counts as a change. -/
def isCounted (document news : Fields) : Bool := !(document.changes news).isEmpty

/-- Whether setting the fields leads to another document. -/
def differs (document news : Fields) : Bool := !(Value.object document).same (.object (document.overlay news))

/-- Whether some of the fields have new names, which are null, and the document has equal values for all others. -/
def gainsOnlyNulls (document news : Fields) : Bool :=
  news.any (fun (name, _) => !document.contains name) &&
    news.all fun (name, value) => (document.get? name).elim value.given?.isNone (·.same value)

/-- Whether the document has all of the fields already, some of which are its own undefined numbers. -/
def repeatsUndefined (document news : Fields) : Bool :=
  news.any (fun (name, _) => (document.get? name).any Value.isUndefined) &&
    news.all fun (name, value) => (document.get? name).any (·.agrees value)

@[simp] theorem isCounted_nil (document : Fields) : document.isCounted [] = false := rfl

private theorem isCounted_eq_false_iff : document.isCounted news = false ↔
    ∀ field ∈ news, ((document.get? field.1).getD .null).same field.2 = true := by
  simp [isCounted, changes]

private theorem differs_eq_false_iff (wellFormed : (Value.object document).isWellFormed = true)
    (distinct : (news.map Prod.fst).Nodup) : document.differs news = false ↔
      ∀ field ∈ news, ∃ old, document.get? field.1 = some old ∧ old.agrees field.2 = true := by
  obtain ⟨names, values⟩ := Value.object_isWellFormed_iff.mp wellFormed
  have unfolded : document.differs news = false ↔ document.length = (document.overlay news).length ∧
      ∀ entry ∈ document, ∃ b, (document.overlay news).get? entry.1 = some b ∧ entry.2.agrees b = true := by
    rw [← Value.entriesAgree_iff]
    simp [differs, Value.same, Value.isUndefined, Value.agrees]
  rw [unfolded, Table.length_overlay_eq_iff]
  constructor
  · rintro ⟨present, agree⟩ ⟨name, value⟩ given
    obtain ⟨⟨_, old⟩, there, rfl⟩ := List.mem_map.mp (present _ given)
    obtain ⟨now, found, agrees⟩ := agree _ there
    rw [Table.get?_overlay distinct, (Table.get?_eq_some_iff distinct).mpr given, Option.some_or] at found
    cases found
    exact ⟨old, (Table.get?_eq_some_iff names).mpr there, agrees⟩
  · intro agree
    refine ⟨fun field given => ?_, fun ⟨name, old⟩ there => ?_⟩
    · obtain ⟨old, held, -⟩ := agree field given
      exact List.mem_map.mpr ⟨_, (Table.get?_eq_some_iff names).mp held, rfl⟩
    · have held := (Table.get?_eq_some_iff names).mpr there
      rw [Table.get?_overlay distinct, held]
      cases given : news.get? name with
      | none => exact ⟨old, rfl, Value.agrees_self (values _ there)⟩
      | some value =>
        obtain ⟨old', held', agrees⟩ := agree _ ((Table.get?_eq_some_iff distinct).mp given)
        cases held.symm.trans held'
        exact ⟨value, rfl, agrees⟩

private theorem gainsOnlyNulls_iff : document.gainsOnlyNulls news = true ↔
    (∃ field ∈ news, document.get? field.1 = none) ∧ document.isCounted news = false := by
  have read (old : Option Value) (value : Value) :
      old.elim value.given?.isNone (·.same value) = (old.getD .null).same value := by
    cases old with
    | none => cases value <;> rfl
    | some _ => rfl
  rw [isCounted_eq_false_iff]
  simp [gainsOnlyNulls, Table.contains, read]

private theorem repeatsUndefined_iff (wellFormed : (Value.object document).isWellFormed = true)
    (distinct : (news.map Prod.fst).Nodup) : document.repeatsUndefined news = true ↔
      (∃ field ∈ news, ∃ old, document.get? field.1 = some old ∧ old.isUndefined = true) ∧
        document.differs news = false := by
  rw [differs_eq_false_iff wellFormed distinct]
  simp [repeatsUndefined, Option.any_eq_true]

/-- The documents that gain only nulls are those that differ without being counted. -/
theorem gainsOnlyNulls_eq (wellFormed : (Value.object document).isWellFormed = true)
    (distinct : (news.map Prod.fst).Nodup) :
    document.gainsOnlyNulls news = (document.differs news && !document.isCounted news) := by
  rw [Bool.eq_iff_iff, gainsOnlyNulls_iff, Bool.and_eq_true, Bool.not_eq_true']
  refine and_congr_left fun uncounted => ?_
  rw [← Bool.not_eq_false, differs_eq_false_iff wellFormed distinct]
  constructor
  · rintro ⟨field, given, absent⟩ agree
    obtain ⟨old, held, -⟩ := agree field given
    cases absent.symm.trans held
  · intro strays
    -- if no name were new, every field would be there with an equal value
    refine Classical.byContradiction fun complete => strays fun field given => ?_
    have same := isCounted_eq_false_iff.mp uncounted field given
    cases held : document.get? field.1 with
    | none => exact absurd ⟨field, given, held⟩ complete
    | some old =>
      rw [held] at same
      exact ⟨old, rfl, (Value.same_iff.mp same).2⟩

/-- The documents that repeat undefined numbers are those that are counted without differing. -/
theorem repeatsUndefined_eq (wellFormed : (Value.object document).isWellFormed = true)
    (distinct : (news.map Prod.fst).Nodup) :
    document.repeatsUndefined news = (document.isCounted news && !document.differs news) := by
  rw [Bool.eq_iff_iff, repeatsUndefined_iff wellFormed distinct, Bool.and_eq_true, Bool.not_eq_true']
  refine and_congr_left fun unchanged => ?_
  rw [← Bool.not_eq_false, isCounted_eq_false_iff]
  constructor
  · rintro ⟨field, given, old, held, undefined⟩ same
    have defined := (Value.same_iff.mp (same field given)).1
    rw [held] at defined
    cases undefined.symm.trans defined
  · intro strays
    -- an old value that agrees is not equal only if it is undefined
    refine Classical.byContradiction fun defined => strays fun field given => ?_
    obtain ⟨old, held, agrees⟩ := (differs_eq_false_iff wellFormed distinct).mp unchanged field given
    rw [held]
    refine Value.same_iff.mpr ⟨?_, agrees⟩
    exact Bool.eq_false_iff.mpr fun undefined => defined ⟨field, given, old, held, undefined⟩

/-- Setting well-formed fields keeps a document well-formed. -/
theorem isWellFormed_overlay (wellFormed : (Value.object document).isWellFormed = true)
    (fields : ∀ field ∈ news, field.2.isWellFormed = true) :
    (Value.object (document.overlay news)).isWellFormed = true := by
  unfold Table.overlay
  induction news generalizing document with
  | nil => exact wellFormed
  | cons first rest ih =>
    obtain ⟨here, later⟩ := List.forall_mem_cons.mp fields
    obtain ⟨names, values⟩ := Value.object_isWellFormed_iff.mp wellFormed
    have distinct := Table.nodup_names_put names first.1 first.2
    refine ih (Value.object_isWellFormed_iff.mpr ⟨distinct, fun ⟨name, value⟩ there => ?_⟩) later
    have found := (Table.get?_eq_some_iff distinct).mpr there
    rw [Table.get?_put] at found
    split at found
    · cases found
      exact here
    · exact values _ ((Table.get?_eq_some_iff names).mp found)

end Fields

end MailSearch

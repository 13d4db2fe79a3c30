import MailSearch.Proofs.IndexedTerms
import MailSearch.Proofs.QueryMeaning
import MailSearch.Proofs.TextPieces

/-! What the search server finds in stored search fields. It takes an object to be there where a leaf in it is
neither null nor empty; the search fields of a message hold such a leaf just when there is an address, a name or
a subject to index. -/

namespace MailSearch

namespace Value

/-- Whether a value holds, at whatever depth, a leaf that is neither null nor empty. -/
def holdsLeaf : Value → Bool
  | .null => false
  | .text s => s != ""
  | .bytes data => !data.isEmpty
  | .list items | .tuple items => anyHoldsLeaf items
  | .object entries => anyEntryHoldsLeaf entries
  | _ => true
where
  anyHoldsLeaf : List Value → Bool
    | [] => false
    | item :: rest => holdsLeaf item || anyHoldsLeaf rest
  anyEntryHoldsLeaf : List (String × Value) → Bool
    | [] => false
    | (_, value) :: rest => holdsLeaf value || anyEntryHoldsLeaf rest

private theorem holdsLeaf_list (items : List Value) : (Value.list items).holdsLeaf = items.any holdsLeaf := by
  rw [holdsLeaf]
  induction items with
  | nil => rfl
  | cons item rest ih => rw [holdsLeaf.anyHoldsLeaf, ih, List.any_cons]

private theorem holdsLeaf_object (entries : Fields) :
    (Value.object entries).holdsLeaf = entries.any (·.2.holdsLeaf) := by
  rw [holdsLeaf]
  induction entries with
  | nil => rfl
  | cons entry rest ih => rw [holdsLeaf.anyEntryHoldsLeaf, ih, List.any_cons]

end Value

/-- Whether an object counts as present in the document is told by its leaves. -/
def ReadsObjects (leaf : Value → Bool) (document : Fields) : Prop :=
  ∀ path entries, (Value.object document).at? path = some (.object entries) →
    leaf (Predicate.clause (.presence path true)) = (Value.object entries).holdsLeaf

namespace SearchIndex

variable {index : SearchIndex}

private theorem holdsLeaf_ofTexts (texts : List String) : (ofTexts texts).holdsLeaf = texts.any (· != "") := by
  rw [ofTexts, Value.holdsLeaf_list, List.any_map]
  rfl

private theorem any_entry (name : String) (value : Option Value) :
    (entry name value).any (·.2.holdsLeaf) = value.any Value.holdsLeaf := by
  cases value with
  | none => rfl
  | some value => simp [entry]

/-- The stored search fields hold a leaf just when one of them does. -/
theorem holdsLeaf_toValue (index : SearchIndex) :
    index.toValue.holdsLeaf = index.slots.any fun slot => slot.2.any Value.holdsLeaf := by
  rw [toValue, Value.holdsLeaf_object, toFields_eq, List.any_flatMap]
  simp only [any_entry]

end SearchIndex

namespace Envelope

open Text

variable {addressList envelope subject : Value} {text : String}

/-- Someone in an address list has an address or a name. -/
def ShowsSomeone (addressList : Value) : Prop := (∃ term, HasAddress addressList term) ∨ plainNames addressList ≠ []

/-- There is something to index: someone who sends or receives, or a subject. -/
def Indexable (envelope subject : Value) : Prop :=
  (∃ position ∈ [senderPosition, recipientPosition, copiedPosition], ShowsSomeone (fieldAt envelope position)) ∨
    normalizedSubject (effectiveSubject envelope subject) ≠ ""

private theorem HasAddress.ne_empty {term : String} (found : HasAddress addressList term) : term ≠ "" := by
  obtain ⟨entry, -, -, -, rfl⟩ := found
  refine normalized_ne_empty (c := '@') ?_ (by decide) fun _ _ => rfl
  simp

private theorem holdsLeaf_addresses_iff :
    ((addresses addressList).map SearchIndex.ofTexts).any Value.holdsLeaf = true ↔
      ∃ term, HasAddress addressList term := by
  constructor
  · intro holds
    cases listed : addresses addressList with
    | none => simp [listed] at holds
    | some texts =>
      rw [listed, Option.map_some, Option.any_some, SearchIndex.holdsLeaf_ofTexts, List.any_eq_true] at holds
      obtain ⟨term, member, -⟩ := holds
      exact ⟨term, mem_addresses_iff.mp ⟨texts, listed, member⟩⟩
  · intro shown
    obtain ⟨term, found⟩ := shown
    obtain ⟨texts, listed, member⟩ := mem_addresses_iff.mpr found
    rw [listed, Option.map_some, Option.any_some, SearchIndex.holdsLeaf_ofTexts, List.any_eq_true]
    exact ⟨term, member, bne_iff_ne.mpr found.ne_empty⟩

private theorem holdsLeaf_nonEmpty : ((nonEmpty text).map Value.text).any Value.holdsLeaf = true ↔ text ≠ "" := by
  unfold nonEmpty
  split
  next empty => simp [empty]
  next some_ => simp [Value.holdsLeaf, some_]

private theorem intercalate_eq_empty_iff {texts : List String} (each : ∀ s ∈ texts, s ≠ "") :
    String.intercalate " " texts = "" ↔ texts = [] := by
  match texts with
  | [] => simp
  | [only] =>
    have some_ : only ≠ "" := each only List.mem_cons_self
    simp [String.intercalate_singleton, some_]
  | first :: second :: rest => simp [String.intercalate_cons_cons, String.append_eq_empty_iff]

private theorem holdsLeaf_names_iff :
    ((names addressList).map Value.text).any Value.holdsLeaf = true ↔ plainNames addressList ≠ [] := by
  have each : ∀ s ∈ plainNames addressList, s ≠ "" := by
    intro s member
    simpa using (List.mem_filter.mp member).2
  rw [names, ← plainNames_eq, holdsLeaf_nonEmpty, ne_eq, ne_eq, intercalate_eq_empty_iff each]

/-- A subject without any text has no words either. -/
theorem holdsLeaf_words (holds : ((nonEmptyList (pieces text)).map SearchIndex.ofTexts).any Value.holdsLeaf = true) :
    text ≠ "" := by
  rintro rfl
  cases holds

theorem holdsLeaf_searchIndex_iff :
    (searchIndex envelope subject).toValue.holdsLeaf = true ↔ Indexable envelope subject := by
  rw [SearchIndex.holdsLeaf_toValue]
  simp only [SearchIndex.slots, searchIndex, List.any_cons, List.any_nil, Bool.or_false, Bool.or_eq_true,
    holdsLeaf_addresses_iff, holdsLeaf_names_iff, holdsLeaf_nonEmpty, or_iff_left_of_imp holdsLeaf_words]
  simp only [Indexable, ShowsSomeone, List.mem_cons, List.not_mem_nil, or_false, exists_eq_or_imp, exists_eq_left,
    or_assoc]

end Envelope

end MailSearch

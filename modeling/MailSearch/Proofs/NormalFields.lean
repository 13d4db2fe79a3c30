import MailSearch.Proofs.IndexedTerms
import MailSearch.Proofs.NormalTexts

/-! The search fields that are derived from an envelope and a subject, as they are stored: every text in them is in
normal form, the words are those of the subject, and no field is empty. -/

namespace MailSearch

open Text

namespace SearchIndex

/-- What holds of search fields as they are stored, whatever message they were derived from. -/
structure AreNormal (stored : Fields) : Prop where
  distinct : (stored.map Prod.fst).Nodup
  addresses : ∀ name ∈ ["from", "to", "cc"], ∀ value, (name, value) ∈ stored →
    ∃ texts, value = ofTexts texts ∧ texts ≠ [] ∧ ∀ s ∈ texts, IsNormal s ∧ '@' ∈ s.toList
  names : ∀ name ∈ ["fromName", "toName", "ccName"], ∀ value, (name, value) ∈ stored → ∃ s, value = .text s ∧ IsNormal s
  subject : ∀ value, ("subject", value) ∈ stored → ∃ s, value = .text s ∧ IsNormal s
  words : ∀ value, ("subjectWords", value) ∈ stored ↔
    ∃ subject, ("subject", .text subject) ∈ stored ∧ value = ofTexts (pieces subject)
  broken : ∀ subject, ("subject", .text subject) ∈ stored → pieces subject ≠ [] ∧ ∀ word ∈ pieces subject, IsWord word
  filled : ∀ name value, (name, value) ∈ stored → value ≠ .null ∧ value ≠ .text "" ∧ value ≠ .list []

variable {index : SearchIndex} {name : String} {value : Value}

private theorem mem_toFields_iff : (name, value) ∈ index.toFields ↔ (name, some value) ∈ index.slots := by
  rw [toFields_eq, List.mem_flatMap]
  constructor
  · intro stored
    obtain ⟨⟨other, given⟩, slot, inside⟩ := stored
    cases given with
    | none => cases inside
    | some given =>
      cases List.mem_singleton.mp inside
      exact slot
  · intro slot
    exact ⟨_, slot, List.mem_singleton_self _⟩

private theorem names_sublist (table : Table (Option Value)) :
    ((table.flatMap fun slot => entry slot.1 slot.2).map Prod.fst).Sublist (table.map Prod.fst) := by
  induction table with
  | nil => exact .slnil
  | cons first rest ih =>
    obtain ⟨name, value⟩ := first
    rw [List.flatMap_cons, List.map_append]
    cases value with
    | none => exact ih.cons name
    | some value => exact ih.cons_cons name

private theorem nodup_toFields (index : SearchIndex) : (index.toFields.map Prod.fst).Nodup := by
  rw [toFields_eq]
  exact index.nodup_slots.sublist (names_sublist index.slots)

private theorem filled_ofTexts {texts : List String} (some_ : texts ≠ []) :
    ofTexts texts ≠ .null ∧ ofTexts texts ≠ .text "" ∧ ofTexts texts ≠ .list [] := by
  simp [ofTexts, some_]

private theorem filled_text {s : String} (some_ : s ≠ "") :
    Value.text s ≠ .null ∧ Value.text s ≠ .text "" ∧ Value.text s ≠ .list [] := by
  simp [some_]

end SearchIndex

namespace Envelope

open SearchIndex

variable {addressList envelope subject value : Value} {texts : List String} {s : String}

private theorem nonEmptyList_eq_some_iff {found : List String} :
    nonEmptyList found = some texts ↔ found = texts ∧ texts ≠ [] := by
  cases found with
  | nil =>
    refine ⟨nofun, fun held => ?_⟩
    exact absurd held.1.symm held.2
  | cons first rest =>
    rw [nonEmptyList, List.isEmpty_cons, if_neg Bool.false_ne_true, Option.some.injEq]
    exact ⟨fun same => ⟨same, same ▸ List.cons_ne_nil first rest⟩, And.left⟩

private theorem normal_addresses (listed : addresses addressList = some texts) :
    texts ≠ [] ∧ ∀ s ∈ texts, IsNormal s ∧ '@' ∈ s.toList := by
  constructor
  · exact (nonEmptyList_eq_some_iff.mp listed).2
  · intro s member
    have found : HasAddress addressList s := mem_addresses_iff.mp ⟨texts, listed, member⟩
    obtain ⟨entry, -, -, -, rfl⟩ := found
    have sign : '@' ∈ (normalized (partText (elementAt entry 2) ++ "@" ++ partText (elementAt entry 3))).toList :=
      mem_normalized (by simp) (by decide) fun _ _ => rfl
    refine ⟨isNormal_normalized fun empty => ?_, sign⟩
    rw [empty] at sign
    cases sign

private theorem nonEmpty_eq_some_iff {t : String} : nonEmpty t = some s ↔ t = s ∧ s ≠ "" := by
  unfold nonEmpty
  split
  next empty =>
    refine ⟨nofun, fun held => ?_⟩
    exact absurd (held.1.symm.trans empty) held.2
  next some_ =>
    rw [Option.some.injEq]
    exact ⟨fun same => ⟨same, same ▸ some_⟩, And.left⟩

private theorem normal_names (joined : names addressList = some s) : IsNormal s := by
  obtain ⟨rfl, some_⟩ := nonEmpty_eq_some_iff.mp joined
  rw [← plainNames_eq] at some_ ⊢
  refine isNormal_intercalate ?_ fun name member => ?_
  · intro none
    rw [none] at some_
    exact some_ rfl
  · obtain ⟨given, nonblank⟩ := List.mem_filter.mp member
    obtain ⟨part, -, rfl⟩ := List.mem_map.mp given
    exact isNormal_normalized (by simpa using nonblank)

private theorem normalizedSubject_eq (some_ : normalizedSubject subject ≠ "") :
    ∃ s, normalizedSubject subject = normalized s := by
  cases subject with
  | text s => exact ⟨s, rfl⟩
  | bytes data => exact ⟨_, rfl⟩
  | _ => exact absurd rfl some_

private theorem mem_subject_iff :
    ("subject", value) ∈ (searchIndex envelope subject).toFields ↔
      normalizedSubject (effectiveSubject envelope subject) ≠ "" ∧
        value = .text (normalizedSubject (effectiveSubject envelope subject)) := by
  rw [mem_toFields_iff]
  by_cases empty : normalizedSubject (effectiveSubject envelope subject) = "" <;>
    simp [slots, searchIndex, nonEmpty, empty]

private theorem mem_words_iff :
    ("subjectWords", value) ∈ (searchIndex envelope subject).toFields ↔
      pieces (normalizedSubject (effectiveSubject envelope subject)) ≠ [] ∧
        value = ofTexts (pieces (normalizedSubject (effectiveSubject envelope subject))) := by
  rw [mem_toFields_iff]
  cases found : pieces (normalizedSubject (effectiveSubject envelope subject)) <;>
    simp [slots, searchIndex, nonEmptyList, found]

private theorem addresses_of_mem {name : String} (role : name ∈ ["from", "to", "cc"])
    (stored : (name, value) ∈ (searchIndex envelope subject).toFields) :
    ∃ addressList texts, addresses addressList = some texts ∧ value = ofTexts texts := by
  rw [mem_toFields_iff] at stored
  obtain ⟨addressList, made⟩ : ∃ addressList, (addresses addressList).map ofTexts = some value := by
    simp only [List.mem_cons, List.not_mem_nil, or_false] at role
    rcases role with rfl | rfl | rfl <;> exact ⟨_, by simpa [slots, searchIndex, eq_comm] using stored⟩
  obtain ⟨texts, given, rfl⟩ := Option.map_eq_some_iff.mp made
  exact ⟨addressList, texts, given, rfl⟩

private theorem names_of_mem {name : String} (role : name ∈ ["fromName", "toName", "ccName"])
    (stored : (name, value) ∈ (searchIndex envelope subject).toFields) :
    ∃ addressList s, names addressList = some s ∧ value = .text s := by
  rw [mem_toFields_iff] at stored
  obtain ⟨addressList, made⟩ : ∃ addressList, (names addressList).map .text = some value := by
    simp only [List.mem_cons, List.not_mem_nil, or_false] at role
    rcases role with rfl | rfl | rfl <;> exact ⟨_, by simpa [slots, searchIndex, eq_comm] using stored⟩
  obtain ⟨s, given, rfl⟩ := Option.map_eq_some_iff.mp made
  exact ⟨addressList, s, given, rfl⟩

private theorem pieces_ne_nil_iff : pieces (normalizedSubject subject) ≠ [] ↔ normalizedSubject subject ≠ "" := by
  constructor
  · intro some_ empty
    rw [empty] at some_
    exact some_ rfl
  · intro some_
    obtain ⟨s, normal⟩ := normalizedSubject_eq some_
    rw [normal] at some_ ⊢
    exact pieces_normalized_ne_nil some_

private theorem normal_subject (some_ : normalizedSubject subject ≠ "") : IsNormal (normalizedSubject subject) := by
  obtain ⟨s, normal⟩ := normalizedSubject_eq some_
  rw [normal] at some_ ⊢
  exact isNormal_normalized some_

private theorem role_of_mem {name : String} (stored : (name, value) ∈ (searchIndex envelope subject).toFields) :
    name ∈ ["from", "to", "cc"] ∨ name ∈ ["fromName", "toName", "ccName"] ∨
      name = "subject" ∨ name = "subjectWords" := by
  have named : name ∈ (searchIndex envelope subject).slots.map Prod.fst :=
    List.mem_map_of_mem (f := Prod.fst) (mem_toFields_iff.mp stored)
  simp only [slots, List.map_cons, List.map_nil, List.mem_cons, List.not_mem_nil, or_false] at named ⊢
  rcases named with rfl | rfl | rfl | rfl | rfl | rfl | rfl | rfl <;> simp

private theorem areNormal_searchIndex (envelope subject : Value) :
    AreNormal (searchIndex envelope subject).toFields where
  distinct := nodup_toFields _
  addresses := by
    intro name role value stored
    obtain ⟨addressList, texts, listed, rfl⟩ := addresses_of_mem role stored
    exact ⟨texts, rfl, normal_addresses listed⟩
  names := by
    intro name role value stored
    obtain ⟨addressList, s, joined, rfl⟩ := names_of_mem role stored
    exact ⟨s, rfl, normal_names joined⟩
  subject := by
    intro value stored
    obtain ⟨some_, rfl⟩ := mem_subject_iff.mp stored
    exact ⟨_, rfl, normal_subject some_⟩
  words := by
    intro value
    rw [mem_words_iff, pieces_ne_nil_iff]
    constructor
    · intro given
      obtain ⟨some_, rfl⟩ := given
      exact ⟨_, mem_subject_iff.mpr ⟨some_, rfl⟩, rfl⟩
    · intro given
      obtain ⟨s, stored, rfl⟩ := given
      obtain ⟨some_, same⟩ := mem_subject_iff.mp stored
      cases same
      exact ⟨some_, rfl⟩
  broken := by
    intro s stored
    obtain ⟨some_, same⟩ := mem_subject_iff.mp stored
    cases same
    exact ⟨pieces_ne_nil_iff.mpr some_, fun word member => isWord_of_mem_pieces (normal_subject some_).lowered member⟩
  filled := by
    intro name value stored
    rcases role_of_mem stored with role | role | rfl | rfl
    · obtain ⟨addressList, texts, listed, rfl⟩ := addresses_of_mem role stored
      exact filled_ofTexts (normal_addresses listed).1
    · obtain ⟨addressList, s, joined, rfl⟩ := names_of_mem role stored
      exact filled_text (normal_names joined).nonempty
    · obtain ⟨some_, rfl⟩ := mem_subject_iff.mp stored
      exact filled_text some_
    · obtain ⟨some_, rfl⟩ := mem_words_iff.mp stored
      exact filled_ofTexts some_

/-- The search fields of a message can be derived from any envelope without a number too long to be written and from
any subject, and are in normal form as they are stored. -/
theorem derived_fields_are_normal {envelope : Value} (short : envelope.hasLongInt = false) (subject : Value) :
    ∃ index, searchIndex? envelope subject = .ok index ∧ AreNormal index.toFields := by
  refine ⟨searchIndex envelope subject, ?_, areNormal_searchIndex envelope subject⟩
  simp [searchIndex?, hasOverlongEntry_of_short short]

/-- An envelope with capitals that have no simple lower case, blanks, bytes that are no text, and a short entry. -/
def roughEnvelope : Value :=
  .list [.null, .int 7,
    .list [.list [.text " \u0130\u03A3 ", .null, .bytes [0xC3, 0x28], .tuple [.int 1, .null]], .list [.text "A\tB"]],
    .null, .null, .object [("x", .bool true)]]

/-- What of it is stored, with a subject in which a wide blank stands between two words. -/
def roughIndex : SearchIndex where
  sender := some ["\uFFFD(@(1, none)"]
  senderName := some "i\u0307\u03C2 a\tb"
  subject := some "re:\u2003news"
  subjectWords := some ["re:", "news"]

theorem derived_fields_are_normal_of_a_rough_envelope :
    roughEnvelope.hasLongInt = false ∧
      (∃ index, searchIndex? roughEnvelope (.text " Re:\u2003NEWS ") = .ok index ∧ AreNormal index.toFields ∧
        index = roughIndex) ∧
      roughIndex.toFields =
        [("from", .list [.text "\uFFFD(@(1, none)"]), ("fromName", .text "i\u0307\u03C2 a\tb"),
          ("subject", .text "re:\u2003news"), ("subjectWords", .list [.text "re:", .text "news"])] := by
  have short : roughEnvelope.hasLongInt = false := by decide +kernel
  obtain ⟨index, derived, normal⟩ := derived_fields_are_normal short (.text " Re:\u2003NEWS ")
  have given : searchIndex roughEnvelope (.text " Re:\u2003NEWS ") = roughIndex := by decide +kernel
  have same : index = roughIndex := by
    rw [searchIndex?, hasOverlongEntry_of_short short, given] at derived
    exact (Except.ok.inj derived).symm
  exact ⟨short, ⟨index, derived, normal, same⟩, rfl⟩

end Envelope

end MailSearch

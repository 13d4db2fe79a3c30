import Mathlib.Data.List.Forall2
import MailSearch.Envelope
import MailSearch.Proofs.FilterMeaning
import MailSearch.Proofs.StockedCollections

/-! Terms of a search find a message by its search fields just where they fit the envelope and the subject that the
fields were derived from. The fields are followed from the envelope through the stored object, under the paths that
conditions name, to what the patterns accept. A text of the envelope that holds half a pair of code units counts as
absent on both sides. -/

namespace MailSearch

namespace Text

/-- Two texts of the same length whose letters differ at most in case. -/
def Alike (one other : List Char) : Prop := List.Forall₂ (fun a b => sameLetter a b = true) one other

def Begins (part whole : String) : Prop :=
  ∃ start rest, whole.toList = start ++ rest ∧ Alike part.toList start

def Occurs (part whole : String) : Prop :=
  ∃ before found after, whole.toList = before ++ (found ++ after) ∧ Alike part.toList found

end Text

namespace Pattern

open Text

private theorem beginsWith_iff {text chars : List Char} :
    beginsWith text chars = true ↔ ∃ start rest, chars = start ++ rest ∧ Alike text start := by
  induction text generalizing chars with
  | nil =>
    refine ⟨fun _ => ⟨[], chars, rfl, .nil⟩, fun _ => ?_⟩
    cases chars <;> rfl
  | cons a text ih =>
    cases chars with
    | nil =>
      refine ⟨nofun, fun holds => ?_⟩
      obtain ⟨start, rest, whole, alike⟩ := holds
      cases alike
      cases whole
    | cons c chars =>
      rw [beginsWith, Bool.and_eq_true, ih]
      constructor
      · intro holds
        obtain ⟨same, start, rest, rfl, alike⟩ := holds
        exact ⟨c :: start, rest, rfl, .cons same alike⟩
      · intro holds
        obtain ⟨start, rest, whole, alike⟩ := holds
        cases alike with
        | cons same alike =>
          cases whole
          exact ⟨same, _, rest, rfl, alike⟩

private theorem occursIn_iff {text chars : List Char} :
    occursIn text chars = true ↔ ∃ before found after, chars = before ++ (found ++ after) ∧ Alike text found := by
  induction chars with
  | nil =>
    rw [occursIn, List.isEmpty_iff]
    constructor
    · rintro rfl
      exact ⟨[], [], [], rfl, .nil⟩
    · intro holds
      obtain ⟨before, found, after, whole, alike⟩ := holds
      obtain ⟨-, rest⟩ := List.append_eq_nil_iff.mp whole.symm
      obtain ⟨rfl, -⟩ := List.append_eq_nil_iff.mp rest
      cases alike
      rfl
  | cons c chars ih =>
    rw [occursIn, Bool.or_eq_true, ih, beginsWith_iff]
    constructor
    · intro holds
      rcases holds with ⟨start, rest, whole, alike⟩ | ⟨before, found, after, rfl, alike⟩
      · exact ⟨[], start, rest, whole, alike⟩
      · exact ⟨c :: before, found, after, rfl, alike⟩
    · intro holds
      obtain ⟨before, found, after, whole, alike⟩ := holds
      cases before with
      | nil => exact .inl ⟨found, after, whole, alike⟩
      | cons first before =>
        cases whole
        exact .inr ⟨before, found, after, rfl, alike⟩

theorem accepts_anchored_iff {word s : String} : (⟨word, true⟩ : Pattern).accepts s = true ↔ Begins word s :=
  beginsWith_iff

theorem accepts_free_iff {term s : String} : (⟨term, false⟩ : Pattern).accepts s = true ↔ Occurs term s :=
  occursIn_iff

end Pattern

namespace SearchIndex

/-- The stored search fields by name, each with its value if there is one. -/
def slots (index : SearchIndex) : Table (Option Value) :=
  [("from", index.sender.map ofTexts), ("fromName", index.senderName.map .text), ("to", index.recipient.map ofTexts),
    ("toName", index.recipientName.map .text), ("cc", index.copied.map ofTexts), ("ccName", index.copiedName.map .text),
    ("subject", index.subject.map .text), ("subjectWords", index.subjectWords.map ofTexts)]

theorem toFields_eq (index : SearchIndex) : index.toFields = index.slots.flatMap fun slot => entry slot.1 slot.2 := by
  simp [toFields, slots]

theorem nodup_slots (index : SearchIndex) : (index.slots.map Prod.fst).Nodup := by
  simp [slots]

end SearchIndex

namespace Value

variable {record : Value} {path term : String}

end Value

namespace Envelope

open Text

variable {addressList envelope subject : Value} {term : String} {position : Nat}

/-- The term is the address, in normal form, of an entry that has a mailbox and a host. -/
def HasAddress (addressList : Value) (term : String) : Prop :=
  ∃ entry ∈ entries addressList, (elementAt entry 2).isTruthy = true ∧ (elementAt entry 3).isTruthy = true ∧
    normalized (partText (elementAt entry 2) ++ "@" ++ partText (elementAt entry 3)) = term

/-- The names of an address list in normal form, without those that are blank. -/
def plainNames (addressList : Value) : List String :=
  ((((entries addressList).map (elementAt · 0)).filter Value.isTruthy).map fun name =>
    normalized (partText name)).filter (· ≠ "")

private theorem mem_of_nonEmptyList_iff (texts : List String) (property : String → Prop) :
    (∃ listed, nonEmptyList texts = some listed ∧ ∃ s ∈ listed, property s) ↔ ∃ s ∈ texts, property s := by
  cases texts <;> simp [nonEmptyList]

private theorem address?_eq_some_iff {entry : List Value} :
    address? entry = some term ↔ (elementAt entry 2).isTruthy = true ∧ (elementAt entry 3).isTruthy = true ∧
      normalized (partText (elementAt entry 2) ++ "@" ++ partText (elementAt entry 3)) = term := by
  simp [address?, and_assoc]

theorem mem_addresses_iff :
    (∃ listed, addresses addressList = some listed ∧ term ∈ listed) ↔ HasAddress addressList term := by
  have listed := mem_of_nonEmptyList_iff ((entries addressList).filterMap address?) (· = term)
  simp only [exists_eq_right, List.mem_filterMap, address?_eq_some_iff] at listed
  exact listed

theorem plainNames_eq (addressList : Value) : plainNames addressList = (entries addressList).filterMap name? := by
  unfold plainNames
  induction entries addressList with
  | nil => rfl
  | cons entry rest ih =>
    rw [List.filterMap_cons, ← ih]
    unfold name?
    by_cases given : (elementAt entry 0).isTruthy = true
    · by_cases blank : normalized (partText (elementAt entry 0)) = ""
      · simp [given, blank]
      · simp [given, blank]
    · simp [given]

end Envelope

section Stored

open Envelope

variable {message : Fields} {envelope subject : Value} {term : String}

end Stored

namespace Criteria

variable {sender recipient subject : Option String} {record : Value} {user : String} {resolved : MailboxScope}

private theorem Asks.nonblank {text : Option String} {term : String} (asked : Asks text term) : term ≠ "" := by
  obtain ⟨s, -, -, nonblank⟩ := asked
  exact nonblank

end Criteria

section Letter

open Envelope

def letterEnvelope : Value :=
  .list [.null, .bytes [78, 101, 119, 115], .list [.list [.text "Ann Lee", .null, .text "Ann", .text "B.org"], .null]]

def letter : Fields :=
  [("user", .text "u"), ("search", (searchIndex letterEnvelope (.text "Weekly News")).toValue)]

end Letter

end MailSearch

import Mathlib.Data.List.Forall2
import MailSearch.Envelope

/-! Texts that are given as bytes. The reader of bytes takes an encoded text back to its characters, so the search
fields of a message are the same whichever texts of its envelope and subject are encoded. -/

namespace MailSearch

namespace Text.Utf8

private theorem toNat_continuing (more : Nat) : (UInt8.ofNat (0x80 + more % 64)).toNat = 0x80 + more % 64 :=
  UInt8.toNat_ofNat_of_lt' (by simp only [UInt8.size]; omega)

/-- The byte that a pending character waits for last completes it. -/
theorem scan_last (bits more : Nat) (rest : List UInt8) :
    scan ⟨1, 0x80, 0xBF, bits⟩ (UInt8.ofNat (0x80 + more % 64) :: rest) =
      some (Char.ofNat (bits * 64 + more % 64)) :: scan between rest := by
  have fits : 0x80 ≤ 0x80 + more % 64 ∧ 0x80 + more % 64 ≤ 0xBF := by omega
  simp only [scan, step, toNat_continuing, if_pos fits, ↓reduceIte, Nat.add_sub_cancel_left, List.singleton_append]

private theorem scan_continued {low high expected bits more : Nat} (rest : List UInt8) (above : low ≤ 0x80 + more % 64)
    (below : 0x80 + more % 64 ≤ high) :
    scan ⟨expected + 2, low, high, bits⟩ (UInt8.ofNat (0x80 + more % 64) :: rest) =
      scan ⟨expected + 1, 0x80, 0xBF, bits * 64 + more % 64⟩ rest := by
  have unfinished : expected + 1 ≠ 0 := Nat.succ_ne_zero expected
  simp only [scan, step, toNat_continuing, if_pos (And.intro above below), if_neg unfinished, Nat.add_sub_cancel_left,
    List.nil_append]

private theorem scan_first (byte : UInt8) (rest : List UInt8) :
    scan between (byte :: rest) = (lead byte.toNat).1 ++ scan (lead byte.toNat).2 rest := rfl

/-- An encoded character is read back, whatever follows it. -/
theorem scan_encodeChar (c : Char) (rest : List UInt8) :
    scan between (encodeChar c ++ rest) = some c :: scan between rest := by
  have valid : c.toNat < 0xD800 ∨ 0xDFFF < c.toNat ∧ c.toNat < 0x110000 := c.valid
  have first {n : Nat} (small : n < 256) : (UInt8.ofNat n).toNat = n := UInt8.toNat_ofNat_of_lt' small
  simp only [encodeChar, Nat.div_one]
  split
  next one =>
    rw [List.singleton_append, scan_first, first (by omega), lead, if_pos one, Char.ofNat_toNat, List.singleton_append]
  split
  next two =>
    have leads : lead (0xC0 + c.toNat / 64) = ([], ⟨1, 0x80, 0xBF, c.toNat / 64⟩) := by
      rw [lead, if_neg (by omega), if_pos (by omega), Nat.add_sub_cancel_left]
    have whole : c.toNat / 64 * 64 + c.toNat % 64 = c.toNat := by omega
    rw [List.cons_append, scan_first, first (by omega), leads]
    simp only [List.nil_append, List.cons_append]
    rw [scan_last, whole, Char.ofNat_toNat]
  split
  next three =>
    have leads : lead (0xE0 + c.toNat / 4096) =
        ([], ⟨2, if 0xE0 + c.toNat / 4096 = 0xE0 then 0xA0 else 0x80,
          if 0xE0 + c.toNat / 4096 = 0xED then 0x9F else 0xBF, c.toNat / 4096⟩) := by
      rw [lead, if_neg (by omega), if_neg (by omega), if_pos (by omega), Nat.add_sub_cancel_left]
    have whole : (c.toNat / 4096 * 64 + c.toNat / 64 % 64) * 64 + c.toNat % 64 = c.toNat := by omega
    rw [List.cons_append, scan_first, first (by omega), leads]
    simp only [List.nil_append, List.cons_append]
    rw [scan_continued, scan_last, whole, Char.ofNat_toNat]
    -- the narrower ranges keep out long forms and halves of pairs, and the character is none of these
    all_goals split <;> omega
  next four =>
    have leads : lead (0xF0 + c.toNat / 262144) =
        ([], ⟨3, if 0xF0 + c.toNat / 262144 = 0xF0 then 0x90 else 0x80,
          if 0xF0 + c.toNat / 262144 = 0xF4 then 0x8F else 0xBF, c.toNat / 262144⟩) := by
      rw [lead, if_neg (by omega), if_neg (by omega), if_neg (by omega), if_pos (by omega), Nat.add_sub_cancel_left]
    have whole : ((c.toNat / 262144 * 64 + c.toNat / 4096 % 64) * 64 + c.toNat / 64 % 64) * 64 + c.toNat % 64 =
        c.toNat := by omega
    rw [List.cons_append, scan_first, first (by omega), leads]
    simp only [List.nil_append, List.cons_append]
    rw [scan_continued, scan_continued, scan_last, whole, Char.ofNat_toNat]
    all_goals (try split) <;> omega

private theorem decodeReplacing_encode (chars : List Char) : decodeReplacing (encode chars) = chars := by
  have read : scan between (encode chars) = chars.map some := by
    induction chars with
    | nil => rfl
    | cons c rest ih => rw [encode, List.flatMap_cons, scan_encodeChar, ← encode, ih, List.map_cons]
  rw [decodeReplacing, read, List.map_map]
  exact List.map_id chars

private theorem encodeChar_eq (c : Char) : encodeChar c = String.utf8EncodeChar c := by
  have valid : c.toNat < 0xD800 ∨ 0xDFFF < c.toNat ∧ c.toNat < 0x110000 := c.valid
  have val : c.val.toNat = c.toNat := rfl
  simp only [encodeChar, String.utf8EncodeChar, val, Nat.div_one, Nat.add_comm 0x80]
  split
  next one => rw [if_pos (by omega)]
  split
  next two =>
    rw [if_neg (by omega), if_pos (by omega), show c.toNat / 64 % 32 + 192 = 0xC0 + c.toNat / 64 by omega]
  split
  next three =>
    rw [if_neg (by omega), if_neg (by omega), if_pos (by omega),
      show c.toNat / 4096 % 16 + 224 = 0xE0 + c.toNat / 4096 by omega]
  next four =>
    rw [if_neg (by omega), if_neg (by omega), if_neg (by omega),
      show c.toNat / 262144 % 8 + 240 = 0xF0 + c.toNat / 262144 by omega]

private theorem encode_toList (s : String) : encode s.toList = s.toUTF8.data.toList := by
  have chars : encodeChar = String.utf8EncodeChar := funext encodeChar_eq
  simp [String.toUTF8, ← String.utf8Encode_toList, List.utf8Encode, encode, chars]

end Text.Utf8

/-- A text as the bytes that encode it; other values are left as they are. -/
def Value.encoded : Value → Value
  | .text s => .bytes s.toUTF8.data.toList
  | value => value

/-- Changes each element of a list or a tuple by what its position asks for. -/
def Value.mapElements (change : Nat → Value → Value) : Value → Value
  | .list items => .list (items.mapIdx change)
  | .tuple items => .tuple (items.mapIdx change)
  | value => value

private theorem Value.elements?_mapElements (change : Nat → Value → Value) (value : Value) :
    (value.mapElements change).elements? = value.elements?.map (·.mapIdx change) := by
  cases value <;> rfl

namespace Envelope

open Text

/-- Where the text of a message that is indexed stands: the subject that comes with the envelope, the subject in it,
or a part of an entry of one of its address lists. -/
inductive Place where
  | given
  | subject
  | part (addressList entry position : Nat)

/-- The positions of the name, the mailbox and the host in an entry. -/
def partPositions : List Nat := [0, 2, 3]

/-- The positions of the address lists that are indexed. -/
def listPositions : List Nat := [senderPosition, recipientPosition, copiedPosition]

/-- Encodes the value if it is chosen. -/
def encodedWhere (chosen : Bool) (value : Value) : Value := if chosen then value.encoded else value

def encodedEntry (chosen : Nat → Bool) : Value → Value :=
  Value.mapElements fun position => encodedWhere (partPositions.contains position && chosen position)

def encodedList (chosen : Nat → Nat → Bool) : Value → Value
  | .list items => .list (items.mapIdx fun entry => encodedEntry (chosen entry))
  | value => value

def encodedField (chosen : Place → Bool) (position : Nat) : Value → Value :=
  if position = subjectPosition then encodedWhere (chosen .subject)
  else if listPositions.contains position then encodedList fun entry part => chosen (.part position entry part)
  else id

/-- The envelope with the texts at the chosen places encoded. -/
def encodedAt (chosen : Place → Bool) (envelope : Value) : Value := envelope.mapElements (encodedField chosen)

/-- Two values that give the same search fields, as a part of an entry or as a subject. -/
structure ReadAlike (one other : Value) : Prop where
  truthy : one.isTruthy = other.isTruthy
  text : partText one = partText other
  long : one.hasLongInt = other.hasLongInt
  subject : normalizedSubject one = normalizedSubject other

private theorem ReadAlike.refl (value : Value) : ReadAlike value value := ⟨rfl, rfl, rfl, rfl⟩

private theorem readAlike_encoded (value : Value) : ReadAlike value.encoded value := by
  cases value with
  | text s =>
    have characters : partText (.bytes s.toUTF8.data.toList) = s := by
      rw [partText, ← Utf8.encode_toList, Utf8.decodeReplacing_encode, String.ofList_toList]
    have truthy : (!s.toUTF8.data.toList.isEmpty) = (s != "") := by
      rw [Bool.eq_iff_iff, bne_iff_ne, Bool.not_eq_true', ← Bool.not_eq_true, List.isEmpty_iff]
      refine not_congr ⟨fun empty => ?_, fun empty => by rw [empty]; rfl⟩
      rw [← characters, partText, empty]
      rfl
    exact ⟨truthy, characters, rfl, congrArg normalized characters⟩
  | _ => exact .refl _

private theorem readAlike_encodedWhere (chosen : Bool) (value : Value) :
    ReadAlike (encodedWhere chosen value) value := by
  cases chosen with
  | true => exact readAlike_encoded value
  | false => exact .refl value

private theorem elementAt_mapIdx {change : Nat → Value → Value} {position : Nat} (none_ : change position .null = .null)
    (elements : List Value) :
    elementAt (elements.mapIdx change) position = change position (elementAt elements position) := by
  unfold elementAt
  rw [List.getElem?_mapIdx]
  cases elements[position]? with
  | none => exact none_.symm
  | some => rfl

/-- Entries with parts that are read alike. -/
def EntriesAlike (one other : List Value) : Prop :=
  ∀ position ∈ partPositions, ReadAlike (elementAt one position) (elementAt other position)

private theorem address?_congr {one other : List Value} (alike : EntriesAlike one other) :
    address? one = address? other := by
  have mailbox := alike 2 (by decide)
  have host := alike 3 (by decide)
  simp only [address?, mailbox.truthy, mailbox.text, host.truthy, host.text]

private theorem name?_congr {one other : List Value} (alike : EntriesAlike one other) : name? one = name? other := by
  have name := alike 0 (by decide)
  simp only [name?, name.truthy, name.text]

private theorem isOverlong_congr {one other : List Value} (alike : EntriesAlike one other) :
    isOverlong one = isOverlong other := by
  have name := alike 0 (by decide)
  have mailbox := alike 2 (by decide)
  have host := alike 3 (by decide)
  simp only [isOverlong, name.long, mailbox.truthy, mailbox.long, host.truthy, host.long]

/-- Address lists whose entries are read alike, one by one. -/
def ListsAlike (one other : Value) : Prop := List.Forall₂ EntriesAlike (entries one) (entries other)

private theorem encodedWhere_null (chosen : Bool) : encodedWhere chosen .null = .null := by
  cases chosen <;> rfl

private theorem entriesAlike_encoded (chosen : Nat → Bool) (parts : List Value) :
    EntriesAlike (parts.mapIdx fun position => encodedWhere (partPositions.contains position && chosen position))
      parts := by
  intro position _
  rw [elementAt_mapIdx (encodedWhere_null _)]
  exact readAlike_encodedWhere _ _

private theorem listsAlike_encodedList (chosen : Nat → Nat → Bool) (addressList : Value) :
    ListsAlike (encodedList chosen addressList) addressList := by
  unfold ListsAlike
  cases addressList with
  | list items =>
    simp only [encodedList, entries]
    induction items generalizing chosen with
    | nil => exact .nil
    | cons item rest ih =>
      have later := ih fun entry => chosen (entry + 1)
      rw [List.mapIdx_cons, List.filterMap_cons, List.filterMap_cons, encodedEntry, Value.elements?_mapElements]
      cases item.elements? with
      | none => exact later
      | some parts => exact .cons (entriesAlike_encoded _ parts) later
  | _ => exact .nil

section Lists

variable {one other : Value} {first second : List (List Value)}

private theorem filterMap_congr {α : Type} {read : List Value → Option α}
    (same : ∀ {one other}, EntriesAlike one other → read one = read other)
    (alike : List.Forall₂ EntriesAlike first second) : first.filterMap read = second.filterMap read := by
  induction alike with
  | nil => rfl
  | cons here _ ih => rw [List.filterMap_cons, List.filterMap_cons, same here, ih]

private theorem any_isOverlong_congr (alike : List.Forall₂ EntriesAlike first second) :
    first.any isOverlong = second.any isOverlong := by
  induction alike with
  | nil => rfl
  | cons here _ ih => rw [List.any_cons, List.any_cons, isOverlong_congr here, ih]

private theorem addresses_congr (alike : ListsAlike one other) : addresses one = addresses other :=
  congrArg nonEmptyList (filterMap_congr address?_congr alike)

private theorem names_congr (alike : ListsAlike one other) : names one = names other := by
  rw [names, names, filterMap_congr name?_congr alike]

end Lists

variable (chosen : Place → Bool) (envelope subject : Value)

private theorem encodedField_null (position : Nat) : encodedField chosen position .null = .null := by
  unfold encodedField
  split
  · exact encodedWhere_null _
  split <;> rfl

private theorem fieldAt_encodedAt (position : Nat) :
    fieldAt (encodedAt chosen envelope) position = encodedField chosen position (fieldAt envelope position) := by
  rw [fieldAt, encodedAt, Value.elements?_mapElements, fieldAt]
  cases envelope.elements? with
  | none => exact (encodedField_null chosen position).symm
  | some fields => exact elementAt_mapIdx (encodedField_null chosen position) fields

private theorem listsAlike_fieldAt (position : Nat) (listed : position ∈ listPositions) :
    ListsAlike (fieldAt (encodedAt chosen envelope) position) (fieldAt envelope position) := by
  have field : position ≠ subjectPosition := by
    rintro rfl
    revert listed
    decide
  rw [fieldAt_encodedAt, encodedField, if_neg field, if_pos (List.contains_iff_mem.mpr listed)]
  exact listsAlike_encodedList _ _

private theorem readAlike_effectiveSubject :
    ReadAlike (effectiveSubject (encodedAt chosen envelope) (encodedWhere (chosen .given) subject))
      (effectiveSubject envelope subject) := by
  have given := readAlike_encodedWhere (chosen .given) subject
  unfold effectiveSubject
  rw [given.truthy, fieldAt_encodedAt]
  split
  · exact given
  · exact readAlike_encodedWhere _ _

/-- Whichever texts of an envelope and of the subject with it are given as the bytes that encode them, the message gets
the same search fields, or none if a number in the envelope is too long to be written. -/
theorem encoded_texts_index_alike :
    searchIndex? (encodedAt chosen envelope) (encodedWhere (chosen .given) subject) =
      searchIndex? envelope subject := by
  have sender := listsAlike_fieldAt chosen envelope senderPosition (by decide)
  have recipient := listsAlike_fieldAt chosen envelope recipientPosition (by decide)
  have copied := listsAlike_fieldAt chosen envelope copiedPosition (by decide)
  have overlong : hasOverlongEntry (encodedAt chosen envelope) = hasOverlongEntry envelope := by
    simp only [hasOverlongEntry, List.any_cons, any_isOverlong_congr sender, any_isOverlong_congr recipient,
      any_isOverlong_congr copied]
    rfl
  have fields : searchIndex (encodedAt chosen envelope) (encodedWhere (chosen .given) subject) =
      searchIndex envelope subject := by
    simp only [searchIndex, addresses_congr sender, addresses_congr recipient, addresses_congr copied,
      names_congr sender, names_congr recipient, names_congr copied,
      (readAlike_effectiveSubject chosen envelope subject).subject]
  rw [searchIndex?, overlong, fields, searchIndex?]

example : (searchIndex (.list [.null, .bytes [0xC3, 0x89]]) .null).subject = some "é" := by decide +kernel

end Envelope

end MailSearch

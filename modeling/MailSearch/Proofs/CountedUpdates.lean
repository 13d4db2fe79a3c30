import MailSearch.Proofs.OverlaidDocuments
import MailSearch.Proofs.OwnIds

/-! What an update of several documents does to a collection and what it counts. Each document becomes what it was
with the fields of its own update set. The number is that of the documents that differ afterwards, without those that
gain nothing but nulls, and with those that are given their own undefined numbers again. -/

namespace MailSearch

/-- The fields that the updates give to the document under a key. -/
def newsFor (updates : List (Value × Fields)) (key : Value) : Fields :=
  ((updates.find? fun update => key.agrees update.1).map Prod.snd).getD []

/-- The entry with the fields of its own update set. -/
def Entry.overlaid (updates : List (Value × Fields)) (entry : Entry) : Entry :=
  ⟨entry.key, entry.document.overlay (newsFor updates entry.key)⟩

section Addressed

variable {updates : List (Value × Fields)} {key id : Value}

theorem newsFor_cons_of_addressed (addressed : key.agrees id = true) (news : Fields) :
    newsFor ((id, news) :: updates) key = news := by
  simp [newsFor, addressed]

private theorem newsFor_cons_of_other (other : key.agrees id = false) (news : Fields) :
    newsFor ((id, news) :: updates) key = newsFor updates key := by
  simp [newsFor, other]

private theorem forall_newsFor (property : Fields → Prop) (none : property [])
    (each : ∀ update ∈ updates, property update.2) (key : Value) : property (newsFor updates key) := by
  unfold newsFor
  cases found : updates.find? fun update => key.agrees update.1 with
  | none => exact none
  | some update => exact each update (List.mem_of_find?_eq_some found)

private theorem newsFor_of_unaddressed (unaddressed : ∀ id ∈ updates.map Prod.fst, key.agrees id = false) :
    newsFor updates key = [] := by
  have none : updates.find? (fun update => key.agrees update.1) = none :=
    List.find?_eq_none.mpr fun update member => Bool.eq_false_iff.mp (unaddressed _ (List.mem_map_of_mem member))
  simp [newsFor, none]

/-- The fields for a key are those of whichever update addresses it. -/
theorem newsFor_of_mem (hashable : key.isHashable = true) (ids : Value.DistinctKeys (updates.map Prod.fst))
    {update : Value × Fields} (member : update ∈ updates) (addressed : key.agrees update.1 = true) :
    newsFor updates key = update.2 := by
  induction updates with
  | nil => cases member
  | cons first rest ih =>
    obtain ⟨id, news⟩ := first
    rcases List.mem_cons.mp member with rfl | later
    · exact newsFor_cons_of_addressed addressed news
    · have other : key.agrees id = false := by
        refine Bool.eq_false_iff.mpr fun also => ?_
        cases addressed.symm.trans (ids.disagrees hashable also (List.mem_map_of_mem later))
      rw [newsFor_cons_of_other other]
      exact ih ids.of_cons later

namespace Entry

variable {entry : Entry}

@[simp] theorem key_overlaid : (entry.overlaid updates).key = entry.key := rfl

private theorem overlaid_of_unaddressed (unaddressed : newsFor updates entry.key = []) :
    entry.overlaid updates = entry := by
  rw [overlaid, unaddressed]
  rfl

private theorem overlaid_cons_of_addressed (addressed : entry.key.agrees id = true) (news : Fields) :
    entry.overlaid ((id, news) :: updates) = entry.overlaid [(id, news)] := by
  simp only [overlaid, newsFor_cons_of_addressed addressed]

end Entry

end Addressed

namespace Collection

/-- How many documents have the property together with the fields that the updates give to them. -/
def countGiven (collection : Collection) (updates : List (Value × Fields)) (property : Fields → Fields → Bool) : Nat :=
  collection.countP fun entry => property entry.document (newsFor updates entry.key)

/-- How many documents of a collection are no longer equal to what they were. -/
def countDiffering (before after : Collection) : Nat :=
  (before.zip after).countP fun (old, new) => !(Value.object old.document).same (.object new.document)

/-- Every document is filed under a key of its own, gives no name twice, and has no text with half a pair of code
units. -/
structure WellFormed (collection : Collection) : Prop where
  keys : Value.DistinctKeys (collection.map Entry.key)
  documents : ∀ entry ∈ collection, (Value.object entry.document).isWellFormed = true

variable {collection before after : Collection} {entry : Entry} {id : Value} {document news : Fields}
variable {updates : List (Value × Fields)} {property : Fields → Fields → Bool}

private theorem countGiven_append : countGiven (before ++ after) updates property =
    countGiven before updates property + countGiven after updates property :=
  List.countP_append

private theorem countGiven_cons : countGiven (entry :: after) updates property =
    countGiven after updates property + if property entry.document (newsFor updates entry.key) then 1 else 0 :=
  List.countP_cons

private theorem countGiven_cons_of_absent (absent : ∀ entry ∈ collection, entry.key.agrees id = false) :
    countGiven collection ((id, news) :: updates) property = countGiven collection updates property :=
  List.countP_congr fun entry there => by rw [newsFor_cons_of_other (absent entry there)]

private theorem overlaid_cons_of_absent (absent : ∀ entry ∈ collection, entry.key.agrees id = false) :
    collection.map (Entry.overlaid ((id, news) :: updates)) = collection.map (Entry.overlaid updates) := by
  refine List.map_congr_left fun entry there => ?_
  rw [Entry.overlaid, newsFor_cons_of_other (absent entry there), Entry.overlaid]

private theorem countDiffering_overlaid (updates : List (Value × Fields)) :
    countDiffering collection (collection.map (Entry.overlaid updates)) =
      countGiven collection updates Fields.differs := by
  unfold countDiffering
  induction collection with
  | nil => rfl
  | cons entry rest ih =>
    rw [countGiven_cons, ← ih, List.map_cons, List.zip_cons_cons, List.countP_cons]
    rfl

/-- The documents that are counted and those that gain only nulls are as many as those that differ and those that
repeat undefined numbers. -/
theorem countGiven_isCounted (documents : ∀ entry ∈ collection, (Value.object entry.document).isWellFormed = true)
    (fields : ∀ update ∈ updates, (update.2.map Prod.fst).Nodup) :
    countGiven collection updates Fields.isCounted + countGiven collection updates Fields.gainsOnlyNulls =
      countGiven collection updates Fields.differs + countGiven collection updates Fields.repeatsUndefined := by
  induction collection with
  | nil => rfl
  | cons entry rest ih =>
    obtain ⟨here, later⟩ := List.forall_mem_cons.mp documents
    have distinct : ((newsFor updates entry.key).map Prod.fst).Nodup :=
      forall_newsFor (fun news => (news.map Prod.fst).Nodup) List.nodup_nil fields entry.key
    have others := ih later
    simp only [countGiven_cons, Fields.gainsOnlyNulls_eq here distinct, Fields.repeatsUndefined_eq here distinct]
    cases entry.document.isCounted (newsFor updates entry.key) <;>
      cases entry.document.differs (newsFor updates entry.key) <;> simp <;> omega

/-- What addresses an entry addresses no other one. -/
theorem unaddressed_of_split (keys : Value.DistinctKeys ((before ++ entry :: after).map Entry.key))
    (addressed : entry.key.agrees id = true) :
    (∀ other ∈ before, other.key.agrees id = false) ∧ ∀ other ∈ after, other.key.agrees id = false := by
  have hashable := List.forall_mem_map.mp keys.hashable
  have here := hashable entry (by simp)
  have apart := List.pairwise_append.mp (List.pairwise_map.mp keys.apart)
  constructor
  · intro other earlier
    refine Bool.eq_false_iff.mpr fun also => ?_
    have agree := Value.agrees_of_agree_with (hashable other (by simp [earlier])) here also addressed
    cases agree.symm.trans (apart.2.2 other earlier entry List.mem_cons_self)
  · intro other later
    refine Bool.eq_false_iff.mpr fun also => ?_
    have agree := Value.agrees_of_agree_with here (hashable other (by simp [later])) addressed also
    cases agree.symm.trans ((List.pairwise_cons.mp apart.2.1).1 other later)

private theorem WellFormed.put (wellFormed : collection.WellFormed) (hashable : id.isHashable = true)
    (filed : (Value.object document).isWellFormed = true) : (collection.put id document).WellFormed := by
  refine ⟨?_, forall_put wellFormed.documents filed fun _ _ _ => filed⟩
  rw [keys_put]
  split
  · exact wellFormed.keys
  next absent =>
    constructor
    · exact List.forall_mem_append.mpr ⟨wellFormed.keys.hashable, List.forall_mem_singleton.mpr hashable⟩
    · refine List.pairwise_append.mpr ⟨wellFormed.keys.apart, List.pairwise_singleton _ _, ?_⟩
      intro key there other new
      rw [List.mem_singleton.mp new]
      exact Bool.eq_false_iff.mpr fun agrees => absent (List.any_eq_true.mpr ⟨key, there, agrees⟩)

private theorem WellFormed.update (wellFormed : collection.WellFormed)
    (fields : ∀ field ∈ news, field.2.isWellFormed = true) : (Memory.update collection id news).2.WellFormed := by
  refine ⟨keys_update collection id news ▸ wellFormed.keys, fun entry member => ?_⟩
  obtain ⟨old, there, changed⟩ := mem_update member
  cases changed with
  | kept => exact wellFormed.documents _ there
  | overlaid => exact Fields.isWellFormed_overlay (wellFormed.documents old there) fields

end Collection

namespace Memory

section Steps

variable {collection before after : Collection} {entry : Entry} {id : Value} {news : Fields}
variable {updates : List (Value × Fields)}

private theorem updateAll_cons (hashable : id.isHashable = true) : updateAll collection ((id, news) :: updates) =
    let (changed, updated) := update collection id news
    ((updateAll updated updates).1.map (· + if changed then 1 else 0), (updateAll updated updates).2) := by
  rw [updateAll, if_pos hashable]

theorem update_of_absent (absent : ∀ entry ∈ collection, entry.key.agrees id = false) :
    update collection id news = (false, collection) := by
  have none : collection.find? id = none := by
    rw [Collection.find?, List.find?_eq_none.mpr fun entry there => by simpa using absent entry there, Option.map_none]
  rw [update, none]

theorem update_of_split (absent : ∀ other ∈ before, other.key.agrees id = false)
    (addressed : entry.key.agrees id = true) : update (before ++ entry :: after) id news =
      (entry.document.isCounted news, before ++ entry.overlaid [(id, news)] :: after) := by
  rw [update, Collection.find?_of_split absent addressed]
  dsimp only
  rw [Collection.put_of_split absent addressed, Entry.overlaid, newsFor_cons_of_addressed addressed]
  rfl

/-- Updates of different documents set the fields of each, and count those of which one was not equal. -/
theorem updateAll_eq (keys : Value.DistinctKeys (collection.map Entry.key))
    (ids : Value.DistinctKeys (updates.map Prod.fst)) : updateAll collection updates =
      (.ok (collection.countGiven updates Fields.isCounted), collection.map (Entry.overlaid updates)) := by
  induction updates generalizing collection with
  | nil =>
    have kept : collection.map (Entry.overlaid []) = collection := List.map_id collection
    have none : collection.countGiven [] Fields.isCounted = 0 := by simp [Collection.countGiven, newsFor]
    rw [kept, none, updateAll]
  | cons first rest ih =>
    obtain ⟨id, news⟩ := first
    rw [updateAll_cons (ids.hashable id List.mem_cons_self)]
    -- at most one entry is addressed, and no later update addresses that one again
    by_cases addressed : ∃ entry ∈ collection, entry.key.agrees id = true
    · obtain ⟨entry, there, addressed⟩ := addressed
      obtain ⟨before, after, rfl⟩ := List.append_of_mem there
      obtain ⟨earlier, others⟩ := Collection.unaddressed_of_split keys addressed
      have own : newsFor rest entry.key = [] := newsFor_of_unaddressed fun other member =>
        ids.disagrees (keys.hashable _ (List.mem_map_of_mem there)) addressed member
      have set : entry.overlaid ((id, news) :: rest) = entry.overlaid [(id, news)] :=
        Entry.overlaid_cons_of_addressed addressed news
      have final : (entry.overlaid [(id, news)]).overlaid rest = entry.overlaid [(id, news)] :=
        Entry.overlaid_of_unaddressed own
      have kept : Value.DistinctKeys ((before ++ entry.overlaid [(id, news)] :: after).map Entry.key) := by
        simpa using keys
      simp only [update_of_split earlier addressed, ih kept ids.of_cons]
      simp only [Except.map, Collection.countGiven_append, Collection.countGiven_cons, List.map_append, List.map_cons,
        Collection.countGiven_cons_of_absent earlier, Collection.countGiven_cons_of_absent others,
        Collection.overlaid_cons_of_absent earlier, Collection.overlaid_cons_of_absent others, set, final,
        Entry.key_overlaid, own, newsFor_cons_of_addressed addressed, Fields.isCounted_nil]
      simp [Nat.add_assoc]
    · have absent : ∀ entry ∈ collection, entry.key.agrees id = false := by simpa using addressed
      simp only [update_of_absent absent, ih keys ids.of_cons, Collection.countGiven_cons_of_absent absent,
        Collection.overlaid_cons_of_absent absent]
      rfl

end Steps

variable {memory : Memory} {name : String} {change : Change} {history : List Change}
variable {updates : List (Value × Fields)}

/-- No object in what the change brings gives a name twice, and no text in it has half a pair of code units. -/
def Change.BringsWellFormed : Change → Prop
  | insert _ documents => ∀ document ∈ documents, document.isWellFormed = true
  | update _ updates => ∀ update ∈ updates, ∀ field ∈ update.2, field.2.isWellFormed = true

private theorem wellFormed_insert {documents : List Value} (wellFormed : ∀ name, (memory.collection name).WellFormed)
    (brought : ∀ document ∈ documents, document.isWellFormed = true) :
    ∀ other, ((memory.insert name documents).2.collection other).WellFormed := by
  induction documents generalizing memory with
  | nil => exact wellFormed
  | cons document rest ih =>
    obtain ⟨here, later⟩ := List.forall_mem_cons.mp brought
    unfold Memory.insert
    split
    next fields =>
      split
      · exact wellFormed
      next id _ =>
        split
        next hashable =>
          refine ih (fun other => ?_) later
          rw [collection_withCollection]
          split
          · exact (wellFormed name).put hashable here
          · exact wellFormed other
        · exact wellFormed
    · exact wellFormed

private theorem wellFormed_apply (wellFormed : ∀ name, (memory.collection name).WellFormed)
    (brought : change.BringsWellFormed) : ∀ name, ((change.apply memory).collection name).WellFormed := by
  cases change with
  | insert target documents => exact wellFormed_insert wellFormed brought
  | update target updates =>
    intro name
    simp only [Change.apply, bulkUpdate, collection_withCollection]
    split
    · refine updateAll_induction (motive := Collection.WellFormed) (wellFormed target) ?_
      exact fun collection id news member kept => kept.update (brought (id, news) member)
    · exact wellFormed name

/-- Whatever is inserted and updated, every document stays under a key of its own and gives no name twice. -/
theorem wellFormed_after (wellFormed : ∀ name, (memory.collection name).WellFormed)
    (brought : ∀ change ∈ history, change.BringsWellFormed) :
    ∀ name, ((memory.after history).collection name).WellFormed := by
  induction history generalizing memory with
  | nil => exact wellFormed
  | cons change later ih =>
    obtain ⟨here, others⟩ := List.forall_mem_cons.mp brought
    exact ih (wellFormed_apply wellFormed here) others

private theorem wellFormed_empty : ∀ name, (({} : Memory).collection name).WellFormed :=
  fun _ => ⟨⟨nofun, .nil⟩, nofun⟩

/-- Updates of different documents set on each the fields that are given for it, and change nothing else. The number
of documents that they count is the number of those that differ afterwards, less those that gain nothing but nulls, and
with those that are given their own undefined numbers again. -/
theorem updates_count_what_they_change (wellFormed : (memory.collection name).WellFormed)
    (ids : Value.DistinctKeys (updates.map Prod.fst))
    (fields : ∀ update ∈ updates, (update.2.map Prod.fst).Nodup) :
    ∃ modified final, memory.bulkUpdate name updates = (.ok modified, final) ∧
      final.collection name = (memory.collection name).map (Entry.overlaid updates) ∧
      (∀ entry ∈ memory.collection name, ∀ update ∈ updates, entry.key.agrees update.1 = true →
        newsFor updates entry.key = update.2) ∧
      (∀ other, other ≠ name → final.collection other = memory.collection other) ∧
      modified + (memory.collection name).countGiven updates Fields.gainsOnlyNulls =
        (memory.collection name).countDiffering (final.collection name) +
          (memory.collection name).countGiven updates Fields.repeatsUndefined ∧
      (modified = (memory.collection name).countDiffering (final.collection name) ↔
        (memory.collection name).countGiven updates Fields.gainsOnlyNulls =
          (memory.collection name).countGiven updates Fields.repeatsUndefined) := by
  have ran := updateAll_eq wellFormed.keys ids
  have counts := Collection.countGiven_isCounted wellFormed.documents fields
  rw [← Collection.countDiffering_overlaid] at counts
  refine ⟨_, _, by rw [bulkUpdate, ran], ?_, ?_, ?_, ?_⟩
  · rw [collection_withCollection, if_pos rfl]
  · intro entry there update member addressed
    exact newsFor_of_mem (wellFormed.keys.hashable _ (List.mem_map_of_mem there)) ids member addressed
  · intro other different
    rw [collection_withCollection, if_neg different]
  · rw [collection_withCollection, if_pos rfl]
    exact ⟨counts, by omega⟩

section Nulls

open Collections

/-- Two messages in one mailbox. -/
def pairedMessages : Memory :=
  ({} : Memory).after [.insert messages [.object [("id", .int 1), ("mailbox", .text "inbox")],
    .object [("id", .int 2), ("mailbox", .text "inbox")]]]

/-- The first message gets something to search, the second one what it has, and a third one is not there. -/
def pairedUpdates : List (Value × Fields) :=
  [(.int 1, [("search", .object [])]), (.int 2, [("mailbox", .text "inbox")]), (.int 99, [("search", .object [])])]

theorem updates_count_what_they_change_of_two_messages :
    (pairedMessages.collection messages).WellFormed ∧ Value.DistinctKeys (pairedUpdates.map Prod.fst) ∧
      (∀ update ∈ pairedUpdates, (update.2.map Prod.fst).Nodup) ∧
      ∃ modified final, pairedMessages.bulkUpdate messages pairedUpdates = (.ok modified, final) ∧
        modified = (pairedMessages.collection messages).countDiffering (final.collection messages) := by
  have wellFormed : (pairedMessages.collection messages).WellFormed := by
    refine wellFormed_after wellFormed_empty (fun change there => ?_) messages
    rw [List.mem_singleton.mp there]
    simp [Change.BringsWellFormed, Value.isWellFormed, Value.entriesWellFormed]
  have ids : Value.DistinctKeys (pairedUpdates.map Prod.fst) := ⟨by decide +kernel, by decide +kernel⟩
  have fields : ∀ update ∈ pairedUpdates, (update.2.map Prod.fst).Nodup := by simp [pairedUpdates]
  obtain ⟨modified, final, ran, -, -, -, -, exact⟩ := updates_count_what_they_change wellFormed ids fields
  exact ⟨wellFormed, ids, fields, modified, final, ran, exact.mpr rfl⟩

/-- A message with nothing but an id. -/
def bareMessage : Memory := ({} : Memory).after [.insert messages [.object [("id", .int 1)]]]

/-- The message is another one with a null under a new name, but no change is counted. -/
theorem null_under_a_new_name_is_not_counted :
    ∃ final, bareMessage.bulkUpdate messages [(.int 1, [("x", .null)])] = (.ok 0, final) ∧
      final.collection messages = [⟨.int 1, [("id", .int 1), ("x", .null)]⟩] ∧
      (bareMessage.collection messages).countDiffering (final.collection messages) = 1 :=
  ⟨_, rfl, rfl, rfl⟩

end Nulls

end Memory

end MailSearch

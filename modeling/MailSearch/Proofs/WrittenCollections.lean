import Mathlib.Data.List.Induction
import MailSearch.Proofs.CountedUpdates

/-! What a history of insertions and updates leaves of a collection: one document for each id that was filed in it, in
the order in which the ids were filed first. Each document is the one that was filed last under its id, with the fields
of all updates set that addressed it after that. The ids hold no text with half a pair of code units, which would not
agree with itself. -/

namespace MailSearch

/-- A key agrees with just what any other one does that agrees with it. -/
theorem Value.agrees_congr {a b : Value} (first : a.isHashable = true) (second : b.isHashable = true)
    (agree : a.agrees b = true) : a.agrees = b.agrees := by
  funext other
  rw [agrees_iff_sameMark first] at agree
  rw [Bool.eq_iff_iff, agrees_iff_sameMark first, agrees_iff_sameMark second]
  exact ⟨agree.symm.trans, agree.trans⟩

/-- What is written to a collection: a document under its id, or fields on the document of an id. -/
inductive Write where
  | file (id : Value) (document : Fields)
  | set (id : Value) (news : Fields)

namespace Write

def id : Write → Value
  | file id _ | set id _ => id

def apply (collection : Collection) : Write → Collection
  | file id document => collection.put id document
  | set id news => (Memory.update collection id news).2

/-- What becomes of a document that is addressed. -/
def onto (document : Fields) : Write → Fields
  | file _ filed => filed
  | set _ news => document.overlay news

def filedId? : Write → Option Value
  | file id _ => some id
  | set _ _ => none

/-- The ids under which documents are filed, as often as they are. -/
def filedIds (writes : List Write) : List Value := writes.filterMap filedId?

/-- The fields that are set on the document of a key. -/
def newsTo? (key : Value) : Write → Option Fields
  | file _ _ => none
  | set id news => if key.agrees id then some news else none

/-- A document is filed under the id that it holds, if that can be a key. -/
def ofDocument? : Value → Option Write
  | .object fields => ((Table.get? fields "id").filter Value.isHashable).map (file · fields)
  | _ => none

/-- Documents are filed up to the first that cannot be. -/
def ofDocuments (documents : List Value) : List Write :=
  (documents.takeWhile fun document => (ofDocument? document).isSome).filterMap ofDocument?

/-- Fields are set up to the first id that cannot be a key. -/
def ofUpdates (updates : List (Value × Fields)) : List Write :=
  (updates.takeWhile fun update => update.1.isHashable).map fun (id, news) => set id news

/-- What a change writes to a collection; one of another collection writes nothing. -/
def ofChange (name : String) : Memory.Change → List Write
  | .insert target documents => if target = name then ofDocuments documents else []
  | .update target updates => if target = name then ofUpdates updates else []

/-- The entry holds the document that was filed last under its key, with the fields set of all updates after that. -/
inductive Leaves (writes : List Write) (entry : Entry) : Prop where
  | last (before : List Write) (id : Value) (filed : Fields) (after : List Write)
      (split : writes = before ++ file id filed :: after) (addressed : entry.key.agrees id = true)
      (final : ∀ later ∈ filedIds after, entry.key.agrees later = false)
      (holds : entry.document = (after.filterMap (newsTo? entry.key)).foldl Table.overlay filed)

variable {writes : List Write} {write : Write} {entry : Entry}

private theorem filedIds_append (writes more : List Write) :
    filedIds (writes ++ more) = filedIds writes ++ filedIds more :=
  List.filterMap_append

private theorem Leaves.snoc (leaves : Leaves writes entry)
    (other : ∀ id, write.filedId? = some id → entry.key.agrees id = false) {document : Fields}
    (holds : document = ([write].filterMap (newsTo? entry.key)).foldl Table.overlay entry.document) :
    Leaves (writes ++ [write]) ⟨entry.key, document⟩ := by
  obtain ⟨before, id, filed, after, rfl, addressed, final, held⟩ := leaves
  refine .last before id filed (after ++ [write]) (by simp) addressed ?_ ?_
  · rw [filedIds_append]
    refine List.forall_mem_append.mpr ⟨final, fun id there => ?_⟩
    obtain ⟨_, same, filed⟩ := List.mem_filterMap.mp there
    exact other id (List.mem_singleton.mp same ▸ filed)
  · rw [List.filterMap_append, List.foldl_append, ← held]
    exact holds

private theorem Leaves.of_other (leaves : Leaves writes entry) (other : entry.key.agrees write.id = false) :
    Leaves (writes ++ [write]) entry := by
  cases write with
  | file id document =>
    refine leaves.snoc (fun filed same => ?_) rfl
    rwa [← Option.some.inj same]
  | set id news =>
    have unset : newsTo? entry.key (set id news) = none := if_neg (Bool.eq_false_iff.mp other)
    exact leaves.snoc (by simp [filedId?]) (by simp [unset])

private theorem Leaves.of_addressed (leaves : Leaves writes entry) (addressed : entry.key.agrees write.id = true) :
    Leaves (writes ++ [write]) ⟨entry.key, write.onto entry.document⟩ := by
  cases write with
  | file id document => exact .last writes id document [] rfl addressed nofun rfl
  | set id news =>
    have given : newsTo? entry.key (set id news) = some news := if_pos addressed
    exact leaves.snoc (by simp [filedId?]) (by simp [given, onto])

end Write

/-- Where the first of several ids stands with which one agrees. -/
def place (ids : List Value) (id : Value) : Nat := ids.findIdx id.agrees

/-- The keys are the ids that come first of all that agree with them, in their order. -/
structure AreFirst (ids keys : List Value) : Prop where
  listed : ∀ key ∈ keys, ids[place ids key]? = some key
  complete : ∀ id ∈ ids, ∃ key ∈ keys, key.agrees id = true
  ordered : keys.Pairwise fun key other => place ids key < place ids other

namespace AreFirst

variable {ids keys : List Value} {id key : Value}

private theorem mem (first : AreFirst ids keys) (there : key ∈ keys) : key ∈ ids :=
  List.mem_of_getElem? (first.listed key there)

private theorem distinct (first : AreFirst ids keys) (hashable : ∀ id ∈ ids, id.isHashable = true) :
    Value.DistinctKeys keys := by
  refine ⟨fun key there => hashable key (first.mem there), first.ordered.imp_of_mem fun one other before => ?_⟩
  refine Bool.eq_false_iff.mpr fun agree => Nat.ne_of_lt before ?_
  rw [place, place, Value.agrees_congr (hashable _ (first.mem one)) (hashable _ (first.mem other)) agree]

private theorem place_append (first : AreFirst ids keys) (there : key ∈ keys) (more : List Value) :
    place ids key < ids.length ∧ place (ids ++ more) key = place ids key := by
  obtain ⟨inside, -⟩ := List.getElem?_eq_some_iff.mp (first.listed key there)
  refine ⟨inside, ?_⟩
  rw [place, List.findIdx_append]
  exact if_pos inside

/-- An id that agrees with no key is not there at all yet. -/
theorem place_fresh (first : AreFirst ids keys) (hashable : ∀ id ∈ ids, id.isHashable = true)
    (known : id.isHashable = true) (fresh : ∀ key ∈ keys, key.agrees id = false) : place ids id = ids.length := by
  refine List.findIdx_eq_length.mpr fun other there => Bool.eq_false_iff.mpr fun agree => ?_
  obtain ⟨key, kept, agrees⟩ := first.complete other there
  have both := Value.agrees_of_agree_with (hashable key (first.mem kept)) known agrees agree
  cases both.symm.trans (fresh key kept)

private theorem snoc (first : AreFirst ids keys) (hashable : ∀ id ∈ ids, id.isHashable = true)
    (known : id.isHashable = true) (self : id.agrees id = true) :
    AreFirst (ids ++ [id]) (if keys.any (·.agrees id) then keys else keys ++ [id]) := by
  have listed : ∀ key ∈ keys, (ids ++ [id])[place (ids ++ [id]) key]? = some key := by
    intro key there
    obtain ⟨inside, same⟩ := first.place_append there [id]
    rw [same, List.getElem?_append_left inside]
    exact first.listed key there
  have ordered : keys.Pairwise fun key other => place (ids ++ [id]) key < place (ids ++ [id]) other := by
    refine first.ordered.imp_of_mem fun one other before => ?_
    rw [(first.place_append one [id]).2, (first.place_append other [id]).2]
    exact before
  split
  next found =>
    obtain ⟨key, there, agrees⟩ := List.any_eq_true.mp found
    refine ⟨listed, List.forall_mem_append.mpr ⟨first.complete, ?_⟩, ordered⟩
    exact List.forall_mem_singleton.mpr ⟨key, there, agrees⟩
  next absent =>
    have fresh : ∀ key ∈ keys, key.agrees id = false := by simpa using absent
    have last : place (ids ++ [id]) id = ids.length := by
      have none := first.place_fresh hashable known fresh
      rw [place] at none ⊢
      rw [List.findIdx_append, if_neg (Nat.not_lt_of_le (Nat.le_of_eq none.symm)), List.findIdx_cons, self]
      simp
    constructor
    · refine List.forall_mem_append.mpr ⟨listed, List.forall_mem_singleton.mpr ?_⟩
      rw [last, List.getElem?_concat_length]
    · refine List.forall_mem_append.mpr ⟨fun other there => ?_, ?_⟩
      · obtain ⟨key, kept, agrees⟩ := first.complete other there
        exact ⟨key, List.mem_append_left _ kept, agrees⟩
      · exact List.forall_mem_singleton.mpr ⟨id, by simp, self⟩
    · refine List.pairwise_append.mpr ⟨ordered, List.pairwise_singleton _ _, fun key there other new => ?_⟩
      rw [List.mem_singleton.mp new, last]
      obtain ⟨inside, same⟩ := first.place_append there [id]
      exact same ▸ inside

end AreFirst

namespace Collection

open Write

variable {collection : Collection} {writes : List Write} {write : Write} {entry : Entry}

private theorem put_of_absent {id : Value} (absent : ∀ entry ∈ collection, entry.key.agrees id = false)
    (document : Fields) : collection.put id document = collection ++ [⟨id, document⟩] := by
  induction collection with
  | nil => rfl
  | cons first rest ih =>
    obtain ⟨other, later⟩ := List.forall_mem_cons.mp absent
    simp [put, other, ih later]

/-- A write changes the document that it addresses where it stands. If it addresses none, it files a new one at the end
or changes nothing. -/
theorem apply_cases (keys : Value.DistinctKeys (collection.map Entry.key)) (write : Write) :
    (∃ before entry after, collection = before ++ entry :: after ∧ entry.key.agrees write.id = true ∧
      (∀ other ∈ before ++ after, other.key.agrees write.id = false) ∧
      write.apply collection = before ++ ⟨entry.key, write.onto entry.document⟩ :: after) ∨
    (∀ other ∈ collection, other.key.agrees write.id = false) ∧
      (write.apply collection = collection ∨
        ∃ id document, write = file id document ∧ write.apply collection = collection ++ [⟨id, document⟩]) := by
  by_cases addressed : ∃ entry ∈ collection, entry.key.agrees write.id = true
  · obtain ⟨entry, there, addressed⟩ := addressed
    obtain ⟨before, after, rfl⟩ := List.append_of_mem there
    obtain ⟨earlier, later⟩ := unaddressed_of_split keys addressed
    refine .inl ⟨before, entry, after, rfl, addressed, List.forall_mem_append.mpr ⟨earlier, later⟩, ?_⟩
    cases write with
    | file id document => exact put_of_split earlier addressed document
    | set id news =>
      change entry.key.agrees id = true at addressed
      have updated := @Memory.update_of_split before after entry id news earlier addressed
      rw [Entry.overlaid, newsFor_cons_of_addressed addressed] at updated
      exact congrArg Prod.snd updated
  · have absent : ∀ other ∈ collection, other.key.agrees write.id = false := by simpa using addressed
    refine .inr ⟨absent, ?_⟩
    cases write with
    | file id document => exact .inr ⟨id, document, rfl, put_of_absent absent document⟩
    | set id news => exact .inl (congrArg Prod.snd (@Memory.update_of_absent collection id news absent))

/-- The collection is what the writes make of an empty one. -/
structure Tells (writes : List Write) (collection : Collection) : Prop where
  keys : AreFirst (filedIds writes) (collection.map Entry.key)
  leaves : ∀ entry ∈ collection, Leaves writes entry

private theorem Tells.snoc (tells : Tells writes collection)
    (known : ∀ id ∈ filedIds (writes ++ [write]), id.isHashable = true ∧ id.isWellFormed = true) :
    Tells (writes ++ [write]) (write.apply collection) := by
  have hashable : ∀ id ∈ filedIds writes, id.isHashable = true := fun id there =>
    (known id (filedIds_append _ _ ▸ List.mem_append_left _ there)).1
  constructor
  · cases write with
    | file id document =>
      have ids : filedIds (writes ++ [file id document]) = filedIds writes ++ [id] := filedIds_append _ _
      rw [ids] at known ⊢
      obtain ⟨key, wellFormed⟩ := known id (by simp)
      rw [apply, keys_put]
      exact tells.keys.snoc hashable key (Value.agrees_self wellFormed)
    | set id news =>
      have ids : filedIds (writes ++ [set id news]) = filedIds writes :=
        (filedIds_append _ _).trans (List.append_nil _)
      rw [ids, apply, keys_update]
      exact tells.keys
  · rcases apply_cases (tells.keys.distinct hashable) write with
      ⟨before, entry, after, rfl, addressed, others, applied⟩ | ⟨others, same | ⟨id, document, rfl, applied⟩⟩
    · rw [applied]
      intro other there
      rw [List.mem_append, List.mem_cons, or_left_comm, ← List.mem_append] at there
      rcases there with rfl | there
      · exact (tells.leaves entry (by simp)).of_addressed addressed
      · refine (tells.leaves other ?_).of_other (others other there)
        rw [List.mem_append, List.mem_cons, or_left_comm, ← List.mem_append]
        exact .inr there
    · rw [same]
      exact fun other there => (tells.leaves other there).of_other (others other there)
    · rw [applied]
      refine List.forall_mem_append.mpr ⟨fun other there => (tells.leaves other there).of_other (others other there), ?_⟩
      have self : id.agrees id = true := Value.agrees_self (known id (by simp [filedIds, filedId?])).2
      exact List.forall_mem_singleton.mpr (.last writes id document [] rfl self nofun rfl)

/-- Writing one thing after the other to an empty collection leaves what they tell. -/
theorem tells_foldl (known : ∀ id ∈ filedIds writes, id.isHashable = true ∧ id.isWellFormed = true) :
    Tells writes (writes.foldl Write.apply []) := by
  induction writes using List.reverseRecOn with
  | nil => exact ⟨⟨nofun, nofun, .nil⟩, nofun⟩
  | append_singleton earlier write ih =>
    rw [List.foldl_append]
    refine (ih fun id there => known id ?_).snoc known
    rw [filedIds_append]
    exact List.mem_append_left _ there

end Collection

namespace Memory

open Write

variable {memory : Memory} {name other : String} {history : List Change}

private theorem insert_cons_of_filed {document : Value} {write : Write} (filed : ofDocument? document = some write)
    (rest : List Value) : memory.insert name (document :: rest) =
      (memory.withCollection name (write.apply (memory.collection name))).insert name rest := by
  cases document with
  | object fields =>
    obtain ⟨id, found, rfl⟩ := Option.map_eq_some_iff.mp filed
    obtain ⟨named, hashable⟩ := Option.filter_eq_some_iff.mp found
    simp only [Memory.insert, named, hashable, ↓reduceIte]
    rfl
  | _ => cases filed

private theorem insert_cons_of_unfiled {document : Value} (unfiled : ofDocument? document = none) (rest : List Value) :
    ∃ failure, memory.insert name (document :: rest) = (.error failure, memory) := by
  cases document with
  | object fields =>
    have none := Option.map_eq_none_iff.mp unfiled
    cases named : Table.get? fields "id" with
    | none => exact ⟨.absentName "id", by simp only [Memory.insert, named]⟩
    | some id =>
      rw [named] at none
      have unhashable : id.isHashable = false := by simpa using none
      exact ⟨.wrongKind, by simp only [Memory.insert, named, unhashable, Bool.false_eq_true, ↓reduceIte]⟩
  | _ => exact ⟨.wrongKind, rfl⟩

/-- Documents that can be filed are filed, whatever comes after them. -/
theorem insert_append {documents : List Value} (filed : ∀ document ∈ documents, (ofDocument? document).isSome = true)
    (rest : List Value) : memory.insert name (documents ++ rest) = (memory.insert name documents).2.insert name rest := by
  induction documents generalizing memory with
  | nil => rfl
  | cons document later ih =>
    obtain ⟨here, others⟩ := List.forall_mem_cons.mp filed
    obtain ⟨write, here⟩ := Option.isSome_iff_exists.mp here
    rw [List.cons_append, insert_cons_of_filed here, insert_cons_of_filed here]
    exact ih others

private theorem insert_of_filed {documents : List Value}
    (filed : ∀ document ∈ documents, (ofDocument? document).isSome = true) :
    (memory.insert name documents).1 = .ok () := by
  induction documents generalizing memory with
  | nil => rfl
  | cons document later ih =>
    obtain ⟨here, others⟩ := List.forall_mem_cons.mp filed
    obtain ⟨write, here⟩ := Option.isSome_iff_exists.mp here
    rw [insert_cons_of_filed here]
    exact ih others

private theorem collection_insert (documents : List Value) : (memory.insert name documents).2.collection other =
    if other = name then (ofDocuments documents).foldl Write.apply (memory.collection name)
    else memory.collection other := by
  induction documents generalizing memory with
  | nil =>
    change memory.collection other = if other = name then memory.collection name else memory.collection other
    split
    next same => rw [same]
    next => rfl
  | cons document rest ih =>
    cases filed : ofDocument? document with
    | none =>
      obtain ⟨failure, failed⟩ : ∃ failure, memory.insert name (document :: rest) = (.error failure, memory) :=
        insert_cons_of_unfiled filed rest
      have nothing : ofDocuments (document :: rest) = [] := by simp [ofDocuments, filed]
      rw [failed, nothing]
      split
      next same => rw [same, List.foldl_nil]
      next => rfl
    | some write =>
      have first : ofDocuments (document :: rest) = write :: ofDocuments rest := by simp [ofDocuments, filed]
      rw [insert_cons_of_filed filed, ih, first, collection_withCollection, collection_withCollection, if_pos rfl]
      split
      next => rw [List.foldl_cons]
      next different => rfl

private theorem updateAll_eq_foldl (collection : Collection) (updates : List (Value × Fields)) :
    (updateAll collection updates).2 = (ofUpdates updates).foldl Write.apply collection := by
  induction updates generalizing collection with
  | nil => rfl
  | cons first rest ih =>
    obtain ⟨id, news⟩ := first
    unfold updateAll
    split
    next hashable =>
      have write : ofUpdates ((id, news) :: rest) = set id news :: ofUpdates rest := by simp [ofUpdates, hashable]
      rw [write, List.foldl_cons, ← ih]
      rfl
    next unhashable =>
      have nothing : ofUpdates ((id, news) :: rest) = [] := by simp [ofUpdates, unhashable]
      rw [nothing, List.foldl_nil]

/-- Whatever a change does, it writes to the collection. -/
theorem collection_apply (memory : Memory) (name : String) (change : Change) :
    (change.apply memory).collection name = (ofChange name change).foldl Write.apply (memory.collection name) := by
  cases change with
  | insert target documents =>
    rw [Change.apply, collection_insert, ofChange]
    split
    next same => rw [if_pos same.symm, same]
    next different => rw [if_neg (Ne.symm different), List.foldl_nil]
  | update target updates =>
    rw [Change.apply, bulkUpdate, collection_withCollection, ofChange]
    split
    next same => rw [if_pos same.symm, same, updateAll_eq_foldl]
    next different => rw [if_neg (Ne.symm different), List.foldl_nil]

private theorem collection_after (memory : Memory) (name : String) (history : List Change) :
    (memory.after history).collection name =
      (history.flatMap (ofChange name)).foldl Write.apply (memory.collection name) := by
  induction history generalizing memory with
  | nil => rfl
  | cons change later ih =>
    rw [List.flatMap_cons, List.foldl_append, ← collection_apply]
    exact ih _

private theorem isHashable_of_filed {change : Change} {id : Value} (filed : id ∈ filedIds (ofChange name change)) :
    id.isHashable = true := by
  obtain ⟨write, there, filed⟩ := List.mem_filterMap.mp filed
  cases change with
  | insert target documents =>
    rw [ofChange] at there
    split at there
    · obtain ⟨document, -, made⟩ := List.mem_filterMap.mp there
      cases document with
      | object fields =>
        obtain ⟨held, found, rfl⟩ := Option.map_eq_some_iff.mp made
        rw [← Option.some.inj filed]
        exact (Option.filter_eq_some_iff.mp found).2
      | _ => cases made
    · cases there
  | update target updates =>
    rw [ofChange] at there
    split at there
    · obtain ⟨update, -, rfl⟩ := List.mem_map.mp there
      cases filed
    · cases there

private theorem keys_bulkUpdate (memory : Memory) (name target : String) (updates : List (Value × Fields)) :
    ((memory.bulkUpdate target updates).2.collection name).map Entry.key =
      (memory.collection name).map Entry.key := by
  rw [bulkUpdate, collection_withCollection]
  split
  next same =>
    subst same
    refine updateAll_induction (motive := fun collection => collection.map Entry.key =
      (memory.collection name).map Entry.key) rfl fun collection id news _ kept => ?_
    rw [Collection.keys_update, kept]
  next => rfl

/-- The collection that a change is made to. -/
def Change.target : Change → String
  | insert target _ | update target _ => target

private theorem collection_apply_of_other {change : Change} (other : change.target ≠ name) :
    (change.apply memory).collection name = memory.collection name := by
  rw [collection_apply]
  cases change with
  | insert target documents => exact congrArg (List.foldl Write.apply _) (if_neg other)
  | update target updates => exact congrArg (List.foldl Write.apply _) (if_neg other)

/-- Whatever is inserted and updated, a collection holds one document for each id that was filed in it, in the order in
which the ids were filed first; and each document is what was filed last under its id, with the fields set of all later
updates that address it. Ids are one when they agree as keys do: as equal values, or as copies of one undefined number.
-/
theorem collections_hold_what_was_written (history : List Change) (name : String)
    (known : ∀ id ∈ filedIds (history.flatMap (ofChange name)), id.isWellFormed = true) :
    let memory := ({} : Memory).after history
    let writes := history.flatMap (ofChange name)
    AreFirst (filedIds writes) ((memory.collection name).map Entry.key) ∧
    (∀ id ∈ filedIds writes, ∃! entry, entry ∈ memory.collection name ∧ entry.key.agrees id = true) ∧
    (∀ entry ∈ memory.collection name, Leaves writes entry) ∧
    memory.find name {} = .ok ((memory.collection name).map Entry.document) ∧
    (∀ target updates, ((memory.bulkUpdate target updates).2.collection name).map Entry.key =
      (memory.collection name).map Entry.key) ∧
    (∀ change : Change, change.target ≠ name → (change.apply memory).collection name = memory.collection name) ∧
    ∀ documents failing rest, (∀ document ∈ documents, (ofDocument? document).isSome = true) →
      ofDocument? failing = none → ∃ failure, (memory.insert name documents).1 = .ok () ∧
        memory.insert name (documents ++ failing :: rest) = (.error failure, (memory.insert name documents).2) := by
  intro memory writes
  have hashable : ∀ id ∈ filedIds writes, id.isHashable = true := by
    intro id there
    obtain ⟨write, inside, filed⟩ := List.mem_filterMap.mp there
    obtain ⟨change, -, written⟩ := List.mem_flatMap.mp inside
    exact isHashable_of_filed (List.mem_filterMap.mpr ⟨write, written, filed⟩)
  have tells : Collection.Tells writes (memory.collection name) := by
    rw [show memory.collection name = _ from collection_after {} name history]
    exact Collection.tells_foldl fun id there => ⟨hashable id there, known id there⟩
  obtain ⟨keys, leaves⟩ := tells
  have one (entry : Entry) (there : entry ∈ memory.collection name) : entry.key.isHashable = true :=
    hashable _ (keys.mem (List.mem_map_of_mem there))
  refine ⟨keys, fun id filed => ?_, leaves, find_all memory name, keys_bulkUpdate memory name,
    fun change other => collection_apply_of_other other, fun documents failing rest filed unfiled => ?_⟩
  · obtain ⟨key, kept, agrees⟩ := keys.complete id filed
    obtain ⟨entry, there, rfl⟩ := List.mem_map.mp kept
    refine ⟨entry, ⟨there, agrees⟩, fun other also => ?_⟩
    have apart : ((memory.collection name).map fun entry => place (filedIds writes) entry.key).Nodup :=
      List.pairwise_map.mpr ((List.pairwise_map.mp keys.ordered).imp Nat.ne_of_lt)
    have agree := Value.agrees_of_agree_with (one other also.1) (one entry there) also.2 agrees
    refine List.inj_on_of_nodup_map apart also.1 there ?_
    rw [place, place, Value.agrees_congr (one other also.1) (one entry there) agree]
  · obtain ⟨failure, failed⟩ : ∃ failure, (memory.insert name documents).2.insert name (failing :: rest) =
        (.error failure, (memory.insert name documents).2) := insert_cons_of_unfiled unfiled rest
    exact ⟨failure, insert_of_filed filed, (insert_append filed _).trans failed⟩

section OneAndTrue

open Collections

/-- Messages under 1, true and 1.0, which are one id, with updates in between, and an insertion that breaks off at a
message without an id. -/
def mixedHistory : List Change :=
  [.insert messages [.object [("id", .int 1), ("subject", .text "a")], .object [("id", .text "s")], .object [],
      .object [("id", .int 9)]],
    .update messages [(.bool true, [("seen", .bool true)]), (.int 1, [("seen", .bool false)])],
    .insert users [.object [("id", .text "u")]],
    .insert messages [.object [("id", .bool true), ("subject", .text "b")]],
    .update messages [(.float (.finite false 1 0), [("flagged", .bool true)]), (.int 9, [("seen", .bool true)])]]

theorem collections_hold_what_was_written_under_one_and_true :
    let memory := ({} : Memory).after mixedHistory
    let writes := mixedHistory.flatMap (ofChange messages)
    (∀ id ∈ filedIds writes, id.isWellFormed = true) ∧ filedIds writes = [.int 1, .text "s", .bool true] ∧
      AreFirst (filedIds writes) ((memory.collection messages).map Entry.key) ∧
      (∃! entry, entry ∈ memory.collection messages ∧ entry.key.agrees (.bool true) = true) ∧
      ∀ entry ∈ memory.collection messages, Leaves writes entry := by
  intro memory writes
  have ids : filedIds writes = [.int 1, .text "s", .bool true] := rfl
  have known : ∀ id ∈ filedIds writes, id.isWellFormed = true := by
    rw [ids]
    simp [Value.isWellFormed]
  obtain ⟨keys, one, leaves, -⟩ := collections_hold_what_was_written mixedHistory messages known
  exact ⟨known, ids, keys, one (.bool true) (by rw [ids]; simp), leaves⟩

example : (({} : Memory).after mixedHistory).find messages {} =
    .ok [[("id", .bool true), ("subject", .text "b"), ("flagged", .bool true)], [("id", .text "s")]] := by rfl

end OneAndTrue

end Memory

end MailSearch

import Mathlib.Algebra.Order.Floor.Div
import MailSearch.Proofs.UndisturbedBatches

/-! What listing a collection page after page comes to, each page from the id that the one before ended with. Where the
ids are of one kind, the pages hold everything that satisfies the filter once and in the order of ids, unless two such
documents hold the same id: then one that ends a page hides the other. -/

namespace MailSearch

/-- The documents hold ids, the first one before the second. -/
def Fields.StandsBefore (first second : Fields) : Prop :=
  ∃ one other, first.get? "id" = some one ∧ second.get? "id" = some other ∧ one.Precedes other

namespace Predicate

/-- The filter, for documents after the last one seen. -/
def beyond (filter : Predicate) (last : Option Value) : Predicate := .all [filter, .range "id" { gt := last }]

end Predicate

/-- The listing of a page. -/
def pageSelection (filter : Predicate) (size : Nat) (last : Option Value) : Selection :=
  { filter := some (filter.beyond last), order := some .ascending, limit := some size }

namespace Memory

/-- Pages are listed one after the other until there is an empty one. -/
inductive Paged (memory : Memory) (name : String) (filter : Predicate) (size : Nat) :
    Option Value → List (List Fields) → Prop where
  | ended {last : Option Value} (empty : memory.find name (pageSelection filter size last) = .ok []) :
      Paged memory name filter size last []
  | listed {last : Option Value} {page : List Fields} {document : Fields} {id : Value} {rest : List (List Fields)}
      (found : memory.find name (pageSelection filter size last) = .ok page) (ends : page.getLast? = some document)
      (held : document.get? "id" = some id) (further : Paged memory name filter size (some id) rest) :
      Paged memory name filter size last (page :: rest)

/-- The listing of pages ends with these, and they hold each document that satisfies the filter once. -/
structure Partitioned (memory : Memory) (name : String) (filter : Predicate) (size : Nat) (pages : List (List Fields)) :
    Prop where
  paged : Paged memory name filter size none pages
  unique : ∀ others, Paged memory name filter size none others → others = pages
  whole : memory.find name { filter := some filter, order := some .ascending } = .ok pages.flatten
  each : pages.flatten.Perm ((memory.collection name).documents.filter filter.chooses)
  counted : memory.count name (some filter) = .ok (pages.flatten.length : Int)
  length : pages.length = pages.flatten.length ⌈/⌉ size
  ascending : pages.flatten.Pairwise Fields.StandsBefore
  greatest : (∀ document ∈ (memory.collection name).documents, filter.Holds (.object document)) →
    ∀ store : PlannedStore, store.Undisturbed → store.memory = memory →
      (DocumentStore.maxId name store).outcome = .ok (pages.flatten.getLast?.bind (·.get? "id"))

variable {memory : Memory} {name : String} {filter : Predicate} {size : Nat} {last : Option Value}
  {pages others : List (List Fields)} {kind : IdKind} {collection : Collection}

private theorem Paged.unique (first : Paged memory name filter size last pages)
    (second : Paged memory name filter size last others) : others = pages := by
  induction first generalizing others with
  | ended empty =>
    cases second with
    | ended => rfl
    | listed found ends =>
      cases empty.symm.trans found
      cases ends
  | listed found ends held further ih =>
    cases second with
    | ended empty =>
      cases empty.symm.trans found
      cases ends
    | listed found' ends' held' further' =>
      cases found.symm.trans found'
      cases ends.symm.trans ends'
      cases held.symm.trans held'
      rw [ih further']

private theorem find_congr {other : Memory}
    (same : (memory.collection name).documents = (other.collection name).documents)
    (selection : Selection) : memory.find name selection = other.find name selection := by
  simp only [find, same]

end Memory

namespace Collection

/-- All documents hold ids of the kind. -/
def HoldsIds (collection : Collection) (kind : IdKind) : Prop :=
  ∀ document ∈ collection.documents, ∃ id, kind.Has id ∧ document.get? "id" = some id

/-- Each document filed under the id that it holds. -/
def refiled (collection : Collection) : Collection :=
  collection.map fun entry => Entry.ofDocument (.object entry.document)

variable {collection : Collection} {kind : IdKind} {filter : Predicate}

private theorem documents_refiled (collection : Collection) : collection.refiled.documents = collection.documents := by
  simp [refiled, documents, Entry.ofDocument, Value.fields?]

private theorem filed_refiled (named : collection.HoldsIds kind) : ∀ entry ∈ collection.refiled, entry.Filed kind := by
  intro entry member
  obtain ⟨old, inside, rfl⟩ := List.mem_map.mp member
  obtain ⟨id, has, held⟩ := named old.document (List.mem_map_of_mem inside)
  have key : (Entry.ofDocument (.object old.document)).key = id := by
    simp [Entry.ofDocument, Value.fields?, held]
  exact ⟨key ▸ has, key ▸ held⟩

variable {memory : Memory} {name : String} {size : Nat} {entry : Entry} {last : Option Value}

private theorem chooses_beyond_iff (filed : entry.Filed kind) (bounded : ∀ id, last = some id → kind.Has id) :
    (filter.beyond last).chooses entry.document = true ↔
      filter.chooses entry.document = true ∧ ∀ id, last = some id → id.Precedes entry.key := by
  have id : (Value.object entry.document).candidatesAt "id" = [entry.key] := by
    rw [Value.candidatesAt, Value.at?_object (by decide), filed.id, filed.named.candidates_eq]
  rw [Predicate.chooses_iff, Predicate.chooses_iff, Predicate.beyond, Predicate.holds_all_iff,
    ← IdKind.passes_after_last_iff filed.named bounded]
  simp [Predicate.holds_range_iff, id, Bounds.admits, Bounds.passes]

private theorem settled_beyond {record : Value} (settled : filter.Settled record) (last : Option Value) :
    (filter.beyond last).Settled record :=
  Predicate.settled_all (by simpa [settled] using Predicate.settled_of_field rfl)

/-- The entries have ids of one kind, and those that the filter chooses have different ids. -/
structure Apart (collection : Collection) (kind : IdKind) (filter : Predicate) : Prop where
  filed : ∀ entry ∈ collection, entry.Filed kind
  settled : ∀ entry ∈ collection, filter.Settled (.object entry.document)
  distinct : ((collection.filter fun entry => filter.chooses entry.document).map Entry.key).Nodup

namespace Apart

variable {done rest : List Entry} {store : PlannedStore}

private theorem ascending (apart : collection.Apart kind filter) :
    (collection.matching filter).Pairwise fun a b => a.key.Precedes b.key :=
  Entry.pairwise_ascending (fun entry member => apart.filed entry (List.mem_of_mem_filter member)) apart.distinct

private theorem filed_matching (apart : collection.Apart kind filter) :
    ∀ entry ∈ collection.matching filter, entry.Filed kind :=
  fun entry member => apart.filed entry (List.mem_of_mem_filter ((perm_matching collection filter).mem_iff.mp member))

private theorem beyond (apart : collection.Apart kind filter) (last : Option Value) :
    collection.Apart kind (filter.beyond last) where
  filed := apart.filed
  settled entry member := settled_beyond (apart.settled entry member) last
  distinct := by
    refine apart.distinct.sublist ((List.monotone_filter_right _ ?_).map Entry.key)
    intro entry chosen
    rw [Predicate.chooses_iff, Predicate.beyond, Predicate.holds_all_iff] at chosen
    exact Predicate.chooses_iff.mpr (chosen filter List.mem_cons_self)

private theorem nodup_matching (apart : collection.Apart kind filter) : (collection.matching filter).Nodup :=
  (perm_matching collection filter).nodup_iff.mpr apart.distinct.of_map

private theorem mem_matching_beyond_iff (apart : collection.Apart kind filter)
    (bounded : ∀ id, last = some id → kind.Has id) :
    entry ∈ collection.matching (filter.beyond last) ↔
      entry ∈ collection.matching filter ∧ ∀ id, last = some id → id.Precedes entry.key := by
  rw [(perm_matching _ _).mem_iff, (perm_matching _ _).mem_iff, List.mem_filter, List.mem_filter, and_assoc]
  exact and_congr_right fun member => chooses_beyond_iff (apart.filed entry member) bounded

private theorem mem_matching_next_iff (apart : collection.Apart kind filter)
    (parts : collection.matching filter = done ++ rest) :
    entry ∈ collection.matching (filter.beyond (done.getLast?.map Entry.key)) ↔ entry ∈ rest := by
  have ascending := apart.ascending
  have filed := apart.filed_matching
  rw [parts] at ascending filed
  obtain ⟨early, -, across⟩ := List.pairwise_append.mp ascending
  have filedEarly : ∀ entry ∈ done, entry.Filed kind := fun entry member => filed entry (List.mem_append_left _ member)
  have bounded : ∀ id, done.getLast?.map Entry.key = some id → kind.Has id := by
    intro id given
    obtain ⟨edge, ends, rfl⟩ := Option.map_eq_some_iff.mp given
    exact (filedEarly edge (List.mem_of_getLast? ends)).named
  rw [apart.mem_matching_beyond_iff bounded, parts]
  constructor
  · rintro ⟨member, after⟩
    refine (List.mem_append.mp member).resolve_left fun listed => ?_
    obtain ⟨edge, ends⟩ := Option.isSome_iff_exists.mp (List.getLast?_isSome.mpr (List.ne_nil_of_mem listed))
    exact Entry.not_last_precedes filedEarly early ends entry listed (after edge.key (by rw [ends]; rfl))
  · intro later
    refine ⟨List.mem_append_right _ later, ?_⟩
    intro id given
    obtain ⟨edge, ends, rfl⟩ := Option.map_eq_some_iff.mp given
    exact across edge (List.mem_of_getLast? ends) entry later

/-- After the entries that were listed, those match that come next. -/
theorem matching_beyond (apart : collection.Apart kind filter) (parts : collection.matching filter = done ++ rest) :
    collection.matching (filter.beyond (done.getLast?.map Entry.key)) = rest := by
  have ascending := apart.ascending
  have nodup := apart.nodup_matching
  rw [parts] at ascending nodup
  have perm := (List.perm_ext_iff_of_nodup (apart.beyond _).nodup_matching (List.nodup_append.mp nodup).2.1).mpr
    fun entry => apart.mem_matching_next_iff parts
  refine perm.eq_of_pairwise ?_ (apart.beyond _).ascending (List.pairwise_append.mp ascending).2.1
  intro first second one other before after
  have named := ((apart.beyond _).filed_matching first one).named
  have named' := ((apart.beyond _).filed_matching second (perm.mem_iff.mpr other)).named
  exact absurd after (IdKind.precedes_asymm named named' before)

private theorem find_page (apart : collection.Apart kind filter)
    (held : (memory.collection name).documents = collection.documents)
    (parts : collection.matching filter = done ++ rest) :
    memory.find name (pageSelection filter size (done.getLast?.map Entry.key)) =
      .ok ((rest.take size).map Entry.document) := by
  have settled := fun entry member => settled_beyond (apart.settled entry member) (done.getLast?.map Entry.key)
  rw [pageSelection, find_matching apart.filed settled held, apart.matching_beyond parts, Documents.limited,
    ← List.map_take]
  exact congrArg Except.ok (List.map_id _)

/-- A page that takes what there is takes one from the number of pages. -/
theorem ceilDiv_eq_succ {count size : Nat} (positive : 1 ≤ size) (some_ : 1 ≤ count) :
    count ⌈/⌉ size = (count - size) ⌈/⌉ size + 1 := by
  rw [Nat.ceilDiv_eq_add_pred_div, Nat.ceilDiv_eq_add_pred_div, show count + size - 1 = count - 1 + size by omega,
    Nat.add_div_right _ positive]
  by_cases less : count < size
  · rw [Nat.div_eq_of_lt (by omega), Nat.div_eq_of_lt (by omega)]
  · rw [show count - size + size - 1 = count - 1 by omega]

/-- What is left is listed in as few pages as hold it. -/
theorem exists_paged (apart : collection.Apart kind filter)
    (held : (memory.collection name).documents = collection.documents) (positive : 1 ≤ size)
    {done rest : List Entry} (parts : collection.matching filter = done ++ rest) :
    ∃ pages, memory.Paged name filter size (done.getLast?.map Entry.key) pages ∧
      pages.flatten = rest.map Entry.document ∧ pages.length = rest.length ⌈/⌉ size := by
  have found : memory.find name (pageSelection filter size _) = _ := apart.find_page held parts
  by_cases nothing : rest = []
  · subst nothing
    rw [List.take_nil] at found
    exact ⟨[], .ended found, rfl, by simp⟩
  · have some_ : rest.take size ≠ [] := by simp [nothing, Nat.ne_of_gt positive]
    have shorter : (rest.drop size).length < rest.length := by
      have length := List.length_pos_iff.mpr nothing
      rw [List.length_drop]
      omega
    obtain ⟨edge, ends⟩ := Option.isSome_iff_exists.mp (List.getLast?_isSome.mpr some_)
    have later : collection.matching filter = (done ++ rest.take size) ++ rest.drop size := by
      rw [parts, List.append_assoc, List.take_append_drop]
    -- The page joins what was listed before, and the cursor moves to its last id.
    obtain ⟨pages, further, whole, length⟩ := exists_paged apart held positive later
    rw [List.getLast?_append, ends] at further
    have member : edge ∈ collection.matching filter := by
      rw [parts]
      exact List.mem_append_right _ (List.mem_of_mem_take (List.mem_of_getLast? ends))
    have final : ((rest.take size).map Entry.document).getLast? = some edge.document := by
      rw [List.getLast?_map, ends]
      rfl
    refine ⟨_ :: pages, .listed found final (apart.filed_matching edge member).id further, ?_, ?_⟩
    · rw [List.flatten_cons, whole, ← List.map_append, List.take_append_drop]
    · rw [List.length_cons, length, List.length_drop, ← ceilDiv_eq_succ positive (List.length_pos_iff.mpr nothing)]
termination_by rest.length

/-- Where all entries match, the greatest id is the last one. -/
theorem maxId (apart : collection.Apart kind filter)
    (held : (store.memory.collection name).documents = collection.documents) (undisturbed : store.Undisturbed)
    (all : ∀ entry ∈ collection, filter.Holds (.object entry.document)) :
    (DocumentStore.maxId name store).outcome = .ok ((collection.matching filter).getLast?.map Entry.key) := by
  have chosen : (collection.filter fun entry => filter.chooses entry.document) = collection :=
    List.filter_eq_self.mpr fun entry member => Predicate.chooses_iff.mpr (all entry member)
  have perm := perm_matching collection filter
  rw [chosen] at perm
  have filed : collection.Filed kind := ⟨apart.filed, chosen ▸ apart.distinct⟩
  have alone : Memory.collection ⟨[(name, collection)]⟩ name = collection := by simp [Memory.collection, Table.get?]
  have listing := Memory.find_congr (held.trans (congrArg documents alone.symm)) greatestSelection
  rcases Memory.find_greatest filed alone with ⟨empty, found⟩ | ⟨document, id, found, own, greatest⟩
  · subst empty
    rw [undisturbed.maxId_of_found (listing.trans found), perm.eq_nil]
    rfl
  · obtain ⟨entry, member, -⟩ := greatest.kept
    obtain ⟨last, ends⟩ := Option.isSome_iff_exists.mp
      (List.getLast?_isSome.mpr (List.ne_nil_of_mem (perm.mem_iff.mpr member)))
    have most : collection.Greatest last.key := by
      refine ⟨⟨last, perm.mem_iff.mp (List.mem_of_getLast? ends), rfl⟩, fun entry inside => ?_⟩
      exact Entry.not_last_precedes apart.filed_matching apart.ascending ends entry (perm.mem_iff.mpr inside)
    obtain rfl := greatest.unique filed most
    rw [undisturbed.maxId_of_found (listing.trans found), ends]
    simp only [List.head?_cons, Option.elim_some, DocumentStore.idOf_eq_ok_iff.mpr own, Except.map,
      (greatest.named filed).given?_eq, Option.map_some]

end Apart

end Collection

namespace Memory

variable {memory : Memory} {name : String} {filter : Predicate} {size : Nat} {pages : List (List Fields)} {kind : IdKind}

private theorem Partitioned.nodup (partitioned : Partitioned memory name filter size pages)
    (named : (memory.collection name).HoldsIds kind) :
    (((memory.collection name).documents.filter filter.chooses).map (·.get? "id")).Nodup := by
  rw [← (partitioned.each.map _).nodup_iff]
  refine List.pairwise_map.mpr (partitioned.ascending.imp_of_mem ?_)
  intro first second member _ before same
  obtain ⟨one, other, held, held', precedes⟩ := before
  obtain ⟨id, has, own⟩ := named first (List.mem_of_mem_filter (partitioned.each.mem_iff.mp member))
  cases held.symm.trans own
  cases held.symm.trans (same.trans held')
  exact IdKind.not_precedes_self has precedes

private theorem exists_partitioned (named : (memory.collection name).HoldsIds kind)
    (settled : ∀ document ∈ (memory.collection name).documents, filter.Settled (.object document))
    (positive : 1 ≤ size)
    (distinct : (((memory.collection name).documents.filter filter.chooses).map (·.get? "id")).Nodup) :
    ∃ pages, Partitioned memory name filter size pages := by
  -- Listings look at documents alone, so that each may count as filed under the id that it holds.
  let collection := (memory.collection name).refiled
  have held : (memory.collection name).documents = collection.documents := (Collection.documents_refiled _).symm
  rw [held] at distinct
  have apart : collection.Apart kind filter := by
    refine ⟨Collection.filed_refiled named, fun entry member => ?_, ?_⟩
    · exact settled _ (held ▸ List.mem_map_of_mem member)
    · have own : (collection.filter fun entry => filter.chooses entry.document).map (some ∘ Entry.key) =
          (collection.documents.filter filter.chooses).map (·.get? "id") := by
        rw [Collection.documents, List.filter_map, List.map_map]
        refine List.map_congr_left fun entry member => ?_
        exact (Collection.filed_refiled named entry (List.mem_of_mem_filter member)).id.symm
      rw [← own, ← List.map_map] at distinct
      exact distinct.of_map
  have parts : collection.matching filter = [] ++ collection.matching filter := rfl
  obtain ⟨pages, paged, whole, length⟩ := apart.exists_paged held positive parts
  have each : pages.flatten.Perm ((memory.collection name).documents.filter filter.chooses) := by
    rw [whole, held, Collection.documents, List.filter_map]
    exact (Collection.perm_matching collection filter).map Entry.document
  refine ⟨pages, ⟨paged, fun others => paged.unique, ?_, each, ?_, ?_, ?_, ?_⟩⟩
  · rw [Collection.find_matching apart.filed apart.settled held none none, whole]
    exact congrArg Except.ok (List.map_id _)
  · rw [count_of_settled settled, List.countP_eq_length_filter, each.length_eq]
  · rw [length, whole, List.length_map]
  · rw [whole]
    refine List.pairwise_map.mpr (apart.ascending.imp_of_mem fun first second precedes => ?_)
    exact ⟨_, _, (apart.filed_matching _ first).id, (apart.filed_matching _ second).id, precedes⟩
  · rintro all store undisturbed rfl
    rw [held] at all
    rw [apart.maxId held undisturbed fun _ member => all _ (List.mem_map_of_mem member), whole, List.getLast?_map]
    cases ends : (collection.matching filter).getLast? with
    | none => rfl
    | some last => exact congrArg Except.ok (apart.filed_matching last (List.mem_of_getLast? ends)).id.symm

/-- The pages hold each document that satisfies the filter once, in the order of ids, just when no two of these hold the
same id; so they do where each document is filed under the id that it holds. -/
theorem pages_partition_iff (named : (memory.collection name).HoldsIds kind)
    (settled : ∀ document ∈ (memory.collection name).documents, filter.Settled (.object document))
    (positive : 1 ≤ size) :
    ((∃ pages, Partitioned memory name filter size pages) ↔
      (((memory.collection name).documents.filter filter.chooses).map (·.get? "id")).Nodup) ∧
    ((memory.collection name).Filed kind → ∃ pages, Partitioned memory name filter size pages) := by
  refine ⟨⟨fun ⟨pages, partitioned⟩ => partitioned.nodup named, exists_partitioned named settled positive⟩, ?_⟩
  intro filed
  refine exists_partitioned named settled positive ?_
  have own : (memory.collection name).documents.map (·.get? "id") = ((memory.collection name).map Entry.key).map some := by
    rw [Collection.documents, List.map_map, List.map_map]
    exact List.map_congr_left fun entry member => (filed.each entry member).id
  have apart := List.Nodup.map (Option.some_injective Value) filed.distinct
  rw [← own] at apart
  exact apart.sublist (List.filter_sublist.map _)

section Letters

open Collections

/-- Five letters out of order, of which the second is a draft. -/
def letters : Memory :=
  (insert {} messages [.object [("id", .int 4)], .object [("id", .int 1), ("draft", .bool true)], .object [("id", .int 5)],
    .object [("id", .int 2)], .object [("id", .int 3)]]).2

theorem pages_partition_iff_of_letters :
    (letters.collection messages).HoldsIds .number ∧
    (∀ document ∈ (letters.collection messages).documents,
      (Predicate.presence "draft" false).Settled (.object document)) ∧
    (((letters.collection messages).documents.filter (Predicate.presence "draft" false).chooses).map
      (·.get? "id")).Nodup ∧
    ∃ pages, letters.Partitioned messages (.presence "draft" false) 3 pages := by
  have named : (letters.collection messages).HoldsIds .number := by
    intro document member
    change document ∈ [_, _, _, _, _] at member
    simp only [List.mem_cons, List.not_mem_nil, or_false] at member
    rcases member with rfl | rfl | rfl | rfl | rfl <;> exact ⟨_, .number _, rfl⟩
  have settled : ∀ document ∈ (letters.collection messages).documents,
      (Predicate.presence "draft" false).Settled (.object document) := fun _ _ => rfl
  have distinct : (((letters.collection messages).documents.filter (Predicate.presence "draft" false).chooses).map
      (·.get? "id")).Nodup := by
    change [some (Value.int 4), some (.int 5), some (.int 2), some (.int 3)].Nodup
    simp
  exact ⟨named, settled, distinct, (pages_partition_iff named settled (by decide)).1.mpr distinct⟩

/-- Two letters, one of which is given the id of the other. -/
def sharedLetters : Memory :=
  (bulkUpdate (insert {} messages [.object [("id", .int 1), ("uid", .int 1)], .object [("id", .int 2), ("uid", .int 2)]]).2
    messages [(.int 1, [("id", .int 2)])]).2

/-- No pages of one letter hold both. -/
theorem shared_id_hides_a_letter :
    (sharedLetters.collection messages).documents = [[("id", .int 2), ("uid", .int 1)], [("id", .int 2), ("uid", .int 2)]] ∧
    (sharedLetters.collection messages).HoldsIds .number ∧
    (∀ document ∈ (sharedLetters.collection messages).documents,
      (Predicate.presence "id" true).Settled (.object document)) ∧
    ¬∃ pages, Partitioned sharedLetters messages (.presence "id" true) 1 pages := by
  have kept : (sharedLetters.collection messages).documents =
      [[("id", .int 2), ("uid", .int 1)], [("id", .int 2), ("uid", .int 2)]] := rfl
  have named : (sharedLetters.collection messages).HoldsIds .number := by
    intro document member
    rw [kept, List.mem_pair] at member
    rcases member with rfl | rfl <;> exact ⟨_, .number 2, rfl⟩
  refine ⟨kept, named, fun _ _ => rfl, fun ⟨pages, partitioned⟩ => ?_⟩
  have distinct := partitioned.nodup named
  change [some (Value.int 2), some (Value.int 2)].Nodup at distinct
  simp at distinct

end Letters

end Memory

end MailSearch

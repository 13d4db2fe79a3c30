import MailSearch.Proofs.DraftSlots
import MailSearch.Proofs.FiledUpdates
import MailSearch.Proofs.WireExchanges

/-! The documents that the hits of a response stand for. A listing takes a hit whose source is null or missing for a
document that holds nothing but its id. A search for messages fails at the first such hit; where there is none, the two
read the same documents. -/

namespace MailSearch

/-- A table that begins with a name keeps it in front, and names that are new come after what is there. -/
theorem Table.overlay_cons {α : Type} {name : String} {entry : α} {table news : Table α}
    (distinct : (news.map Prod.fst).Nodup) (fresh : ∀ given ∈ news, table.get? given.1 = none) :
    Table.overlay ((name, entry) :: table) news =
      (name, (news.get? name).getD entry) :: (table ++ news.filter (·.1 != name)) := by
  induction news generalizing entry table with
  | nil => simp [overlay, get?]
  | cons first rest ih =>
    obtain ⟨key, value⟩ := first
    obtain ⟨absent, later⟩ := List.forall_mem_cons.mp fresh
    obtain ⟨single, others⟩ := List.nodup_cons.mp distinct
    change overlay (put ((name, entry) :: table) key value) rest = _
    by_cases same : name = key
    · subst same
      have gone : get? rest name = none := get?_eq_none_iff.mpr single
      simp [put, ih others later, get?, gone]
    · have apart : ∀ given ∈ rest, get? (table ++ [(key, value)]) given.1 = none := by
        intro given member
        have different : key ≠ given.1 := fun equal => single (equal ▸ List.mem_map.mpr ⟨given, member, rfl⟩)
        simp [get?_append, later given member, get?, different]
      simp [put, same, put_of_absent absent, ih others apart, get?, Ne.symm same]

namespace Elastic

/-- The source of a hit: an object, null, or none at all. -/
inductive HitSource where
  | given (fields : Fields)
  | null
  | missing

namespace HitSource

def value? : HitSource → Option Value
  | given fields => some (.object fields)
  | null => some .null
  | missing => none

def fields : HitSource → Fields
  | given fields => fields
  | null | missing => []

/-- What goes wrong where an object is asked for. -/
def failure? : HitSource → Option Failure
  | given _ => none
  | null => some .wrongKind
  | missing => some (.absentName "_source")

end HitSource

structure Hit where
  id : Value
  source : HitSource

namespace Hit

/-- The fields of the source, and the id of the hit unless the source has one of its own. -/
def document (hit : Hit) : Fields :=
  ("id", (hit.source.fields.get? "id").getD hit.id) :: hit.source.fields.filter (·.1 != "id")

/-- The hit, as a response gives it. -/
structure Stands (hit : Hit) (entries : Fields) : Prop where
  id : entries.get? "_id" = some hit.id
  source : entries.get? "_source" = hit.source.value?
  distinct : (hit.source.fields.map Prod.fst).Nodup

variable {hit : Hit} {entries : Fields}

private theorem Stands.document_fields (stands : hit.Stands entries) :
    Elastic.document hit.id (.object hit.source.fields) = .ok hit.document :=
  congrArg Except.ok (Table.overlay_cons stands.distinct fun _ _ => rfl)

private theorem Stands.listed (stands : hit.Stands entries) :
    documentOfListedHit (.object entries) = .ok hit.document := by
  rw [← stands.document_fields]
  simp only [documentOfListedHit, member, Value.fields?, Option.bind_some, stands.id, stands.source]
  cases hit.source with
  | given fields => cases fields <;> rfl
  | null | missing => rfl

private theorem Stands.searched (stands : hit.Stands entries) :
    documentOfHit (.object entries) = hit.source.failure?.elim (.ok hit.document) .error := by
  have whole := stands.document_fields
  simp only [documentOfHit, member, stands.id, stands.source]
  cases source : hit.source with
  | given fields =>
    rw [source] at whole
    exact whole
  | null | missing => rfl

end Hit

/-- What reading documents from hits comes to where each needs an object for its source. -/
def Hit.documents (hits : List Hit) : Except Failure (List Fields) :=
  (hits.findSome? (·.source.failure?)).elim (.ok (hits.map Hit.document)) .error

private theorem mapM_documentOfListedHit {hits : List Hit} {items : List Fields}
    (stand : List.Forall₂ Hit.Stands hits items) :
    (items.map Value.object).mapM documentOfListedHit = .ok (hits.map Hit.document) := by
  rw [mapM_eq_ok_iff, List.map_map, List.map_map]
  induction stand with
  | nil => rfl
  | cons first _ ih => rw [List.map_cons, List.map_cons, ih, Function.comp, Function.comp, first.listed]

private theorem mapM_documentOfHit {hits : List Hit} {items : List Fields}
    (stand : List.Forall₂ Hit.Stands hits items) :
    (items.map Value.object).mapM documentOfHit = Hit.documents hits := by
  induction stand with
  | nil => rfl
  | @cons hit entries hits items first _ ih =>
    simp only [List.map_cons, List.mapM_cons, first.searched, ih, Hit.documents, List.findSome?_cons]
    cases hit.source.failure? with
    | some failure => rfl
    | none => cases hits.findSome? (·.source.failure?) <;> rfl

private theorem Hit.documents_eq_ok_iff {hits : List Hit} :
    documents hits = .ok (hits.map Hit.document) ↔ ∀ hit ∈ hits, hit.source.failure? = none := by
  rw [← List.findSome?_eq_none_iff, documents]
  cases hits.findSome? (·.source.failure?) <;> simp

def totalOf (response : Response) : Except Failure Int := do
  wholeNumber (← member (← member (← member response.value "hits") "total") "value")

namespace Connection

/-- The next request about the collection is made, and this is the response to it. -/
structure Meets (connection : Connection) (collection : String) (filter : Option Predicate) (response : Response) :
    Prop where
  known : ∃ index, connection.indices.get? collection = some index
  rendered : ∃ query, renderQuery filter = .ok query
  next : connection.responses[0]? = some response
  undisturbed : response.error = none

variable {connection : Connection} {collection : String} {filter : Option Predicate} {response : Response}

private theorem find_of_hits {selection : Selection} (meets : connection.Meets collection selection.filter response)
    {size : Int} (limited : selection.limit = some size) {hits : List Hit} {items : List Fields}
    (stand : List.Forall₂ Hit.Stands hits items) (listed : hitsOf response = .ok (items.map .object)) :
    (find collection selection connection).outcome = .ok (hits.map Hit.document) := by
  obtain ⟨⟨index, known⟩, ⟨query, rendered⟩, next, undisturbed⟩ := meets
  have page : response.Page (hits.map Hit.document) :=
    ⟨undisturbed, _, listed, forall₂_of_mapM (mapM_documentOfListedHit stand)⟩
  change (find collection selection).Leaves connection fun outcome _ => outcome = .ok (hits.map Hit.document)
  rw [leaves_find_of_page known rendered limited next page]

private theorem searchMessages_of_hits (meets : connection.Meets Collections.messages filter response)
    (offset size : Int) {hits : List Hit} {items : List Fields} (stand : List.Forall₂ Hit.Stands hits items)
    (listed : hitsOf response = .ok (items.map .object)) {total : Int} (told : totalOf response = .ok total) :
    (searchMessages filter offset size connection).outcome = (Hit.documents hits).map (·, total) := by
  obtain ⟨⟨index, known⟩, ⟨query, rendered⟩, next, undisturbed⟩ := meets
  obtain ⟨inner, held, listed⟩ := Sorting.bind_eq_ok_iff.mp listed
  obtain ⟨_, again, told⟩ := Sorting.bind_eq_ok_iff.mp told
  cases held.symm.trans again
  change (searchMessages filter offset size).Leaves connection fun outcome _ => outcome = _
  unfold searchMessages
  rw [Action.leaves_bind, Action.leaves_ofExcept, rendered, Action.resumes_ok, Action.leaves_bind,
    leaves_indexOf known, Action.resumes_ok, Action.leaves_bind, leaves_ask_of_answer next undisturbed,
    Action.resumes_ok, Action.leaves_bind, Action.leaves_ofExcept, held, Action.resumes_ok, Action.leaves_bind,
    Action.leaves_ofExcept, listed, Action.resumes_ok, Action.leaves_bind, Action.leaves_ofExcept,
    mapM_documentOfHit stand]
  cases Hit.documents hits with
  | error failure => rfl
  | ok documents =>
    rw [Action.resumes_ok, Action.leaves_bind, Action.leaves_ofExcept, told]
    rfl

/-- A listing with a limit and a search for messages that are given the same hits: the listing returns one document for
each, and so does the search unless some hit has no object for its source, when it fails at the first of these. -/
theorem read_paths_decode_hits {hits : List Hit} {items : List Fields} (stand : List.Forall₂ Hit.Stands hits items)
    {listing : Connection} {collection : String} {selection : Selection} {size : Int} {response : Response}
    (limited : selection.limit = some size) (meets : listing.Meets collection selection.filter response)
    (listed : hitsOf response = .ok (items.map .object)) {searching : Connection} {filter : Option Predicate}
    {answer : Response} (meets' : searching.Meets Collections.messages filter answer)
    (listed' : hitsOf answer = .ok (items.map .object)) {total : Int} (told : totalOf answer = .ok total)
    (offset page : Int) :
    (find collection selection listing).outcome = .ok (hits.map Hit.document) ∧
    (searchMessages filter offset page searching).outcome = (Hit.documents hits).map (·, total) ∧
    ((searchMessages filter offset page searching).outcome.map Prod.fst = (find collection selection listing).outcome ↔
      ∀ hit ∈ hits, hit.source.failure? = none) := by
  have found := find_of_hits meets limited stand listed
  have searched := searchMessages_of_hits meets' offset page stand listed' told
  refine ⟨found, searched, ?_⟩
  rw [found, searched, ← Hit.documents_eq_ok_iff]
  cases Hit.documents hits <;> simp [Except.map]

section Letters

/-- A response that lists hits, and says that there are no others. -/
def letterResponse (items : List Fields) : Response :=
  { value := .object [("hits", .object
      [("hits", .list (items.map .object)), ("total", .object [("value", .int items.length)])])] }

def letterConnection (items : List Fields) : Connection := ⟨standardIndices, true, [letterResponse items], []⟩

/-- One hit has an id of its own in its source, one only its subject, one nothing and one no source. -/
def letterHits : List Hit :=
  [⟨.text "1", .given [("subject", .text "a"), ("id", .int 1)]⟩, ⟨.text "2", .given [("subject", .text "b")]⟩,
    ⟨.text "3", .given []⟩, ⟨.text "4", .missing⟩]

def letterItems : List Fields :=
  [[("_id", .text "1"), ("_source", .object [("subject", .text "a"), ("id", .int 1)])],
    [("_id", .text "2"), ("_source", .object [("subject", .text "b")])],
    [("_id", .text "3"), ("_source", .object [])], [("_id", .text "4")]]

private theorem meets_letters (items : List Fields) :
    (letterConnection items).Meets Collections.messages none (letterResponse items) :=
  ⟨⟨_, rfl⟩, ⟨_, rfl⟩, rfl, rfl⟩

theorem read_paths_decode_hits_of_four_letters :
    List.Forall₂ Hit.Stands letterHits letterItems ∧
    (find Collections.messages { limit := some 4 } (letterConnection letterItems)).outcome =
      .ok [[("id", .int 1), ("subject", .text "a")], [("id", .text "2"), ("subject", .text "b")], [("id", .text "3")],
        [("id", .text "4")]] ∧
    (searchMessages none 0 4 (letterConnection letterItems)).outcome = .error (.absentName "_source") ∧
    (searchMessages none 0 4 (letterConnection (letterItems.take 3))).outcome.map Prod.fst =
      (find Collections.messages { limit := some 4 } (letterConnection (letterItems.take 3))).outcome := by
  have stand : List.Forall₂ Hit.Stands letterHits letterItems :=
    .cons ⟨rfl, rfl, by decide⟩ (.cons ⟨rfl, rfl, by decide⟩ (.cons ⟨rfl, rfl, by decide⟩
      (.cons ⟨rfl, rfl, by decide⟩ .nil)))
  have four := @read_paths_decode_hits _ _ stand _ _ { limit := some 4 } _ _ rfl (meets_letters _) rfl _ _ _
    (meets_letters _) rfl _ rfl 0 4
  have three := @read_paths_decode_hits _ _ (List.forall₂_take 3 stand) _ _ { limit := some 4 } _ _ rfl
    (meets_letters _) rfl _ _ _ (meets_letters _) rfl _ rfl 0 4
  refine ⟨stand, four.1, four.2.1, three.2.2.mpr ?_⟩
  decide

/-- A hit without a source is a document where messages are listed, but not where they are searched for. -/
theorem hit_without_source_is_not_searched :
    (find Collections.messages { limit := some 1 } (letterConnection [[("_id", .text "1")]])).outcome =
      .ok [[("id", .text "1")]] ∧
    (searchMessages none 0 1 (letterConnection [[("_id", .text "1")]])).outcome = .error (.absentName "_source") :=
  ⟨rfl, rfl⟩

end Letters

end Connection

end Elastic

end MailSearch

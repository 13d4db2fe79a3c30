import MailSearch.Predicate.Matching
import MailSearch.Store.Sorting

/-! Documents kept in memory. A collection files each document under the id it was first inserted with;
ids that agree as values are one id. -/

namespace MailSearch

structure Entry where
  key : Value
  document : Fields
  deriving Repr

/-- The documents of a collection, in the order in which their ids were first inserted. -/
abbrev Collection := List Entry

namespace Collection

def find? (collection : Collection) (id : Value) : Option Fields :=
  (List.find? (fun entry => entry.key.agrees id) collection).map Entry.document

/-- Files a document under its id, in the place of the one filed there, or at the end. -/
def put (collection : Collection) (id : Value) (document : Fields) : Collection :=
  match collection with
  | [] => [⟨id, document⟩]
  | entry :: rest =>
    if entry.key.agrees id then ⟨entry.key, document⟩ :: rest else entry :: put rest id document

/-- Filing a document keeps the ids and their order; only an id that is not there yet is added, at the
end. -/
theorem keys_put (collection : Collection) (id : Value) (document : Fields) :
    (collection.put id document).map Entry.key =
      if (collection.map Entry.key).any (·.agrees id) then collection.map Entry.key
      else collection.map Entry.key ++ [id] := by
  induction collection with
  | nil => simp [put]
  | cons entry rest ih =>
    by_cases same : entry.key.agrees id
    · simp [put, same]
    · simp only [put, same, Bool.false_eq_true, ↓reduceIte, List.map_cons, ih, List.any_cons,
        Bool.false_or]
      split <;> simp_all

/-- A document that was filed is found under its id. -/
theorem find?_put_self (collection : Collection) {id : Value} (document : Fields)
    (reflexive : id.agrees id) : (collection.put id document).find? id = some document := by
  induction collection with
  | nil => simp [put, find?, reflexive]
  | cons entry rest ih =>
    by_cases same : entry.key.agrees id
    · simp [put, find?, same]
    · simpa [put, find?, same] using ih

def documents (collection : Collection) : List Fields := collection.map Entry.document

end Collection

namespace Documents

/-- The documents that satisfy a filter. -/
def selected (filter : Option Predicate) : List Fields → Except Failure (List Fields)
  | [] => .ok []
  | document :: rest =>
    match (filter.map fun predicate => predicate.holds? (.object document)).getD (some true) with
    | none => .error .undefinedPredicate
    | some chosen =>
      (selected filter rest).map fun others => if chosen then document :: others else others

/-- The first documents, as many as the limit says; a negative limit leaves out the last ones. -/
def limited (limit : Option Int) (documents : List Fields) : List Fields :=
  match limit with
  | none => documents
  | some n => documents.take (if n < 0 then documents.length + n else n).toNat

end Documents

def Fields.projected (names : Option (List String)) (document : Fields) : Fields :=
  match names with
  | none => document
  | some names => document.keep ("id" :: names)

/-- The fields that a document does not hold yet with an equal value; an absent one counts as null. -/
def Fields.changes (document news : Fields) : Fields :=
  news.filter fun (name, value) => !((document.get? name).getD .null).same value

/-- All collections of a store. -/
structure Memory where
  collections : Table Collection := []
  deriving Repr, Inhabited

namespace Memory

def collection (memory : Memory) (name : String) : Collection := (memory.collections.get? name).getD []

def withCollection (memory : Memory) (name : String) (collection : Collection) : Memory :=
  ⟨memory.collections.put name collection⟩

/-- Files documents under their ids, up to the first that has none or one that cannot be a key. -/
def insert (memory : Memory) (name : String) : List Value → Except Failure Unit × Memory
  | [] => (.ok (), memory)
  | document :: rest =>
    match document with
    | .object fields =>
      match Table.get? fields "id" with
      | none => (.error (.absentName "id"), memory)
      | some id =>
        if id.isHashable then
          insert (memory.withCollection name ((memory.collection name).put id fields)) name rest
        else (.error .wrongKind, memory)
    | _ => (.error .wrongKind, memory)

def get (memory : Memory) (name : String) (id : Value) : Except Failure (Option Fields) :=
  if id.isHashable then .ok ((memory.collection name).find? id) else .error .wrongKind

def count (memory : Memory) (name : String) (filter : Option Predicate) : Except Failure Int :=
  (Documents.selected filter (memory.collection name).documents).map fun chosen => chosen.length

def find (memory : Memory) (name : String) (selection : Selection) : Except Failure (List Fields) := do
  let chosen ← Documents.selected selection.filter (memory.collection name).documents
  let sorted ← match selection.order with
    | some order => order.sort chosen
    | none => .ok chosen
  return (Documents.limited selection.limit sorted).map (Fields.projected selection.names)

/-- Sets the fields of one document, and tells whether that changed it. -/
def update (collection : Collection) (id : Value) (news : Fields) : Bool × Collection :=
  match collection.find? id with
  | none => (false, collection)
  | some document =>
    (!(Fields.changes document news).isEmpty, collection.put id (document.overlay news))

/-- Applies updates in turn, up to the first whose id cannot be a key, and counts those that changed
their document. -/
def updateAll (collection : Collection) : List (Value × Fields) → Except Failure Nat × Collection
  | [] => (.ok 0, collection)
  | (id, news) :: rest =>
    if id.isHashable then
      let (changed, updated) := update collection id news
      let (modified, final) := updateAll updated rest
      (modified.map (· + if changed then 1 else 0), final)
    else (.error .wrongKind, collection)

def bulkUpdate (memory : Memory) (name : String) (updates : List (Value × Fields)) :
    Except Failure Nat × Memory :=
  let (modified, updated) := updateAll (memory.collection name) updates
  (modified, memory.withCollection name updated)

def size (memory : Memory) : Nat := (memory.collections.flatMap Prod.snd).length

end Memory

end MailSearch

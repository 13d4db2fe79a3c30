import MailSearch.Predicate.Basic

/-! Filters under construction. A draft holds one condition for each slot, further conditions that must
hold beside them, and alternatives of which one must hold. -/

namespace MailSearch

structure FilterDraft where
  slots : Table Predicate := []
  required : List Predicate := []
  alternatives : List Predicate := []
  deriving Repr, Inhabited

namespace FilterDraft

/-- The slot of a condition: its field, or its kind where it has no field or an empty one. -/
def slot (predicate : Predicate) : String :=
  match predicate.field? with
  | some "" | none => predicate.kind
  | some field => field

/-- Puts a condition into its slot, in the place of the one that was there. -/
def set (draft : FilterDraft) (predicate : Predicate) : FilterDraft :=
  { draft with slots := draft.slots.put (slot predicate) predicate }

def get? (draft : FilterDraft) (field : String) : Option Predicate := draft.slots.get? field

/-- The inclusive bounds of a range, where the given ones leave them open. -/
def mergedBounds (current : Option Predicate) (gte lte : Option Value) : Bounds :=
  match current with
  | some (.range _ bounds) => { gte := gte.or bounds.gte, lte := lte.or bounds.lte }
  | _ => { gte, lte }

/-- Sets bounds on a field; a bound that is not given stays as it was. -/
def mergeRange (draft : FilterDraft) (field : String) (gte lte : Option Value) : FilterDraft :=
  { draft with slots := draft.slots.put field (.range field (mergedBounds (draft.get? field) gte lte)) }

def require (draft : FilterDraft) (predicate : Predicate) : FilterDraft :=
  { draft with required := draft.required ++ [predicate] }

def either (draft : FilterDraft) (predicate : Predicate) : FilterDraft :=
  { draft with alternatives := draft.alternatives ++ [predicate] }

/-- The clauses of the finished filter; the alternatives form the last one. -/
def clauses (draft : FilterDraft) : List Predicate :=
  draft.slots.map Prod.snd ++ draft.required ++
    (if draft.alternatives.isEmpty then [] else [.any draft.alternatives])

def filter (draft : FilterDraft) : Predicate := .all draft.clauses

end FilterDraft

end MailSearch

import MailSearch.Sorting.Schedule
import MailSearch.Store.Basic
import MailSearch.Value.Order

/-! Sorting documents by their ids. Ids of one kind, all texts for instance, have a total order, and
sorting by it is stable. Other ids may have none between some of them: then the outcome depends on
which of them meet, and the procedure is fixed as sorting by runs. -/

namespace MailSearch

/-- Kinds of value that have a total order among themselves. -/
inductive OrderedKind where
  | number
  | text
  | bytes
  | localTime
  | instant
  deriving DecidableEq, Repr

/-- The kind of a value, if it is of one that has a total order. -/
def Value.orderedKind? : Value → Option OrderedKind
  | .bool _ | .int _ => some .number
  | .float x => if x.isUndefined then none else some .number
  | .text _ => some .text
  | .bytes _ => some .bytes
  | .time t => some (if t.offset.isSome then .instant else .localTime)
  | _ => none

/-- Whether all values are of one kind that has a total order. -/
def Value.areOrdered : List Value → Bool
  | [] => true
  | first :: rest =>
    first.orderedKind?.isSome && rest.all fun value => value.orderedKind? == first.orderedKind?

/-- Whether one value is below another; an undefined number is below nothing. -/
def Value.isBelow (a b : Value) : Except Failure Bool :=
  match a.compareWith b with
  | .ordered order => .ok (order == .lt)
  | .undefined => .ok false
  | .incomparable => .error .wrongKind

namespace SortOrder

/-- Whether the first of two ids may stand before the second. -/
def allows (order : SortOrder) (a b : Value) : Bool :=
  match order with
  | .ascending => b.compareWith a != .ordered .lt
  | .descending => a.compareWith b != .ordered .lt

/-- Sorts items by keys of any kind. Descending order is ascending order read backwards, of items that
are read backwards too, so that items of equal keys keep their order. -/
def sortMixed {α : Type} (order : SortOrder) (items : List (Value × α)) :
    Except Failure (List (Value × α)) :=
  let isBelow (a b : Value × α) : Except Failure Bool := a.1.isBelow b.1
  match order with
  | .ascending => Sorting.sort isBelow items
  | .descending => List.reverse <$> Sorting.sort isBelow items.reverse

/-- Sorts items by their keys, where each item may be compared with those that it meets. -/
def sortByKey {α : Type} (order : SortOrder) (items : List (Value × α)) :
    Except Failure (List (Value × α)) :=
  if Value.areOrdered (items.map Prod.fst) then .ok (items.mergeSort fun a b => order.allows a.1 b.1)
  else order.sortMixed items

/-- Keys that are ordered are sorted by a stable sort. -/
theorem sortByKey_of_areOrdered {α : Type} (order : SortOrder) {items : List (Value × α)}
    (ordered : Value.areOrdered (items.map Prod.fst)) :
    order.sortByKey items = .ok (items.mergeSort fun a b => order.allows a.1 b.1) := by
  simp [sortByKey, ordered]

/-- Sorts documents by id. -/
def sort (order : SortOrder) (documents : List Fields) : Except Failure (List Fields) := do
  let keyed ← documents.mapM fun document => return (← DocumentStore.idOf document, document)
  return (← order.sortByKey keyed).map Prod.snd

end SortOrder

end MailSearch

import MailSearch.Value.Basic

/-! Equality and order of values. Numbers and truth values compare by their amount, sequences element
by element and only with their own kind, timestamps as `Timestamp.compare?` says. Objects are equal
when they give the same names equal values, in whatever order, and have no order. An undefined number
equals nothing, but as a member of something and as a key it agrees with its own copies. -/

namespace MailSearch.Value

mutual

/-- Whether two values agree as members and as keys. -/
def agrees : Value → Value → Bool
  | .null, .null => true
  | .text a, .text b => a == b
  | .time a, .time b => a.compare? b == some .eq
  | .bytes a, .bytes b => a == b
  | .float (.undefined payload), .float (.undefined other) => payload == other
  | .list a, .list b => itemsAgree a b
  | .tuple a, .tuple b => itemsAgree a b
  | .object a, .object b => a.length == b.length && entriesAgree a b
  | a, b =>
    match a.quantity?, b.quantity? with
    | some p, some q => p.compare? q == some .eq
    | _, _ => false

def itemsAgree : List Value → List Value → Bool
  | [], [] => true
  | a :: as, b :: bs => agrees a b && itemsAgree as bs
  | _, _ => false

/-- Whether `other` gives every name of the entries a value that agrees. -/
def entriesAgree : List (String × Value) → Fields → Bool
  | [], _ => true
  | (name, a) :: rest, other =>
    (match other.get? name with
      | some b => agrees a b
      | none => false) && entriesAgree rest other

end

/-- Whether two values are equal. -/
def same (a b : Value) : Bool := !a.isUndefined && a.agrees b

/-- The outcome of asking for an order: an order, none because a number is undefined, or none because
the two kinds of value have no order between them. -/
inductive Comparison where
  | ordered (order : Ordering)
  | undefined
  | incomparable
  deriving DecidableEq, Repr

namespace Comparison

def ofNumbers (order : Option Ordering) : Comparison := (order.map .ordered).getD .undefined

def ofKinds (order : Option Ordering) : Comparison := (order.map .ordered).getD .incomparable

end Comparison

/-- The lexicographic order of two lists of bytes. -/
def compareBytes : List UInt8 → List UInt8 → Ordering
  | [], [] => .eq
  | [], _ => .lt
  | _, [] => .gt
  | a :: as, b :: bs => (compare a b).then (compareBytes as bs)

mutual

/-- The order of two values. -/
def compareWith : Value → Value → Comparison
  | .text a, .text b => .ordered (compare a b)
  | .time a, .time b => .ofKinds (a.compare? b)
  | .bytes a, .bytes b => .ordered (compareBytes a b)
  | .list a, .list b => compareItems a b
  | .tuple a, .tuple b => compareItems a b
  | a, b =>
    match a.quantity?, b.quantity? with
    | some p, some q => .ofNumbers (p.compare? q)
    | _, _ => .incomparable

/-- Sequences are ordered by their first unequal elements, or by length where one begins the other. -/
def compareItems : List Value → List Value → Comparison
  | [], [] => .ordered .eq
  | [], _ => .ordered .lt
  | _, [] => .ordered .gt
  | a :: as, b :: bs => if agrees a b then compareItems as bs else compareWith a b

end

/-- Whether the value can identify a document: lists and objects cannot, nor a tuple holding one. -/
def isHashable : Value → Bool
  | .list _ | .object _ => false
  | .tuple items => allHashable items
  | _ => true
where
  allHashable : List Value → Bool
    | [] => true
    | item :: rest => isHashable item && allHashable rest

end MailSearch.Value

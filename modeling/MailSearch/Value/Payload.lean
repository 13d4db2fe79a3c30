import MailSearch.Value.Basic

/-! Payloads for the undefined numbers of a value. Where numbers are read one by one, each that is
undefined differs from every other, so each is given a payload of its own. -/

namespace MailSearch.Value

mutual

/-- Numbers the undefined numbers of a value from `next` on; the result tells the next number too. -/
def numbered (next : Nat) : Value → Value × Nat
  | .float (.undefined _) => (.float (.undefined next), next + 1)
  | .list items =>
    let (items, next) := numberedItems next items
    (.list items, next)
  | .tuple items =>
    let (items, next) := numberedItems next items
    (.tuple items, next)
  | .object entries =>
    let (entries, next) := numberedEntries next entries
    (.object entries, next)
  | value => (value, next)

def numberedItems (next : Nat) : List Value → List Value × Nat
  | [] => ([], next)
  | item :: rest =>
    let (item, next) := numbered next item
    let (rest, next) := numberedItems next rest
    (item :: rest, next)

def numberedEntries (next : Nat) : List (String × Value) → List (String × Value) × Nat
  | [] => ([], next)
  | (name, value) :: rest =>
    let (value, next) := numbered next value
    let (rest, next) := numberedEntries next rest
    ((name, value) :: rest, next)

end

/-- The values with a payload of its own for each undefined number in them. -/
def distinguished (values : List Value) : List Value := (numberedItems 0 values).1

end MailSearch.Value

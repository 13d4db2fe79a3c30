import MailSearch.Sorting.Run

/-! Merging two runs, the items of the first before those of the second wherever neither is below the
other. A merge begins at the front of the runs or at their back. It takes one item after the other, and
leaps over many at once where one of the runs has won often enough in a row. -/

namespace MailSearch.Sorting

/-- The end of the runs at which a walk begins. -/
inductive Side where
  | front
  | back
  deriving DecidableEq, Repr

/-- How a merge goes on: item by item, counting how often in a row each run has won, or by leaps. -/
inductive Pace where
  | stepping (favouredWins otherWins : Nat)
  | leaping
  deriving DecidableEq, Repr

/-- A leap must pass over so many items to be worth another. -/
def worthwhileLeap : Nat := 7

variable {α ε : Type}

/-- Doubles the step from a place that passes until one does not. The result is the last place that did
and the first that did not, or the end. -/
def reach (passes : Nat → Except ε Bool) (count last next : Nat) : Except ε (Nat × Nat) :=
  if next < count then do
    if ← passes next then reach passes count next (2 * next + 1) else return (last, next)
  else return (last, count)
termination_by count - next

/-- The number of places up to the last that passes, which lies between `low` and `high`. The place in
the middle settles in which half; of two middle places it is the one nearer to the back of the run. -/
def narrow (side : Side) (passes : Nat → Except ε Bool) (low high : Nat) : Except ε Nat :=
  if low < high then do
    let half := (high - low) / 2
    let middle := match side with
      | .front => low + half
      | .back => high - 1 - half
    if ← passes middle then narrow side passes (middle + 1) high else narrow side passes low middle
  else return low
termination_by high - low
decreasing_by
  · split <;> omega
  · split <;> omega

/-- The number of leading items that pass, where those that pass come first. -/
def leading (side : Side) (passes : α → Except ε Bool) (items : List α) : Except ε Nat := do
  let passesAt (place : Nat) : Except ε Bool := (items[place]?.map passes).getD (.ok false)
  if ← passesAt 0 then
    let (last, next) ← reach passesAt items.length 0 1
    narrow side passesAt (last + 1) next
  else return 0

/-- What a leap comes to: how many items it passed over, what it put in place, and what it left of the
two runs. -/
structure Leap (α : Type) where
  length : Nat
  placed : List α
  favoured : List α
  other : List α

/-- Whether no comparison is needed any more: the other run is used up, or the favoured one has its last
item left, which comes last. -/
def isSettled (favoured other : List α) : Bool := other.isEmpty || favoured.length ≤ 1

variable (goesFirst : α → α → Except ε Bool)

/-- Leaps over the items of the favoured run that the next of the other does not go before, and puts that
one in place too. -/
def leapFavoured (side : Side) (favoured other : List α) : Except ε (Leap α) :=
  match other with
  | [] => .ok ⟨0, [], favoured, []⟩
  | item :: later => do
    if isSettled favoured other then return ⟨0, [], favoured, other⟩
    let length ← leading side (fun before => (!·) <$> goesFirst item before) favoured
    let left := favoured.drop length
    if isSettled left other then return ⟨length, favoured.take length, left, other⟩
    return ⟨length, favoured.take length ++ [item], left, later⟩

/-- Leaps over the items of the other run that go before the next of the favoured one, and puts that one
in place too. -/
def leapOther (side : Side) (favoured other : List α) : Except ε (Leap α) :=
  match favoured with
  | [] => .ok ⟨0, [], [], other⟩
  | item :: later => do
    if isSettled favoured other then return ⟨0, [], favoured, other⟩
    let length ← leading side (goesFirst · item) other
    let left := other.drop length
    if isSettled favoured left then return ⟨length, other.take length, favoured, left⟩
    return ⟨length, other.take length ++ [item], later, left⟩

/-- Two leaps, the first over the lower run. -/
def leapTwice (side : Side) (favoured other : List α) : Except ε (Leap α × Leap α) := do
  match side with
  | .front =>
    let first ← leapFavoured goesFirst side favoured other
    return (first, ← leapOther goesFirst side first.favoured first.other)
  | .back =>
    let first ← leapOther goesFirst side favoured other
    return (first, ← leapFavoured goesFirst side first.favoured first.other)

/-- Puts items before those that a merge puts in place. -/
def placing (items : List α) (merged : Except ε (List α × Nat)) : Except ε (List α × Nat) :=
  merged.map fun (later, patience) => (items ++ later, patience)

/-- Merges two runs given from the end where the walk begins. An item of the other run is put in place
only where it goes before the next of the favoured one. The patience is how often in a row a run must win
for the merge to leap: it falls with every leap that is worth another and rises when leaping ends. The
result tells the patience that is left. The second argument bounds the number of steps. -/
def merge (side : Side) :
    Nat → Pace → Nat → List α → List α → Except ε (List α × Nat)
  | 0, _, patience, favoured, other => .ok (favoured ++ other, patience)
  | _, _, patience, favoured, [] => .ok (favoured, patience)
  | _, _, patience, [], other => .ok (other, patience)
  | _, _, patience, [last], other => .ok (other ++ [last], patience)
  | bound + 1, .stepping favouredWins otherWins, patience, first :: favoured, item :: other => do
    if ← goesFirst item first then
      let pace := if patience ≤ otherWins + 1 then .leaping else .stepping 0 (otherWins + 1)
      placing [item] (merge side bound pace patience (first :: favoured) other)
    else
      let pace := if patience ≤ favouredWins + 1 then .leaping else .stepping (favouredWins + 1) 0
      placing [first] (merge side bound pace patience favoured (item :: other))
  | bound + 1, .leaping, patience, favoured, other => do
    let (leap, next) ← leapTwice goesFirst side favoured other
    let placed := leap.placed ++ next.placed
    if isSettled next.favoured next.other then
      placing placed (merge side bound .leaping patience next.favoured next.other)
    else if worthwhileLeap ≤ leap.length || worthwhileLeap ≤ next.length then
      placing placed (merge side bound .leaping (max 1 (patience - 1)) next.favoured next.other)
    else placing placed (merge side bound (.stepping 0 0) (patience + 1) next.favoured next.other)

/-- Merges two runs of which the other begins: its first item goes before all of the favoured run. -/
def mergeFrom (side : Side) (patience : Nat) (favoured other : List α) : Except ε (List α × Nat) :=
  match other with
  | [] => .ok (favoured, patience)
  | first :: later =>
    placing [first]
      (merge goesFirst side (favoured.length + later.length) (.stepping 0 0) patience favoured later)

/-- Merges two neighbouring runs. Items of the lower run that come before all of the upper one stay where
they are, and so do those of the upper run that come after all of the lower one. The merge begins at the
end where the shorter of the runs is. -/
def mergeRuns (isBelow : α → α → Except ε Bool) (patience : Nat) (lower upper : List α) :
    Except ε (List α × Nat) :=
  match upper with
  | [] => .ok (lower, patience)
  | first :: _ => do
    let settled ← leading .front (fun item => (!·) <$> isBelow first item) lower
    let before := lower.take settled
    let lower := lower.drop settled
    match lower.getLast? with
    | none => return (before ++ upper, patience)
    | some last =>
      let behind ← leading .back (fun item => (!·) <$> isBelow item last) upper.reverse
      let after := upper.drop (upper.length - behind)
      let upper := upper.take (upper.length - behind)
      let (merged, patience) ←
        if lower.length ≤ upper.length then mergeFrom isBelow .front patience lower upper
        else do
          let (merged, patience) ←
            mergeFrom (fun item first => isBelow first item) .back patience upper.reverse lower.reverse
          pure (merged.reverse, patience)
      return (before ++ merged ++ after, patience)

end MailSearch.Sorting

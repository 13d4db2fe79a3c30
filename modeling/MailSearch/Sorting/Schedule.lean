import MailSearch.Sorting.Merge

/-! Sorting by runs, and the order in which neighbouring runs are merged: a boundary between two runs is
merged away before one that a halving of the whole meets earlier. -/

namespace MailSearch.Sorting

/-- How often the whole is halved until the middles of two neighbouring runs, given by twice their
places, lie in different parts. -/
def boundaryPower (total first second : Nat) : Nat :=
  let part (middle halvings : Nat) : Nat := Nat.pow 2 halvings * middle / (2 * total)
  ((List.range (total + 1)).find? fun halvings => part first halvings != part second halvings).getD total

/-- A run that waits to be merged, and the power of the boundary after it. -/
structure Waiting (α : Type) where
  run : List α
  power : Nat

variable {α ε : Type} (isBelow : α → α → Except ε Bool)

/-- Merges the last run with those before it whose boundaries have a greater power than the one after
it. -/
def mergeBefore (power patience : Nat) (last : List α) :
    List (Waiting α) → Except ε (List α × List (Waiting α) × Nat)
  | [] => .ok (last, [], patience)
  | waiting :: rest =>
    if power < waiting.power then do
      let (merged, patience) ← mergeRuns isBelow patience waiting.run last
      mergeBefore power patience merged rest
    else .ok (last, waiting :: rest, patience)

/-- Merges all runs that wait, the last of them first: each with the next, unless the one before it is
shorter than that. -/
def mergeWaiting (patience : Nat) (last : List α) : List (Waiting α) → Except ε (List α)
  | [] => .ok last
  | [waiting] => do
    let (merged, _) ← mergeRuns isBelow patience waiting.run last
    return merged
  | second :: third :: rest => do
    if third.run.length < last.length then
      let (merged, patience) ← mergeRuns isBelow patience third.run second.run
      mergeWaiting patience last (⟨merged, third.power⟩ :: rest)
    else
      let (merged, patience) ← mergeRuns isBelow patience second.run last
      mergeWaiting patience merged (third :: rest)
termination_by waiting => waiting.length

/-- Takes one run after the other, merging those before it as their powers tell. The last run begins at
`start`. -/
def mergeInTurn (total start patience : Nat) (last : List α) (waiting : List (Waiting α)) :
    List (List α) → Except ε (List α)
  | [] => mergeWaiting isBelow patience last waiting
  | run :: rest => do
    let middle := 2 * start + last.length
    let power := boundaryPower total middle (middle + last.length + run.length)
    let (merged, waiting, patience) ← mergeBefore isBelow power patience last waiting
    mergeInTurn total (start + last.length) patience run (⟨merged, power⟩ :: waiting) rest

/-- Sorts items: those that neither is below the other keep their order. -/
def sort (items : List α) : Except ε (List α) := do
  match ← runs isBelow (leastRun items.length) items.length items with
  | [] => return []
  | first :: rest => mergeInTurn isBelow items.length 0 worthwhileLeap first [] rest

end MailSearch.Sorting

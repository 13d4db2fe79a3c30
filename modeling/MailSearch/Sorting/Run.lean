/-! Runs: stretches of items that stand in order. A run that is too short is extended by inserting the
items after it one by one, halving the part of the run that is still in question. Items are compared by
a test that may fail. -/

namespace MailSearch.Sorting

variable {α ε : Type} (isBelow : α → α → Except ε Bool)

/-- Splits off the items that each follow the one before them. -/
def splitRun (follows : α → α → Except ε Bool) (last : α) : List α → Except ε (List α × List α)
  | [] => .ok ([], [])
  | item :: rest => do
    if ← follows last item then
      let (run, later) ← splitRun follows item rest
      return (item :: run, later)
    else return ([], item :: rest)

/-- Splits off a first run, in ascending order: where the second item is below the first, a descending
run turned round, and otherwise one that never falls. -/
def firstRun : List α → Except ε (List α × List α)
  | first :: second :: rest => do
    if ← isBelow second first then
      let (run, later) ← splitRun (fun last item => isBelow item last) second rest
      return ((first :: second :: run).reverse, later)
    else
      let (run, later) ← splitRun (fun last item => (!·) <$> isBelow item last) second rest
      return (first :: second :: run, later)
  | items => .ok (items, [])

/-- Inserts an item into a sorted run, after those that it is not below. The item in the middle settles
in which half. -/
def insert (item : α) (run : List α) : Except ε (List α) :=
  match split : run.drop (run.length / 2) with
  | [] => .ok [item]
  | middle :: above => do
    have : run.length - run.length / 2 = above.length + 1 := by
      simpa using congrArg List.length split
    let below := run.take (run.length / 2)
    if ← isBelow item middle then return (← insert item below) ++ middle :: above
    else return below ++ middle :: (← insert item above)
termination_by run.length
decreasing_by
  · simp only [List.length_take]
    omega
  · omega

/-- Inserting adds the item and keeps all others. -/
theorem perm_of_insert {item : α} {run sorted : List α} (done : insert isBelow item run = .ok sorted) :
    sorted.Perm (item :: run) := by
  fun_induction insert isBelow item run generalizing sorted with
  | case1 run none =>
    have empty : run = [] := by
      have size := congrArg List.length none
      simp only [List.length_drop, List.length_nil] at size
      exact List.length_eq_zero_iff.1 (by omega)
    cases done
    simp [empty]
  | case2 run middle above split _ below ihBelow =>
    rename_i ihAbove
    have whole : run = below ++ middle :: above := by
      rw [← split]
      exact (List.take_append_drop _ _).symm
    cases compared : isBelow item middle with
    | error failure => simp [compared, bind, Except.bind] at done
    | ok isLower =>
      cases isLower with
      | true =>
        cases inserted : insert isBelow item below with
        | error failure => simp [compared, inserted, bind, Except.bind] at done
        | ok lower =>
          simp only [compared, inserted, bind, Except.bind, pure, Except.pure, ↓reduceIte] at done
          cases done
          rw [whole]
          exact (ihBelow inserted).append_right _
      | false =>
        cases inserted : insert isBelow item above with
        | error failure => simp [compared, inserted, bind, Except.bind] at done
        | ok upper =>
          simp only [compared, inserted, bind, Except.bind, pure, Except.pure, Bool.false_eq_true,
            ↓reduceIte] at done
          cases done
          rw [whole]
          exact (((ihAbove inserted).cons middle).append_left below).trans
            (((List.Perm.swap item middle above).append_left below).trans List.perm_middle)

/-- The number of items up to which inserting is all there is to sorting. -/
def insertionLimit : Nat := 64

/-- Halves a number until it is below the limit, and adds one where a half was not whole. -/
def halved (count extra : Nat) : Nat :=
  if count < insertionLimit then count + extra else halved (count / 2) (max extra (count % 2))
termination_by count
decreasing_by
  simp only [insertionLimit] at *
  omega

/-- How long runs shall be at least, so that merging them halves the whole about evenly. -/
def leastRun (count : Nat) : Nat := halved count 0

/-- Inserts items into a run, one after the other. -/
def insertAll (run items : List α) : Except ε (List α) :=
  items.foldlM (fun sorted item => insert isBelow item sorted) run

/-- Splits items into runs of at least `least` items, the last one aside. The second argument bounds the
number of runs. -/
def runs (least : Nat) : Nat → List α → Except ε (List (List α))
  | _, [] => .ok []
  | 0, items => .ok [items]
  | bound + 1, items => do
    let (run, later) ← firstRun isBelow items
    let missing := least - run.length
    let extended ← insertAll isBelow run (later.take missing)
    return extended :: (← runs least bound (later.drop missing))

end MailSearch.Sorting

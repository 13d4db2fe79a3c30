/-! Sets of characters, written as the ascending code points at which membership changes, and the
runs of a text that stay inside a set. -/

namespace MailSearch.Text

/-- A set of characters, by the ascending code points at which membership changes. -/
structure CharSet where
  changes : List Nat

/-- Whether an odd number of the ascending `changes` lies at or below `code`. -/
def insideChanges : List Nat → Nat → Bool
  | [], _ => false
  | change :: rest, code => if code < change then false else !insideChanges rest code

def CharSet.contains (set : CharSet) (c : Char) : Bool := insideChanges set.changes c.toNat

/-- Adds a run to those that follow it, unless it is empty. -/
def closeRun (run : List Char) (later : List (List Char)) : List (List Char) :=
  if run.isEmpty then later else run :: later

/-- The run that starts the text, possibly empty, and the runs after it. -/
def openRuns (keep : Char → Bool) : List Char → List Char × List (List Char)
  | [] => ([], [])
  | c :: rest =>
    let (run, later) := openRuns keep rest
    if keep c then (c :: run, later) else ([], closeRun run later)

/-- The maximal runs of characters that satisfy `keep`, in order. -/
def runs (keep : Char → Bool) (chars : List Char) : List (List Char) :=
  let (run, later) := openRuns keep chars
  closeRun run later

end MailSearch.Text

import MailSearch.Text.Section
import MailSearch.Url.Percent

/-! Paths and their normal form: no segment is a dot or two, and all is escaped that must be. -/

namespace MailSearch.Url

open Text

def currentSegment : List Char := ['.']
def parentSegment : List Char := ['.', '.']

/-- Follows one segment from the segments, given backwards, that were followed before. -/
def follow (followed : List (List Char)) (segment : List Char) : List (List Char) :=
  if segment = currentSegment then followed
  else if segment = parentSegment then followed.drop 1
  else segment :: followed

/-- No dot segment is left among those that were followed. -/
theorem no_dots_of_follow {followed : List (List Char)} {segment part : List Char}
    (before : ∀ kept ∈ followed, kept ≠ currentSegment ∧ kept ≠ parentSegment)
    (found : part ∈ follow followed segment) : part ≠ currentSegment ∧ part ≠ parentSegment := by
  unfold follow at found
  split at found
  · exact before part found
  · split at found
    · exact before part (List.mem_of_mem_drop found)
    · rcases List.mem_cons.1 found with rfl | kept
      · constructor <;> assumption
      · exact before part kept

/-- Adds the empty segment that a leading slash stands for, where none is left. -/
def withRoot (segments : List (List Char)) : List (List Char) :=
  match segments with
  | [] :: _ => segments
  | _ => [] :: segments

/-- A path without dot segments. It keeps the slash it begins with, and ends with one where its last
segment is dropped. -/
def withoutDots (path : List Char) : List Char :=
  let segments := sections '/' path
  let followed := (segments.foldl follow []).reverse
  let rooted := if path.head? == some '/' then withRoot followed else followed
  let isDropped (segment : List Char) : Bool := segment == currentSegment || segment == parentSegment
  let closed := if (segments.drop 1).getLast?.any isDropped then rooted ++ [[]] else rooted
  List.intercalate ['/'] closed

def normalPath (path : List Char) : List Char := escaped isPathChar (withoutDots path)

end MailSearch.Url

/-! The sections of a text between the occurrences of one separating character. -/

namespace MailSearch.Text

/-- The section that starts the text, and the sections after it. -/
def openSections (separator : Char) : List Char → List Char × List (List Char)
  | [] => ([], [])
  | c :: rest =>
    let (head, later) := openSections separator rest
    if c = separator then ([], head :: later) else (c :: head, later)

/-- The sections of a text, in order; there is one more than there are separators. -/
def sections (separator : Char) (chars : List Char) : List (List Char) :=
  let (first, later) := openSections separator chars
  first :: later

/-- The names of a dotted path. -/
def pathNames (path : String) : List String := (sections '.' path.toList).map String.ofList

end MailSearch.Text

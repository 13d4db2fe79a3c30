/-! Tables: lists of named entries, in the order in which the names were first written. -/

namespace MailSearch

abbrev Table (α : Type) := List (String × α)

namespace Table

variable {α : Type}

def get? (table : Table α) (name : String) : Option α :=
  match table with
  | [] => none
  | (key, entry) :: rest => if key = name then some entry else get? rest name

def contains (table : Table α) (name : String) : Bool := (table.get? name).isSome

/-- Sets one name: in its place if it is there, at the end if not. -/
def put (table : Table α) (name : String) (entry : α) : Table α :=
  match table with
  | [] => [(name, entry)]
  | (key, old) :: rest =>
    if key = name then (key, entry) :: rest else (key, old) :: put rest name entry

/-- Sets every name of `news`. -/
def overlay (table news : Table α) : Table α :=
  news.foldl (fun current (name, entry) => current.put name entry) table

theorem get?_put_self (table : Table α) (name : String) (entry : α) :
    (table.put name entry).get? name = some entry := by
  induction table with
  | nil => simp [put, get?]
  | cons first rest ih =>
    obtain ⟨key, old⟩ := first
    by_cases same : key = name
    · simp [put, get?, same]
    · simpa [put, get?, same] using ih

theorem get?_put_of_ne (table : Table α) {name other : String} (entry : α) (different : other ≠ name) :
    (table.put name entry).get? other = table.get? other := by
  induction table with
  | nil => simp [put, get?, different.symm]
  | cons first rest ih =>
    obtain ⟨key, old⟩ := first
    by_cases same : key = name
    · subst same
      simp [put, get?, different.symm]
    · by_cases found : key = other
      · subst found
        simp [put, get?, same]
      · simpa [put, get?, same, found] using ih

/-- The names of a table stay in their places when one is set; a new name comes last. -/
theorem names_put (table : Table α) (name : String) (entry : α) :
    (table.put name entry).map Prod.fst =
      if name ∈ table.map Prod.fst then table.map Prod.fst else table.map Prod.fst ++ [name] := by
  induction table with
  | nil => simp [put]
  | cons first rest ih =>
    obtain ⟨key, old⟩ := first
    by_cases same : key = name
    · simp [put, same]
    · have different : name ≠ key := Ne.symm same
      by_cases later : name ∈ rest.map Prod.fst
      · simp_all [put]
      · simp_all [put]

/-- The names in `names` and their entries. -/
def keep (table : Table α) (names : List String) : Table α :=
  table.filter fun (name, _) => names.contains name

/-- Later entries of a repeated name take the place of earlier ones. -/
def ofEntries (entries : List (String × α)) : Table α := overlay [] entries

end Table

end MailSearch

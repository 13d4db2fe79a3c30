/-! The hierarchy of loggers. Names are dotted, and what stands before a dot may be the logger above. -/

namespace MailSearch.Logging

/-- What stands before the dots of a name that is given backwards, the longest part first. A dot right
before a dot that was found is passed over, and so is one that starts the name. -/
def partsBefore : List Char → List (List Char)
  | [] => []
  | '.' :: c :: before => (c :: before).reverse :: partsBefore before
  | _ :: before => partsBefore before

/-- The names that a logger above this one may have, the nearest first. -/
def namesAbove (logger : String) : List String := (partsBefore logger.toList.reverse).map String.ofList

/-- Every name that may stand above is shorter, so that a climb comes to an end. -/
theorem length_lt_of_mem_partsBefore {chars part : List Char} (found : part ∈ partsBefore chars) :
    part.length < chars.length := by
  fun_induction partsBefore chars with
  | case1 => simp at found
  | case2 c before ih =>
    rcases List.mem_cons.1 found with rfl | later
    · simp
    · have := ih later
      simp only [List.length_cons]
      omega
  | case3 c before _ ih =>
    have := ih found
    simp only [List.length_cons]
    omega

/-- The nearest logger above, among those that exist. -/
def above? (existing : List String) (logger : String) : Option String :=
  (namesAbove logger).find? existing.contains

theorem length_lt_of_above? {existing : List String} {logger above : String}
    (found : above? existing logger = some above) : above.toList.length < logger.toList.length := by
  obtain ⟨part, member, rfl⟩ := List.mem_map.1 (List.mem_of_find?_eq_some found)
  simpa using length_lt_of_mem_partsBefore member

/-- The first of a logger and those above it that is among `levelled`; `none` where the climb reaches
the root. -/
def levelled? (existing levelled : List String) (logger : String) : Option String :=
  if levelled.contains logger then some logger
  else
    match found : above? existing logger with
    | none => none
    | some above =>
      have := length_lt_of_above? found
      levelled? existing levelled above
termination_by logger.toList.length

end MailSearch.Logging

/-! The outcome of checking input: a result, or every issue found, each with the place it was found
at. Checks of separate parts are combined so that the issues of all of them are reported. -/

namespace MailSearch

/-- One step into the input: into an object by name, or into a list by position. -/
inductive Place where
  | name (name : String)
  | position (index : Nat)
  deriving DecidableEq, Repr

inductive IssueKind where
  | missing
  | unexpected
  | notObject
  | notDictionary
  | notList
  | notText
  | badEncoding
  | notBool
  | malformedBool
  | notInt
  | malformedInt
  | longInt
  | fractionalInt
  | infiniteInt
  | tooSmall
  | notFloat
  | malformedFloat
  | notTime
  | malformedTime
  | timeOutOfRange
  deriving DecidableEq, Repr

/-- The code under which an issue is reported. -/
def IssueKind.code : IssueKind → String
  | .missing => "missing"
  | .unexpected => "extra_forbidden"
  | .notObject => "model_type"
  | .notDictionary => "dict_type"
  | .notList => "list_type"
  | .notText => "string_type"
  | .badEncoding => "string_unicode"
  | .notBool => "bool_type"
  | .malformedBool => "bool_parsing"
  | .notInt => "int_type"
  | .malformedInt => "int_parsing"
  | .longInt => "int_parsing_size"
  | .fractionalInt => "int_from_float"
  | .infiniteInt => "finite_number"
  | .tooSmall => "greater_than_equal"
  | .notFloat => "float_type"
  | .malformedFloat => "float_parsing"
  | .notTime => "datetime_type"
  | .malformedTime => "datetime_from_date_parsing"
  | .timeOutOfRange => "datetime_parsing"

structure Issue where
  path : List Place
  kind : IssueKind
  deriving DecidableEq, Repr

inductive Checked (α : Type) where
  | valid (result : α)
  | invalid (issues : List Issue)
  deriving Repr

namespace Checked

variable {α β : Type}

def fault (kind : IssueKind) : Checked α := .invalid [⟨[], kind⟩]

def ofOption (kind : IssueKind) : Option α → Checked α
  | some result => .valid result
  | none => fault kind

def map (f : α → β) : Checked α → Checked β
  | valid result => valid (f result)
  | invalid issues => invalid issues

/-- Combines two checks; the issues of the first come first. -/
def seq (f : Checked (α → β)) (x : Unit → Checked α) : Checked β :=
  match f, x () with
  | valid g, valid result => valid (g result)
  | valid _, invalid issues => invalid issues
  | invalid issues, valid _ => invalid issues
  | invalid issues, invalid others => invalid (issues ++ others)

instance : Applicative Checked where
  pure := valid
  map := map
  seq := seq

theorem map_valid (f : α → β) (result : α) : f <$> (valid result : Checked α) = valid (f result) := rfl

theorem seq_valid (f : α → β) (x : Checked α) : (valid f : Checked (α → β)) <*> x = f <$> x := by
  cases x <;> rfl

/-- Where both checks find issues, all of them are reported, in order. -/
theorem seq_invalid (issues others : List Issue) :
    (invalid issues : Checked (α → β)) <*> invalid others = invalid (issues ++ others) := rfl

/-- Makes a second check only of what passed the first. -/
def andThen (first : Checked α) (second : α → Checked β) : Checked β :=
  match first with
  | valid result => second result
  | invalid issues => invalid issues

/-- Reports issues one step further out. -/
def within (place : Place) : Checked α → Checked α
  | valid result => valid result
  | invalid issues => invalid (issues.map fun issue => { issue with path := place :: issue.path })

/-- Checks the members of a list, numbered from `position`. -/
def allFrom (check : α → Checked β) (position : Nat) : List α → Checked (List β)
  | [] => valid []
  | item :: rest =>
    (· :: ·) <$> within (.position position) (check item) <*> allFrom check (position + 1) rest

/-- Checks the values of an object under their names. -/
def allNamed (check : α → Checked β) : List (String × α) → Checked (List (String × β))
  | [] => valid []
  | (name, item) :: rest =>
    (fun result others => (name, result) :: others) <$> within (.name name) (check item) <*>
      allNamed check rest

end Checked

end MailSearch

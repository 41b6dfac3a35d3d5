/-
Checked input.

A check either yields a value or lists what is wrong, and two checks side by side
list the faults of both: nothing is reported late because something else was wrong
first. Each fault says where it is, as a path of keys and positions from the root,
and what the problem is; code and wording of a problem are functions of it.
-/
import ServiceSchema.Text.Quoted

set_option autoImplicit false

namespace ServiceSchema.Validation

/-- What is wrong with a value. -/
inductive Problem where
  | missing
  | notText
  /-- Bytes that are no text. -/
  | notUnicode
  | notList
  /-- Something else than a mapping where a record of this name is described. -/
  | notRecord (name : String)
  /-- A word or number that stands for no truth value. -/
  | unclearBool
  | notBool
  /-- A number with a fractional part. -/
  | fractional
  /-- A text that is no whole number. -/
  | intText
  /-- A numeral that is too long. -/
  | intTooLong
  | notInt
  | notFinite
  | negative
  /-- None of the members of an enumeration. -/
  | notMember (members : List String)
  /-- None of the literals that are allowed. -/
  | notLiteral (literals : List String)
  | notPath
  /-- A rule of the record as a whole. -/
  | rule (message : String)
deriving DecidableEq, Inhabited, Repr

/-- Alternatives as messages list them: `'a', 'b' or 'c'`. -/
def alternatives : List String → String
  | [] => ""
  | [a] => Text.quoted a
  | [a, b] => Text.quoted a ++ " or " ++ Text.quoted b
  | a :: rest => Text.quoted a ++ ", " ++ alternatives rest

namespace Problem

/-- The code of a problem. -/
def code : Problem → String
  | missing => "missing"
  | notText => "string_type"
  | notUnicode => "string_unicode"
  | notList => "list_type"
  | notRecord _ => "model_type"
  | unclearBool => "bool_parsing"
  | notBool => "bool_type"
  | fractional => "int_from_float"
  | intText => "int_parsing"
  | intTooLong => "int_parsing_size"
  | notInt => "int_type"
  | notFinite => "finite_number"
  | negative => "greater_than_equal"
  | notMember _ => "enum"
  | notLiteral _ => "literal_error"
  | notPath => "path_type"
  | rule _ => "value_error"

/-- The wording of a problem. -/
def message : Problem → String
  | missing => "Field required"
  | notText => "Input should be a valid string"
  | notUnicode => "Input should be a valid string, unable to parse raw data as a unicode string"
  | notList => "Input should be a valid list"
  | notRecord name => "Input should be a valid dictionary or instance of " ++ name
  | unclearBool => "Input should be a valid boolean, unable to interpret input"
  | notBool => "Input should be a valid boolean"
  | fractional => "Input should be a valid integer, got a number with a fractional part"
  | intText => "Input should be a valid integer, unable to parse string as an integer"
  | intTooLong => "Unable to parse input string as an integer, exceeded maximum size"
  | notInt => "Input should be a valid integer"
  | notFinite => "Input should be a finite number"
  | negative => "Input should be greater than or equal to 0"
  | notMember members => "Input should be " ++ alternatives members
  | notLiteral literals => "Input should be " ++ alternatives literals
  | notPath => "Input is not a valid path for <class 'pathlib.Path'>"
  | rule message => "Value error, " ++ message

end Problem

/-- A step of the way to a value. -/
inductive Step where
  | key (name : String)
  | index (position : Nat)
deriving DecidableEq, Inhabited, Repr

/-- A problem and where it is. -/
structure Detail where
  path : List Step
  problem : Problem
deriving DecidableEq, Inhabited, Repr

/-- The outcome of a check. -/
inductive Checked (α : Type) where
  | valid (value : α)
  | invalid (details : List Detail)
deriving Inhabited

namespace Checked

/-- Two checks side by side: both have to succeed, and the faults of both are listed. -/
def both {α β γ : Type} (f : α → β → γ) : Checked α → Checked β → Checked γ
  | valid a, valid b => valid (f a b)
  | valid _, invalid e => invalid e
  | invalid e, valid _ => invalid e
  | invalid e, invalid e' => invalid (e ++ e')

instance : Applicative Checked where
  pure := valid
  seq f x := both (fun f a => f a) f (x ())

/-- A single problem, right here. -/
def fail {α : Type} (problem : Problem) : Checked α := invalid [⟨[], problem⟩]

/-- The outcome of a check one step further from the root. -/
def under {α : Type} (step : Step) : Checked α → Checked α
  | valid a => valid a
  | invalid details => invalid (details.map fun d => { d with path := step :: d.path })

/-- A further check of a value that is valid so far. -/
def andThen {α β : Type} (x : Checked α) (f : α → Checked β) : Checked β :=
  match x with
  | valid a => f a
  | invalid details => invalid details

/-- Checks all items of a list, the first of which has the given position. -/
def items {α β : Type} (check : α → Checked β) : Nat → List α → Checked (List β)
  | _, [] => valid []
  | position, x :: rest =>
    both List.cons ((check x).under (.index position)) (items check (position + 1) rest)

end Checked

end ServiceSchema.Validation

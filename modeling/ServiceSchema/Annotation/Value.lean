/-
Plain values that occur in annotations and class bodies.

Plain values are those of JSON. Here is how two of them compare, which class a
value belongs to, and how a value is written: as source, where a text stands
between quotes, or as output, where a text stands for itself.
-/
import ServiceSchema.Class.Standard
import ServiceSchema.Json.Basic
import ServiceSchema.Number.Shortest
import ServiceSchema.Text.Quoted

set_option autoImplicit false

namespace ServiceSchema.Json

/-! ## Comparison -/

/-- The number that a value counts as, if it counts as a whole number. -/
def wholeNumber? : Json → Option Int
  | bool b => some (if b then 1 else 0)
  | int n => some n
  | real x => x.toInt?
  | _ => none

mutual

/-- Whether two values are equal. Numbers and truth values compare by their numeric value, and
objects regardless of the order of their entries. -/
def equal : Json → Json → Bool
  | null, null => true
  | text s, text t => s == t
  | list xs, list ys => equalItems xs ys
  | object xs, object ys => xs.length == ys.length && equalEntries xs ys
  | real (.undefined), real _ => false
  | x, y =>
    match wholeNumber? x, wholeNumber? y with
    | some m, some n => m == n
    | none, none =>
      match x, y with
      | real a, real b => a == b
      | _, _ => false
    | _, _ => false

/-- Whether two lists have equal items. -/
def equalItems : List Json → List Json → Bool
  | [], [] => true
  | x :: xs, y :: ys => equal x y && equalItems xs ys
  | _, _ => false

/-- Whether every entry has an equal one under its key. -/
def equalEntries : List (String × Json) → List (String × Json) → Bool
  | [], _ => true
  | (key, x) :: xs, ys =>
    (match ys.lookup key with
      | some y => equal x y
      | none => false) && equalEntries xs ys

end

/-- The class of a value. -/
def standardClass : Json → StandardClass
  | null => .none
  | bool _ => .builtin "bool"
  | int _ => .builtin "int"
  | real _ => .builtin "float"
  | text _ => .builtin "str"
  | list _ => .builtin "list"
  | object _ => .builtin "dict"

/-! ## Text -/

mutual

/-- A value as source text. -/
def source : Json → String
  | null => "None"
  | bool b => if b then "True" else "False"
  | int n => Number.integerText n
  | real x => x.text
  | text s => Text.quoted s
  | list items => "[" ++ String.intercalate ", " (sourceItems items) ++ "]"
  | object entries => "\x7b" ++ String.intercalate ", " (sourceEntries entries) ++ "\x7d"

/-- The source text of every item. -/
def sourceItems : List Json → List String
  | [] => []
  | item :: rest => source item :: sourceItems rest

/-- The source text of every entry. -/
def sourceEntries : List (String × Json) → List String
  | [] => []
  | (key, item) :: rest => (Text.quoted key ++ ": " ++ source item) :: sourceEntries rest

end

/-- A value as output: a text stands for itself. -/
def display : Json → String
  | text s => s
  | value => source value

end ServiceSchema.Json

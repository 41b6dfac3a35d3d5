/-
Lines on a terminal.

Status lines start with a mark that says how things went. A section starts with an
empty line, its title and a rule. Lines that are wider than the terminal are broken.
-/
import ServiceSchema.Text.Case
import ServiceSchema.Text.Width

set_option autoImplicit false

namespace ServiceSchema.Terminal

/-- The number of cells in a line of the terminal. -/
def columns : Nat := 200

/-- The controls that a terminal would act on and that texts are shown without. -/
def isControl (c : Char) : Bool := [7, 8, 11, 12, 13].contains c.toNat

/-- The lines of a text. -/
def textLines (s : String) : List (List Char) :=
  (s.toList.filter (!isControl ·)).splitOn '\n'

/-- What a terminal shows for a text. -/
def display (s : String) : List String :=
  (textLines s).flatMap fun line => (Text.wrap columns line).map String.ofList

/-! ## Status lines -/

/-- How things went. -/
inductive Status where
  | neutral
  | good
  | doubtful
  | bad
deriving DecidableEq, Inhabited, Repr

/-- The mark in front of a status line. -/
def Status.mark : Status → String
  | neutral => "›"
  | good => "✓"
  | doubtful => "!"
  | bad => "✗"

/-- A status line. -/
def Status.lines (status : Status) (message : String) : List String :=
  display ("  " ++ status.mark ++ " " ++ message)

/-! ## Sections -/

/-- The rule under a title. -/
def rule : String := String.ofList (List.replicate 52 '─')

/-- The start of a section, which may be numbered. -/
def sectionLines (number : Option String) (title : String) : List String :=
  let number := match number with
    | some n => n ++ " · "
    | none => ""
  ["", "  " ++ number ++ Text.upper title, "  " ++ rule]

end ServiceSchema.Terminal

/-
What a program says about its classes and functions.

A description that is marked on a class or function wins over its documentation.
Documentation is written with the indentation of the source around it, which is
taken away: the first line loses its leading blanks, all others what the shallowest
of them is indented by, and blank lines at either end vanish.
-/
import ServiceSchema.Class.Universe

set_option autoImplicit false

namespace ServiceSchema

/-! ## Documentation -/

/-- The characters with every tab filled up to the next multiple of eight columns. -/
def expandTabs : Nat → List Char → List Char
  | _, [] => []
  | column, '\t' :: rest =>
    List.replicate (8 - column % 8) ' ' ++ expandTabs (column + (8 - column % 8)) rest
  | column, c :: rest =>
    c :: expandTabs (if c = '\n' ∨ c = '\r' then 0 else column + 1) rest

/-- The lines of a text, which a line feed ends. -/
def lines (cs : List Char) : List (List Char) := cs.splitOn '\n'

/-- How far a line is indented, unless it is blank. -/
def indentation? (line : List Char) : Option Nat :=
  if line.all Text.isBlank then none else some (line.takeWhile Text.isBlank).length

/-- Documentation without the indentation of the source around it. -/
def cleanDocumentation (s : String) : String :=
  match lines (expandTabs 0 s.toList) with
  | [] => ""
  | first :: rest =>
    let margin := ((rest.filterMap indentation?).min?).getD 0
    let all := Text.dropBlanks first :: rest.map (·.drop margin)
    let kept := ((all.dropWhile (·.isEmpty)).reverse.dropWhile (·.isEmpty)).reverse
    String.intercalate "\n" (kept.map String.ofList)

/-- The description of anything: the one it is marked with, else its documentation. -/
def describe (marked documentation : Option String) : String :=
  match marked with
  | some s => if s = "" then cleanDocumentation (documentation.getD "") else s
  | none => cleanDocumentation (documentation.getD "")

/-! ## Functions and classes -/

/-- The description of a function. -/
def Function.describe (f : Function) : String :=
  ServiceSchema.describe f.description f.documentation

/-- Whether documentation only shows how instances of a class are made. -/
def isGenerated (name documentation : String) : Bool :=
  name != "" && (name ++ "(").toList.isPrefixOf documentation.toList

/-- The description of a class. Documentation that shows how instances are made does not count. -/
def Universe.describe (u : Universe) (id : ClassId) : String :=
  match id with
  | .standard c => ServiceSchema.describe none (u.library c).documentation
  | id => match u.declaration? id with
    | some c =>
      ServiceSchema.describe c.description (c.documentation.filter (!isGenerated c.name ·))
    | none => ""

end ServiceSchema

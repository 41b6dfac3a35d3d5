/-
Paths.

A path is a list of names, with a root in front if it is absolute. Reading a path
from text drops empty names and the name of the current directory, so that a path
has one text; the parent directory stays, because it may lead elsewhere.
-/

set_option autoImplicit false

namespace ServiceSchema.File

/-- The way to a file or directory. -/
structure Path where
  /-- What the path starts from: nothing, or the slashes of an absolute path. -/
  root : String := ""
  names : List String := []
deriving DecidableEq, Inhabited, Repr

namespace Path

/-- The root of a text: two slashes are a root of their own, all others count as one. -/
def rootOf : List Char → String
  | ['/', '/'] => "//"
  | '/' :: '/' :: c :: _ => if c = '/' then "/" else "//"
  | '/' :: _ => "/"
  | _ => ""

/-- Whether a part of a text leads anywhere. -/
def isName (part : String) : Bool := part != "" && part != "."

/-- The path that a text names. -/
def ofText (s : String) : Path :=
  ⟨rootOf s.toList, ((s.toList.splitOn '/').map String.ofList).filter isName⟩

/-- The text of a path. -/
def text (p : Path) : String :=
  if p.root = "" && p.names.isEmpty then "." else p.root ++ String.intercalate "/" p.names

/-- The path that continues with a name. -/
def child (p : Path) (name : String) : Path := { p with names := p.names ++ [name] }

/-- The directory that holds what a path leads to. -/
def parent (p : Path) : Path := { p with names := p.names.dropLast }

/-- The current directory is the path without names. -/
theorem ofText_dot : ofText "." = {} := by decide

end Path

end ServiceSchema.File

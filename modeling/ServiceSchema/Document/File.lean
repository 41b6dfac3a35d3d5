/-
Loading a specification from a file.

A file that cannot be read is a fault of its own, beside those of the text that it
holds. A file that holds no text at all is another one.
-/
import ServiceSchema.Document.Load
import ServiceSchema.File.Tree
import ServiceSchema.Text.Encoded

set_option autoImplicit false

namespace ServiceSchema

namespace File.Fault

/-- The number of a fault. -/
def number : Fault → Nat
  | missing _ => 2
  | occupied _ => 17
  | notDirectory _ => 20
  | isDirectory _ => 21

/-- What a fault says. -/
def reason : Fault → String
  | missing _ => "No such file or directory"
  | occupied _ => "File exists"
  | notDirectory _ => "Not a directory"
  | isDirectory _ => "Is a directory"

/-- The path that is at fault. -/
def path : Fault → Path
  | missing p | occupied p | notDirectory p | isDirectory p => p

/-- The wording of a fault. -/
def message (fault : Fault) : String :=
  "[Errno " ++ Nat.repr fault.number ++ "] " ++ fault.reason ++ ": " ++ Text.quoted fault.path.text

end File.Fault

/-- Why a file holds no specification. -/
inductive FileLoadError where
  /-- The file under this name cannot be read. -/
  | unreadable (name : String) (fault : File.Fault)
  /-- No path contains the character with number zero. -/
  | nulInPath
  /-- The file holds no text. -/
  | notUnicode
  /-- The text is no specification. -/
  | text (error : LoadError)
deriving DecidableEq, Inhabited, Repr

/-- The wording of an error. -/
def FileLoadError.message : FileLoadError → String
  | unreadable name fault => "Cannot read " ++ name ++ ": " ++ fault.message
  | nulInPath => "embedded null byte"
  | notUnicode => ""
  | text error => error.message

/-- The specification in the file that a name leads to. -/
def Specification.ofFile (tree : File.Tree) (name : String) (reader : Yaml.Reader := Yaml.load) :
    Except FileLoadError Specification :=
  let path := File.Path.ofText name
  if name.toList.contains (Char.ofNat 0) then .error .nulInPath
  else match tree.read path with
    | .error fault => .error (.unreadable name fault)
    | .ok content =>
      match Text.decode? content with
      | none => .error .notUnicode
      | some text => (Specification.ofText text reader).mapError .text

end ServiceSchema

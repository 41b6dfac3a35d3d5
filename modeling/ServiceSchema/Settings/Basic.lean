/-
The settings of a run.

Every setting has a default. A value that is given directly counts before one of the
environment, and that one before one of the file of assignments. All settings are
checked, and the faults of all are listed in the order in which they are declared.
-/
import ServiceSchema.File.Tree
import ServiceSchema.Json.Basic
import ServiceSchema.Schema.Output
import ServiceSchema.Settings.Environment
import ServiceSchema.Validation.Scalars

set_option autoImplicit false

namespace ServiceSchema

open Validation

/-- The words for what the log of a run records. -/
def logLevels : List String := ["DEBUG", "INFO", "WARNING", "ERROR"]

/-- The settings of a run. -/
structure Settings where
  outputFormat : Schema.Format := .json
  jsonIndent : Nat := 2
  strictReferences : Bool := false
  logLevel : String := "INFO"
  homeDirectory : File.Path
  logDirectory : File.Path
deriving Inhabited, Repr

namespace Settings

/-! ## Checks -/

/-- A format. -/
def readFormat (v : Json) : Checked Schema.Format :=
  match v with
  | .text s =>
    match Schema.Format.ofWord? s with
    | some format => .valid format
    | none => .fail (.notLiteral (Schema.Format.all.map Schema.Format.word))
  | _ => .fail (.notLiteral (Schema.Format.all.map Schema.Format.word))

/-- A number of blanks. -/
def readIndent (v : Json) : Checked Nat :=
  Checked.andThen
    (match v with
      | .bool b => .valid (if b then 1 else 0)
      | .int n => .valid n
      | .real x => intOfReal x
      | .text s => intOfText s
      | _ => .fail .notInt)
    natural

/-- A truth value. -/
def readBool : Json → Checked Bool
  | .bool b => .valid b
  | .int n => boolOfInt n
  | .real x => boolOfReal x
  | .text s => boolOfText s
  | _ => .fail .notBool

/-- A word for what the log records, in any case. -/
def readLogLevel (v : Json) : Checked String :=
  match v with
  | .text s =>
    if logLevels.contains (Text.upper s) then .valid (Text.upper s)
    else .fail (.notLiteral logLevels)
  | _ => .fail (.notLiteral logLevels)

/-- A path. -/
def readPath : Json → Checked File.Path
  | .text s => .valid (.ofText s)
  | _ => .fail .notPath

/-- A path or nothing. -/
def readOptionalPath : Json → Checked (Option File.Path)
  | .null => .valid none
  | v => some <$> readPath v

/-! ## Settings -/

/-- The settings that `given?` gives values for; `home` is the home directory of the user. -/
def read (home : File.Path) (given? : String → Option Json) : Checked Settings :=
  let part {α : Type} (name : String) (default : α) (check : Json → Checked α) : Checked α :=
    match given? name with
    | none => .valid default
    | some v => (check v).under (.key name)
  let make (outputFormat : Schema.Format) (jsonIndent : Nat) (strictReferences : Bool)
      (logLevel : String) (homeDirectory : File.Path) (logDirectory : Option File.Path) :
      Settings :=
    { outputFormat, jsonIndent, strictReferences, logLevel, homeDirectory
      logDirectory := logDirectory.getD (homeDirectory.child "logs") }
  make <$> part "output_format" .json readFormat
    <*> part "json_indent" 2 readIndent
    <*> part "strict_references" false readBool
    <*> part "log_level" "INFO" readLogLevel
    <*> part "home_dir" (home.child ".schemadoc") readPath
    <*> part "log_dir" none readOptionalPath

/-- The name of the file of assignments. -/
def assignmentFile : File.Path := .ofText ".env"

/-- The variables that the file of assignments sets, none if there is no such file. -/
def fileVariables (tree : File.Tree) : Variables :=
  match tree.read assignmentFile with
  | .ok content => ((Text.decode? content).map assignments).getD []
  | .error _ => []

/-- Where the value of a setting comes from: what is given directly, the environment, the file. -/
def source (direct : List (String × Json)) (environment file : Variables) (name : String) :
    Option Json :=
  let key := "schemadoc_" ++ name
  direct.lookup name <|> (valueOf? environment key).map Json.text
    <|> (valueOf? file key).map Json.text

/-- The settings of a run in a directory. -/
def load (home : File.Path) (tree : File.Tree) (environment : Variables)
    (direct : List (String × Json)) : Checked Settings :=
  read home (source direct environment (fileVariables tree))

end Settings

end ServiceSchema

/-
Misuse of the command line.

Each way in which the words of a command line make no sense has a constructor; the
wording is in one place, `Misuse.message`.
-/
import ServiceSchema.Command.Verb
import ServiceSchema.Text.Quoted

set_option autoImplicit false

namespace ServiceSchema.Command

/-- Why a value is refused. -/
inductive ValueFault where
  | notInteger (text : String)
  | notOneOf (text : String) (words : List String)
  /-- There is no such file. -/
  | noFile (text : String)
  /-- A directory is where a file should be. -/
  | directory (text : String)
  /-- The text does not name a class in a module. -/
  | notTarget (text : String)
deriving DecidableEq, Inhabited, Repr

/-- The wording of a refusal. -/
def ValueFault.message : ValueFault → String
  | notInteger text => Text.quoted text ++ " is not a valid integer."
  | notOneOf text words =>
    Text.quoted text ++ " is not one of " ++ String.intercalate ", " (words.map Text.quoted) ++ "."
  | noFile text => "File " ++ Text.quoted text ++ " does not exist."
  | directory text => "File " ++ Text.quoted text ++ " is a directory."
  | notTarget text => "expected 'module:ClassName', got " ++ Text.quoted text

/-- Why the words of a command line make no sense. -/
inductive Misuse where
  /-- No switch has this name; similar ones are listed. -/
  | noSuchSwitch (name : String) (similar : List String)
  /-- No verb has this name; similar ones are listed. -/
  | noSuchVerb (name : String) (similar : List String)
  | missingVerb
  /-- The switch takes a value, and nothing follows. -/
  | missingValue (name : String)
  /-- The switch takes no value. -/
  | surplusValue (name : String)
  | badValue (label : String) (fault : ValueFault)
  | missingFile
  | surplusWords (words : List String)
  /-- A file and classes are given. -/
  | twoSources
  /-- Neither a file nor classes are given. -/
  | noSource
deriving DecidableEq, Inhabited, Repr

/-- Similar names as a message offers them. -/
def offer : List String → String
  | [] => ""
  | [name] => " Did you mean " ++ Text.quoted name ++ "?"
  | names =>
    " (Did you mean one of: " ++ String.intercalate ", " (names.map Text.quoted) ++ "?)"

namespace Misuse

/-- The wording of a misuse. -/
def message : Misuse → String
  | noSuchSwitch name similar => "No such option " ++ Text.quoted name ++ "." ++ offer similar
  | noSuchVerb name similar => "No such command " ++ Text.quoted name ++ "." ++ offer similar
  | missingVerb => "Missing command."
  | missingValue name => "Option " ++ Text.quoted name ++ " requires an argument."
  | surplusValue name => "Option " ++ Text.quoted name ++ " does not take a value."
  | badValue label fault => "Invalid value for " ++ label ++ ": " ++ fault.message
  | missingFile => "Missing argument 'SPEC_FILE'."
  | surplusWords words =>
    "Got unexpected extra argument" ++ (if words.length = 1 then "" else "s") ++ " ("
      ++ String.intercalate " " words ++ ")"
  | twoSources => "Give either SPEC_FILE or --from-class, not both."
  | noSource => "Missing SPEC_FILE (or --from-class)."

/-- Whether the message comes after the lines that show the usage. -/
def showsUsage : Misuse → Bool
  | missingValue _ | surplusValue _ => false
  | _ => true

end Misuse

end ServiceSchema.Command

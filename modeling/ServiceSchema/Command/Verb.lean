/-
What can be said on the command line.

The program knows four verbs, and switches that stand before or after them. Some
switches take a value. Names, and the line that shows how a verb is used, are
functions of verbs and switches.
-/

set_option autoImplicit false

namespace ServiceSchema.Command

/-- What the program can be told to do. -/
inductive Verb where
  /-- Write one schema document per method. -/
  | generate
  /-- Write the table of definitions. -/
  | definitions
  /-- Check references and names. -/
  | validate
  /-- Show the settings. -/
  | config
deriving DecidableEq, Inhabited, Repr

namespace Verb

/-- The word for a verb. -/
def word : Verb → String
  | generate => "generate"
  | definitions => "definitions"
  | validate => "validate"
  | config => "config"

/-- All verbs. -/
def all : List Verb := [generate, definitions, validate, config]

/-- The verb that a word names. -/
def ofWord? (s : String) : Option Verb := all.find? (·.word == s)

/-- A word names a single verb. -/
theorem ofWord?_word (verb : Verb) : ofWord? verb.word = some verb := by cases verb <;> decide

end Verb

/-- What modifies a command. -/
inductive Switch where
  | help
  /-- Show the version. -/
  | version
  /-- Show the log on the console. -/
  | verbose
  /-- A class that describes a service. -/
  | fromClass
  /-- The file to write to. -/
  | output
  | format
  | indent
  /-- Refuse defective references and names. -/
  | strict
  /-- Accept defective references and names. -/
  | lenient
  /-- A method whose document is wanted. -/
  | method
deriving DecidableEq, Inhabited, Repr

namespace Switch

/-- The names of a switch. -/
def names : Switch → List String
  | help => ["--help"]
  | version => ["--version"]
  | verbose => ["--verbose", "-v"]
  | fromClass => ["--from-class"]
  | output => ["--output", "-o"]
  | format => ["--format"]
  | indent => ["--indent"]
  | strict => ["--strict"]
  | lenient => ["--lenient"]
  | method => ["--method"]

/-- Whether a switch takes a value. -/
def takesValue : Switch → Bool
  | help | version | verbose | strict | lenient => false
  | fromClass | output | format | indent | method => true

/-- A switch as messages about its value name it. -/
def label (s : Switch) : String :=
  String.intercalate " / " (s.names.map fun name => "'" ++ name ++ "'")

/-- The switches that stand before a verb. -/
def leading : List Switch := [version, verbose, help]

end Switch

/-- How the file of a specification is given. -/
inductive FileArgument where
  | absent
  | optional
  | required
deriving DecidableEq, Inhabited, Repr

/-- The file argument as usage lines and messages name it. -/
def FileArgument.label? : FileArgument → Option String
  | absent => none
  | optional => some "[SPEC_FILE]"
  | required => some "SPEC_FILE"

namespace Verb

/-- The switches that may follow a verb. -/
def switches : Verb → List Switch
  | generate => [.fromClass, .output, .format, .indent, .strict, .lenient, .method, .help]
  | definitions => [.output, .format, .indent, .help]
  | validate | config => [.help]

/-- How a verb takes the file of a specification. -/
def file : Verb → FileArgument
  | generate => .optional
  | definitions | validate => .required
  | config => .absent

end Verb

/-- The words that call the program, with or without a verb. -/
def callText (program : String) : Option Verb → String
  | none => program
  | some verb => program ++ " " ++ verb.word

/-- How the program or a verb is used. -/
def usageText (program : String) (verb : Option Verb) : String :=
  "Usage: " ++ callText program verb ++ " [OPTIONS]"
    ++ match verb with
      | none => " COMMAND [ARGS]..."
      | some verb => match verb.file.label? with
        | none => ""
        | some label => " " ++ label

/-- The lines that precede the message about a misuse. -/
def usageLines (program : String) (verb : Option Verb) : List String :=
  [usageText program verb, "Try '" ++ callText program verb ++ " --help' for help.", ""]

end ServiceSchema.Command

/-
Help on the command line.

Help shows how the program or a verb is used, what it does and which switches it knows;
help on the program lists the verbs too. Explanations stand in a column of their own,
and one that does not fit is broken between words.
-/
import ServiceSchema.Command.Verb
import ServiceSchema.Text.Width

set_option autoImplicit false

namespace ServiceSchema.Command

/-! ## What is said -/

/-- What the program does. -/
def programSummary : String :=
  "schemadoc -- JSON Schema documentation for service specifications."

/-- What a verb does, in a sentence. -/
def Verb.summary : Verb → String
  | generate => "Generate one JSON Schema document per method."
  | definitions => "Print the shared definitions table of a specification."
  | validate => "Check a specification for dangling references and duplicate names."
  | config => "Show the effective configuration."

/-- What else there is to say about a verb. -/
def Verb.remarks : Verb → List String
  | validate => ["Exits with status 1 when problems are found."]
  | _ => []

/-- Command lines that show how a verb is used. -/
def Verb.examples : Verb → List String
  | generate =>
    ["schemadoc generate service.yaml -o schemas.json",
     "schemadoc generate --from-class myapp.api:AnimalService --format yaml"]
  | definitions => ["schemadoc definitions service.yaml"]
  | validate => ["schemadoc validate service.yaml"]
  | config => []

/-- What stands for the value of a switch. -/
def Switch.placeholder : Switch → String
  | fromClass | method => " TEXT"
  | output => " FILE"
  | format => " [json|yaml]"
  | indent => " INTEGER"
  | help | version | verbose | strict | lenient => ""

/-- What a switch is called in help, short names first, and what it means. A switch and the one that
takes it back are one line, which stands where the first of them does. -/
def Switch.entry? (s : Switch) : Option (String × String) :=
  let named (meaning : String) := some (String.intercalate ", " s.names.reverse ++ s.placeholder, meaning)
  match s with
  | help => named "Show this message and exit."
  | version => named "Show version and exit."
  | verbose => named "Also log to stderr."
  | fromClass => named "Service class to introspect, as module:ClassName (repeatable)."
  | output => named "Write to this file instead of stdout."
  | format => named "Output format (default from config)."
  | indent => named "JSON indent (0 for compact)."
  | strict => some ("--strict / --lenient", "Fail on dangling references and duplicate names.")
  | lenient => none
  | method => named "Only emit methods with this name or $id (repeatable)."

/-! ## Layout -/

/-- The number of characters in a line of help. -/
def helpWidth : Nat := 78

/-- A text of several lines, without the blanks that end them. -/
def brokenLines (limit : Nat) (s : String) : List String :=
  (Text.wrap limit s.toList).map fun line => Text.trimEnd (String.ofList line)

/-- A text in two columns, the second one broken into lines. -/
def columnLines (rows : List (String × String)) : List String :=
  let column := (rows.map (·.1.length)).foldl max 0 + 2
  rows.flatMap fun (name, text) =>
    -- the first line stands beside the name, all others under it
    let starts := name :: List.replicate text.length ""
    (starts.zip (brokenLines (helpWidth - 2 - column) text)).map fun (start, line) =>
      "  " ++ String.ofList (Text.padRight column start.toList) ++ line

/-- A sentence, or as many of its words as fit with three dots after them. -/
def shortened (limit : Nat) (s : String) : String :=
  if s.length ≤ limit then s else (brokenLines (limit - 3) s).headD "" ++ "..."

/-- The verbs in the order of their words, each with what it does. -/
def verbLines : List String :=
  let verbs := Verb.all.mergeSort fun a b => decide (a.word ≤ b.word)
  let column := (verbs.map (·.word.length)).foldl max 0
  columnLines (verbs.map fun v => (v.word, shortened (helpWidth - 6 - column) v.summary))

/-- The paragraphs on the program or a verb. -/
def paragraphs : Option Verb → List (List String)
  | none => [[programSummary]]
  | some v =>
    (v.summary :: v.remarks).map ([·])
      ++ if v.examples.isEmpty then [] else ["Examples:" :: v.examples.map ("  " ++ ·)]

/-- The lines of the help on the program or a verb. -/
def helpLines (program : String) (verb : Option Verb) : List String :=
  let switches := match verb with
    | none => Switch.leading
    | some v => v.switches
  [usageText program verb]
    ++ (paragraphs verb).flatMap (fun lines => "" :: lines.map ("  " ++ ·))
    ++ ["", "Options:"] ++ columnLines (switches.filterMap Switch.entry?)
    ++ match verb with
      | none => ["", "Commands:"] ++ verbLines
      | some _ => []

end ServiceSchema.Command

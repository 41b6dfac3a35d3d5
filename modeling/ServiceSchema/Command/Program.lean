/-
The program.

The switches in front of the verb come first, then the verb itself; settings and log
are set up before the words after the verb are read. However a run ends, its outcome
has an exit code and a transcript.
-/
import ServiceSchema.Command.Help
import ServiceSchema.Command.Inspect

set_option autoImplicit false

namespace ServiceSchema.Command

/-- The version of the program. -/
def version : String := "1.0.0"

/-- The words of a command line, or the misuse of a verb or of the program. -/
def orMisuse {α : Type} (verb : Option Verb) (x : Except Misuse α) : Run α :=
  match x with
  | .ok a => return a
  | .error m => throw (.misuse verb m)

/-- The settings of the run. -/
def loadSettings : Run Settings := do
  let around ← read
  match Settings.load around.home (← Run.files) around.environment [] with
  | .valid settings => return settings
  | .invalid details => throw (.fault (.settings details))

/-- Writes the help on the program or a verb, and ends the run. -/
def writeHelp {α : Type} (verb : Option Verb) : Run α := do
  let lines := helpLines (← read).program verb
  Run.emit (String.join (lines.map (· ++ "\n")))
  throw (.exit 0)

/-- Does what a verb asks for. -/
def perform (settings : Settings) (a : Arguments) : Verb → Run Unit
  | .generate => generate settings a
  | .definitions => writeDefinitions settings a
  | .validate => validate a
  | .config => showSettings settings

/-- The verb of a word, unless there is none. -/
def readVerb (word : String) : Run Verb :=
  match Verb.ofWord? word with
  | some verb => return verb
  | none =>
    throw (.misuse none (.noSuchVerb word (Text.suggestions word (Verb.all.map Verb.word))))

/-- Runs a verb with the words that follow it. -/
def runVerb (verb : Verb) (words : List String) (verbose : Bool) : Run Unit := do
  let settings ← loadSettings
  Run.startLog
    { level := settings.logLevel, directory := settings.logDirectory, console := verbose }
  let scanned ← orMisuse (some verb) (scan verb.switches true words)
  if scanned.given.any (·.1 == .help) then writeHelp (some verb)
  perform settings (← orMisuse (some verb) (Arguments.ofScanned (← Run.files) verb scanned)) verb

/-- Runs the program with the words of a command line. -/
def runWords (words : List String) : Run Unit := do
  if words.isEmpty then
    Run.tell (helpLines (← read).program none)
    throw (.exit 2)
  let scanned ← orMisuse none (scan Switch.leading false words)
  match scanned.given.find? fun (s, _) => s == .version || s == .help with
  | some (.version, _) =>
    Run.tell ["schemadoc  v" ++ version]
    throw (.exit 0)
  | some _ => writeHelp none
  | none =>
    match scanned.rest with
    | [] => throw (.misuse none .missingVerb)
    | word :: words =>
      runVerb (← readVerb word) words (scanned.given.any (·.1 == .verbose))

/-- The outcome of a run. -/
structure Outcome where
  exitCode : Nat
  transcript : Transcript
  /-- The fault that ended the run. -/
  fault : Option Fault := none

/-- The outcome of a run that ended. -/
def Outcome.ofStop (program : String) (stop : Stop) (t : Transcript) : Outcome where
  exitCode := stop.code
  transcript := { t with shown := t.shown ++ stop.lines program }
  fault := match stop with
    | .fault f => some f
    | _ => none

/-- The outcome of a command line. -/
def execute (around : Surroundings) (tree : File.Tree) (words : List String) : Outcome :=
  match (runWords words).run around |>.run.run { tree } with
  | (.ok (), t) => { exitCode := 0, transcript := t }
  | (.error stop, t) => .ofStop around.program stop t

end ServiceSchema.Command

/-
Runs of the program.

A run reads its surroundings and changes a transcript: the files, the log, the
document output and what the user is shown. It may stop early, and what the
transcript holds then stays. The steps here are all that a run can do to it.
-/
import ServiceSchema.Command.Stop
import ServiceSchema.Settings.Environment
import ServiceSchema.Terminal.Table

set_option autoImplicit false

namespace ServiceSchema.Command

/-- What a run finds around it. -/
structure Surroundings where
  /-- The name under which the program is called. -/
  program : String
  /-- The home directory of the user. -/
  home : File.Path
  environment : Settings.Variables := []
  stamp : Log.Stamp
  /-- The classes that can be named. -/
  classes : Universe := {}
  /-- The seconds that a generation takes, as the log shows them. -/
  elapsed : String
  /-- What reads the files. -/
  reader : Yaml.Reader := Yaml.load
  /-- Whether there is room for the text of a value: neither the depth of values nor the length of
  texts is without bounds. -/
  hasRoom : Schema.Format → Int → Json → Bool := fun _ _ _ => true
deriving Inhabited

/-- What a run has done so far. -/
structure Transcript where
  tree : File.Tree := {}
  journal : Log.Journal := {}
  /-- The document output. -/
  output : String := ""
  /-- What the user is shown, line by line. -/
  shown : List String := []
deriving Inhabited

/-- A run, or a part of one. -/
abbrev Run := ReaderT Surroundings (ExceptT Stop (StateM Transcript))

namespace Run

/-- The files. -/
def files : Run File.Tree := return (← get).tree

/-- Shows lines to the user. -/
def tell (lines : List String) : Run Unit :=
  modify fun t => { t with shown := t.shown ++ lines }

/-- Records an event, and shows it where the log goes to the console. -/
def record (e : Log.Event) : Run Unit :=
  modify fun t =>
    { t with journal := t.journal.write e, shown := t.shown ++ t.journal.consoleLines e }

/-- Records events, oldest first. -/
def recordAll (events : List Log.Event) : Run Unit := events.forM record

/-- A computation that reports events, as part of a run. -/
def ofTraced {α : Type} (x : Log.Traced Stop α) : Run α := do
  recordAll x.events
  match x.outcome with
  | .ok a => return a
  | .error stop => throw stop

/-- Writes document output. -/
def emit (text : String) : Run Unit :=
  modify fun t => { t with output := t.output ++ text }

/-- The bytes of a text, unless it holds a surrogate. -/
def encoded (text : String) : Except Schema.OutputFault ByteArray :=
  if Text.isEncodable text then .ok (Text.encode text) else .error .surrogate

/-- A step that the output may make impossible. -/
def orOutputFault {α : Type} : Except Schema.OutputFault α → Run α
  | .ok a => return a
  | .error f => throw (.fault (.output f))

/-- Writes a file, and the directories that it lies in. The file is made before its text is
encoded. -/
def writeFile (path : File.Path) (text : String) : Run Unit := do
  match (← files).makeDirectory path.parent with
  | .error f => throw (.fault (.file f))
  | .ok tree =>
    modify fun t => { t with tree }
    match tree.write path ((encoded text).toOption.getD .empty) with
    | .error f => throw (.fault (.file f))
    | .ok tree =>
      modify fun t => { t with tree }
      let _ ← orOutputFault (encoded text)

/-- Writes a document to a file, or to the document output if none is given. -/
def deliver (path : Option File.Path) (text : String) : Run Unit :=
  match path with
  | none => do
    let _ ← orOutputFault (encoded text)
    emit text
  | some path => do
    writeFile path text
    tell (Terminal.Status.good.lines ("Wrote " ++ path.text))

/-- Starts the log. -/
def startLog (request : Log.Journal.Request) : Run Unit := do
  let t ← get
  let started := t.journal.start t.tree (← read).stamp request
  set { t with tree := started.tree, journal := started.journal
               shown := t.shown ++ started.events.flatMap started.journal.consoleLines }
  match started.fault with
  | some f => throw (.fault (.log f))
  | none => return ()

end Run

end ServiceSchema.Command

/-
Generation on the command line.

Everything that can fail is prepared first, and preparing reports events and does
nothing else: a run that fails has written no document. Then the documents are
written, and the end of the generation is reported.
-/
import ServiceSchema.Class.Assembly
import ServiceSchema.Command.Arguments
import ServiceSchema.Command.Run
import ServiceSchema.Log.Report
import ServiceSchema.Settings.Basic

set_option autoImplicit false

namespace ServiceSchema.Command

open Schema (Definitions MethodDocument)

/-- The source of the events of the command line. -/
def commandSource : String := "schemadoc.cli"

/-- The source of the events of the generation. -/
def generationSource : String := "schemadoc.json_schema"

/-! ## Specifications -/

/-- The specification in a file. -/
def loadFile (tree : File.Tree) (path : File.Path) (reader : Yaml.Reader := Yaml.load) :
    Except Stop Specification :=
  (Specification.ofFile tree path.text reader).mapError .ofLoad

/-- The service that a text names the class of. -/
def namedService (u : Universe) (verb : Verb) (text : String) : Log.Traced Stop Service :=
  match u.target text with
  | .error e => .fail (.ofTarget verb e)
  | .ok id => (u.service (.cls id) none).mapError fun e => .fault (.classes e)

/-- The specification of the services that texts name the classes of. -/
def classSpecification (u : Universe) (verb : Verb) (targets : List String) :
    Log.Traced Stop Specification := do
  let services ← targets.mapM (namedService u verb)
  (u.specification services none []).mapError fun e => .fault (.classes e)

/-- The specification that arguments ask for, and where it comes from. -/
def specificationOf (u : Universe) (tree : File.Tree) (verb : Verb) (a : Arguments)
    (reader : Yaml.Reader := Yaml.load) : Log.Traced Stop (Specification × String) :=
  match a.file, a.targets with
  | some _, _ :: _ => .fail (.misuse (some verb) .twoSources)
  | none, [] => .fail (.misuse (some verb) .noSource)
  | some path, [] => do return (← .ofExcept (loadFile tree path reader), path.text)
  | none, targets => do
    return (← classSpecification u verb targets, String.intercalate ", " targets)

/-! ## Documents -/

/-- The documents that are ready to be written. -/
structure Prepared where
  /-- Where the specification comes from. -/
  source : String
  documents : List (MethodDocument Definitions)

/-- The documents of the methods that are wanted, by name or by identifier; all if none is named. -/
def wanted (methods : List String) (documents : List (MethodDocument Definitions)) :
    List (MethodDocument Definitions) :=
  if methods.isEmpty then documents
  else documents.filter fun d => methods.contains d.title || methods.contains d.id

/-- The report on the end of a generation that failed. -/
def failedEvents (source : String) : List Log.Event :=
  Log.reportEvents commandSource (Log.GenerationEnd.messages { source, success := false })

/-- The documents of a specification, with the strict checks or without them. -/
def documentsOf (spec : Specification) (source : String) (strict : Bool) :
    Log.Traced Stop (List (MethodDocument Definitions)) :=
  match if strict then Schema.generateStrict spec else .ok (Schema.generate spec) with
  | .error e => ⟨failedEvents source, .error (.failure (.references e))⟩
  | .ok documents => do
    .report Log.debug generationSource
      ("Generated " ++ Nat.repr documents.length ++ " method schema(s) with "
        ++ Nat.repr (Schema.definitions spec).size ++ " definition(s)")
    return documents

/-- The event that shows a document. -/
def documentEvent (d : MethodDocument Definitions) : Log.Event :=
  Log.schemaEvent commandSource d.id
    ((d.toJson Schema.Definitions.toJson).render (.ofIndent 0)) Log.schemaLimit

/-- Prepares the documents that arguments ask for. -/
def prepare (u : Universe) (tree : File.Tree) (settings : Settings) (a : Arguments)
    (reader : Yaml.Reader := Yaml.load) : Log.Traced Stop Prepared := do
  let (spec, source) ← specificationOf u tree .generate a reader
  .reportAll (Log.reportEvents commandSource (Log.GenerationStart.messages
    ⟨source, spec.services.length, spec.structs.length, spec.enums.length⟩))
  let all ← documentsOf spec source (a.strict.getD settings.strictReferences)
  let documents := wanted a.methods all
  -- a method that nobody has is no fault as long as another one is found
  if !a.methods.isEmpty && documents.isEmpty then .fail (.failure (.noMatch a.methods))
  .reportAll (documents.map documentEvent)
  return { source, documents }

/-! ## Verbs -/

/-- The text of a value in the layout that is asked for. -/
def layout (around : Surroundings) (settings : Settings) (a : Arguments) (value : Json) :
    Except Schema.OutputFault String :=
  let format := a.format.getD settings.outputFormat
  let indent := a.indent.getD settings.jsonIndent
  if !format.allows indent then .error .indent
  else if around.hasRoom format indent value then .ok (format.write indent value)
  else .error .limits

/-- Writes one document per method. -/
def generate (settings : Settings) (a : Arguments) : Run Unit := do
  let around ← read
  -- nothing is written before this line
  let ready ← Run.ofTraced (prepare around.classes (← Run.files) settings a around.reader)
  let text ← Run.orOutputFault
    (layout around settings a (Schema.documentsJson ready.documents))
  Run.deliver a.output text
  let count := ready.documents.length
  Run.recordAll (Log.reportEvents commandSource (Log.GenerationEnd.messages
    { source := ready.source, success := true, schemas := some count
      output := some ((a.output.map (·.text)).getD "stdout"), duration := some around.elapsed }))
  Run.tell (Terminal.Status.neutral.lines
    (Nat.repr count ++ " method schema(s) from " ++ ready.source))

/-- Writes the table of definitions. -/
def writeDefinitions (settings : Settings) (a : Arguments) : Run Unit := do
  let around ← read
  let spec ← Run.ofTraced (.ofExcept (loadFile (← Run.files) (a.file.getD {}) around.reader))
  Run.deliver a.output
    (← Run.orOutputFault (layout around settings a (Schema.definitions spec).toJson))

end ServiceSchema.Command

/-
Inspection on the command line.

One verb shows what a specification consists of and whether its references and names
are sound; the other shows the settings. Neither writes a document.
-/
import ServiceSchema.Command.Generate

set_option autoImplicit false

namespace ServiceSchema.Command

/-- A truth value as tables show it. -/
def truthText (b : Bool) : String := if b then "True" else "False"

/-! ## Specifications -/

/-- What a specification consists of. -/
def countLines (spec : Specification) : List String :=
  Terminal.pairTable
    [("Services", Nat.repr spec.services.length), ("Methods", Nat.repr spec.methods.length),
     ("Structs", Nat.repr spec.structs.length), ("Enums", Nat.repr spec.enums.length),
     ("Exceptions", Nat.repr spec.exceptions.length)]

/-- The references that lead nowhere. -/
def unresolvedLines (references : List UnresolvedReference) : List String :=
  if references.isEmpty then []
  else Terminal.columnTable ["Owner", "Field", "Target"]
    (references.map fun r => [r.owner, r.field, r.kind.word ++ " " ++ r.target])

/-- The names that are defined twice. -/
def duplicateLines (names : List String) : List String :=
  names.flatMap fun name => Terminal.Status.doubtful.lines ("Duplicate definition name: " ++ name)

/-- Whether references and names are sound. -/
def verdictLines (unresolved duplicates : Nat) : List String :=
  if unresolved = 0 ∧ duplicates = 0 then Terminal.Status.good.lines "All references resolve"
  else Terminal.Status.bad.lines
    (Nat.repr unresolved ++ " unresolved reference(s), " ++ Nat.repr duplicates
      ++ " duplicate name(s)")

/-- Checks the references and names of a specification. -/
def validate (a : Arguments) : Run Unit := do
  let around ← read
  let spec ← Run.ofTraced (.ofExcept (loadFile (← Run.files) (a.file.getD {}) around.reader))
  Run.tell (Terminal.sectionLines (some "01") "Specification" ++ countLines spec)
  let unresolved := spec.unresolvedReferences
  let duplicates := spec.duplicateNames
  Run.tell (Terminal.sectionLines (some "02") "References" ++ unresolvedLines unresolved
    ++ duplicateLines duplicates ++ verdictLines unresolved.length duplicates.length)
  if !unresolved.isEmpty || !duplicates.isEmpty then throw (.exit 1)

/-! ## Settings -/

/-- Shows the settings. -/
def showSettings (settings : Settings) : Run Unit := do
  let logFile := ((← get).journal.file.map (·.text)).getD "-"
  Run.tell (Terminal.sectionLines none "Configuration" ++ Terminal.pairTable
    [("output_format", settings.outputFormat.word), ("json_indent", Nat.repr settings.jsonIndent),
     ("strict_references", truthText settings.strictReferences), ("log_level", settings.logLevel),
     ("home_dir", settings.homeDirectory.text), ("log_file", logFile)])

end ServiceSchema.Command

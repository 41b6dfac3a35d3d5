/-
How a run ends before its end.

A misuse of the command line, a failure that can be expected and a fault that cannot
are told apart: the first two are explained to the user, the last one is not. A run
may also end with a code of its own.
-/
import ServiceSchema.Class.Target
import ServiceSchema.Command.Misuse
import ServiceSchema.Document.File
import ServiceSchema.Log.Journal
import ServiceSchema.Schema.Output
import ServiceSchema.Spec.References
import ServiceSchema.Annotation.Signature
import ServiceSchema.Class.Hints

set_option autoImplicit false

namespace ServiceSchema.Command

/-- A failure that a user can expect. -/
inductive Failure where
  /-- The file holds no specification. -/
  | unreadable (error : FileLoadError)
  /-- The classes cannot be found. -/
  | target (error : TargetError)
  /-- The references of the specification are defective. -/
  | references (error : ReferenceError)
  /-- No method has one of these names. -/
  | noMatch (methods : List String)
deriving DecidableEq, Inhabited, Repr

/-- The wording of a failure. -/
def Failure.message : Failure → String
  | unreadable (.text error) => error.report
  | unreadable error => error.message
  | target error => error.message
  | references error => error.message
  | noMatch methods => "No method matches " ++ String.intercalate ", " methods

/-- A fault that no user can expect. -/
inductive Fault where
  /-- The settings are faulty. -/
  | settings (details : List Validation.Detail)
  /-- The log cannot start. -/
  | log (fault : Log.Journal.Fault)
  /-- The file holds no text, or a scalar without a value. -/
  | content (error : FileLoadError)
  /-- The classes do not describe services. -/
  | classes (error : ClassError)
  /-- The name of a module is not complete. -/
  | relativeModule (error : TargetError)
  /-- The file cannot be written. -/
  | file (fault : File.Fault)
  /-- The documents cannot be put out. -/
  | output (fault : Schema.OutputFault)
deriving Inhabited

/-- The wording of a fault. -/
def Fault.message : Fault → String
  | settings details =>
    "Invalid settings: " ++ String.intercalate "; " (details.map Validation.Detail.text)
  | log (.directory fault) => fault.message
  | log (.level error) => error.message
  | content .notUnicode => "The file holds no text"
  | content (.text (.scalar _)) => "A scalar has no value of its type"
  | content error => error.message
  | classes error => error.message
  | relativeModule error => error.message
  | file fault => fault.message
  | output fault => fault.message

/-- Why a run ends before its end. -/
inductive Stop where
  /-- The command line makes no sense to the program, or to a verb. -/
  | misuse (verb : Option Verb) (misuse : Misuse)
  | failure (failure : Failure)
  | fault (fault : Fault)
  /-- Everything is said; the run ends with a code. -/
  | exit (code : Nat)
deriving Inhabited

namespace Stop

/-- The exit code of a run. -/
def code : Stop → Nat
  | misuse _ _ => 2
  | failure _ | fault _ => 1
  | exit code => code

/-- What the user is told. -/
def lines (program : String) : Stop → List String
  | misuse verb m =>
    (if m.showsUsage then usageLines program verb else []) ++ ["Error: " ++ m.message]
  | failure f => ["Error: " ++ f.message]
  | fault _ | exit _ => []

/-- The end of a run whose file cannot be loaded. Undecodable text and scalars without a value are
faults; everything else is a failure. -/
def ofLoad : FileLoadError → Stop
  | .text (.scalar f) => fault (.content (.text (.scalar f)))
  | .text error => failure (.unreadable (.text error))
  | .unreadable name f => failure (.unreadable (.unreadable name f))
  | .nulInPath => fault (.content .nulInPath)
  | .notUnicode => fault (.content .notUnicode)

/-- The end of a run whose classes cannot be found. -/
def ofTarget (verb : Verb) : TargetError → Stop
  | .malformed text =>
    misuse (some verb) (.badValue "--from-class" (.notTarget text))
  | .relative module => fault (.relativeModule (.relative module))
  | error => failure (.target error)

end Stop

end ServiceSchema.Command

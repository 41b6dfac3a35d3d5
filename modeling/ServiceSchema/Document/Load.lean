/-
Loading a specification from text.

Loading has four steps: the text is read as YAML, of which JSON is a part; its
value has to be a mapping; the mapping is checked and becomes a document; the
document is converted. Each step fails for reasons of its own. A scalar without a
value is the one fault that is not counted as a fault of the document. What reads
the text can be any reader; it is that of YAML unless another one is given.
-/
import ServiceSchema.Document.Conversion
import ServiceSchema.Document.Reader

set_option autoImplicit false

namespace ServiceSchema

/-- Why a text is no specification. -/
inductive LoadError where
  /-- The text is not well formed. -/
  | malformed (rule : Yaml.Malformation)
  /-- The document is something else than a mapping. -/
  | notMapping (typeName : String)
  /-- The document does not have the form of a specification. -/
  | invalid (details : List Validation.Detail)
  /-- The specification that the document describes cannot be built. -/
  | conversion (error : Document.ConversionError)
  /-- A scalar has no value of its type. -/
  | scalar (fault : Yaml.ScalarFault)
deriving DecidableEq, Inhabited, Repr

/-- The wording of a load error. Details of a malformed text and of single faults are left to the
reports that need them. -/
def LoadError.message : LoadError → String
  | malformed _ => "Invalid YAML/JSON"
  | notMapping typeName => "Specification document must be a mapping, got " ++ typeName
  | invalid _ => "Invalid specification document"
  | conversion error => error.message
  | scalar (.invalid message) | scalar (.overflow message) => message
  | scalar _ => ""

/-- Where a fault is and what it is. -/
def Validation.Detail.text (d : Validation.Detail) : String :=
  let step : Validation.Step → String
    | .key name => name
    | .index position => Nat.repr position
  String.intercalate "." (d.path.map step) ++ ": " ++ d.problem.message

/-- The wording of a load error with all its details, on one line. -/
def LoadError.report (e : LoadError) : String :=
  match e with
  | malformed rule => e.message ++ ": " ++ rule.reason
  | invalid details =>
    e.message ++ ": " ++ String.intercalate "; " (details.map Validation.Detail.text)
  | e => e.message

/-- The document that a text holds. An empty text is an empty document. -/
def Document.ofText (text : String) (reader : Yaml.Reader := Yaml.load) :
    Except LoadError Document :=
  match reader text with
  | .error (.malformed rule) => .error (.malformed rule)
  | .error (.scalar fault) => .error (.scalar fault)
  | .ok value =>
    let entries : Except LoadError Document.Entries := match value with
      | .null => .ok []
      | .mapping entries => .ok entries
      | value => .error (.notMapping value.typeName)
    match entries with
    | .error e => .error e
    | .ok entries => match Document.readEntries entries with
      | .valid document => .ok document
      | .invalid details => .error (.invalid details)

/-- The specification that a text describes. -/
def Specification.ofText (text : String) (reader : Yaml.Reader := Yaml.load) :
    Except LoadError Specification := do
  let document ← Document.ofText text reader
  document.convert.mapError .conversion

end ServiceSchema

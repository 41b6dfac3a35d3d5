/-
The text forms of generated documents.

Documents are written as JSON or as YAML. JSON text ends with a line break and has
the layout that an indent asks for; YAML text has a single layout. JSON text holds
surrogates as they are, so it may be no text that can be put out; in YAML text they
are escaped.
-/
import ServiceSchema.Json.Printer
import ServiceSchema.Schema.Generate
import ServiceSchema.Schema.Json
import ServiceSchema.Yaml.Printer

set_option autoImplicit false

namespace ServiceSchema.Schema

/-- The formats in which documents are written. -/
inductive Format where
  | json
  | yaml
deriving DecidableEq, Inhabited, Repr

namespace Format

/-- The word for a format. -/
def word : Format → String
  | json => "json"
  | yaml => "yaml"

/-- All formats. -/
def all : List Format := [json, yaml]

/-- The format that a word names. -/
def ofWord? (s : String) : Option Format := all.find? (·.word == s)

/-- The text of a value; the indent concerns JSON alone. -/
def write (format : Format) (indent : Int) (value : Json) : String :=
  match format with
  | json => value.render (.ofIndent indent) ++ "\n"
  | yaml => Yaml.render value

/-- One more than the largest number that lengths of texts are counted by. -/
def lengthLimit : Int := 9223372036854775808

/-- Whether an indent is a number that lengths of texts are counted by. -/
def allows (format : Format) (indent : Int) : Bool :=
  match format with
  | json => -lengthLimit ≤ indent && indent < lengthLimit
  | yaml => true

end Format

/-- Why a value cannot be put out. -/
inductive OutputFault where
  /-- Its text holds a surrogate. -/
  | surrogate
  /-- The indent is no number that lengths are counted by. -/
  | indent
  /-- It is nested too deeply, or its text is too long. -/
  | limits
deriving DecidableEq, Inhabited, Repr

/-- The wording of a fault. -/
def OutputFault.message : OutputFault → String
  | surrogate => "surrogates not allowed"
  | indent => "cannot fit 'int' into an index-sized integer"
  | limits => "maximum recursion depth exceeded"

/-- What can be asked for. -/
inductive Product where
  /-- The table of definitions. -/
  | definitions
  /-- One document per method. -/
  | documents
deriving DecidableEq, Inhabited, Repr

/-- A product as JSON. -/
def Product.json (product : Product) (spec : Option Specification) (strict : Bool) :
    Except GenerationError Json := do
  match product with
  | definitions => return (← requestDefinitions spec).toJson
  | documents => return documentsJson (← requestDocuments spec strict)

end ServiceSchema.Schema

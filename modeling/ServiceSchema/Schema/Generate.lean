/-
Generation of schema documents from a specification.

The definitions are one flat pass over the structs and then the enums; a later
definition of a name replaces an earlier one in place. A method document describes
the parameters that travel in the body: query, header and path parameters belong
to the transport.
-/
import ServiceSchema.Schema.Basic
import ServiceSchema.Spec.References

set_option autoImplicit false

namespace ServiceSchema.Schema

/-- The fragment of a signature. -/
def Fragment.ofSignature : Signature → Fragment
  | .struct name _ | .enum name _ => .ref name
  | .iterable _ element => .array (ofSignature element)
  | .map _ _ value => .values (ofSignature value)
  | s => .primitive (Schema.primitive s)

/-- The property of a field. -/
def Property.ofField (field : Field) : Property := ⟨field.description, .ofSignature field.type⟩

/-- The properties of fields; of two fields with one name the later one counts. -/
def properties (fields : List Field) : Table Property :=
  .ofList (fields.map fun field => (field.name, .ofField field))

/-- The names of the fields that have to be given. -/
def requiredNames (fields : List Field) : List String :=
  (fields.filter (·.isRequired)).map (·.name)

/-- The definition of a struct. -/
def Entry.ofStruct (s : Struct) : Entry :=
  match s.union with
  | some u =>
    .union s.name s.description (u.subtypes.map (·.name)) u.discriminator.property
  | none => .record s.name s.description (properties s.fields) (requiredNames s.fields)

/-- The definition of an enum. -/
def Entry.ofEnumeration (e : Enumeration) : Entry :=
  .enumeration e.name e.description (e.values.map (·.name))

/-- The definitions of a specification: its structs, then its enums. -/
def definitions (spec : Specification) : Definitions :=
  .ofList (spec.structs.map (fun s => (s.name, Entry.ofStruct s))
    ++ spec.enums.map fun e => (e.name, Entry.ofEnumeration e))

/-- The parameters of a method that travel in the body. -/
def bodyParameters (m : Method) : List Field := m.parameters.filter (·.location.inBody)

/-- The document of one method with the given definitions. -/
def methodDocument {δ : Type} (m : Method) (definitions : δ) : MethodDocument δ where
  id := m.id
  title := m.name
  description := m.description
  properties := properties (bodyParameters m)
  required := requiredNames (bodyParameters m)
  definitions := definitions

/-- One document per method, in the order of the specification. -/
def generate (spec : Specification) : List (MethodDocument Definitions) :=
  spec.methods.map fun m => methodDocument m (definitions spec)

/-- One document per method, unless a reference or a name is defective. -/
def generateStrict (spec : Specification) :
    Except ReferenceError (List (MethodDocument Definitions)) := do
  spec.validate
  return generate spec

/-! ## Requests

What a caller asks for may come without a specification, which is the first thing
that is checked. -/

/-- Why a request yields no documents. -/
inductive GenerationError where
  /-- There is no specification. -/
  | missing
  /-- The references of the specification are defective. -/
  | references (error : ReferenceError)
deriving DecidableEq, Inhabited, Repr

/-- The wording of a generation error. -/
def GenerationError.message : GenerationError → String
  | missing => "specification must not be None"
  | references error => error.message

/-- The specification of a request. -/
def given : Option Specification → Except GenerationError Specification
  | none => .error .missing
  | some spec => .ok spec

/-- The definitions that a request asks for. -/
def requestDefinitions (spec : Option Specification) : Except GenerationError Definitions := do
  return definitions (← given spec)

/-- The documents that a request asks for, with the strict checks or without them. -/
def requestDocuments (spec : Option Specification) (strict : Bool) :
    Except GenerationError (List (MethodDocument Definitions)) := do
  let spec ← given spec
  if strict then (generateStrict spec).mapError .references else return generate spec

end ServiceSchema.Schema

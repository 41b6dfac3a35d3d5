/-
From a document to a specification.

A type text refers to the structs, exceptions and enums that the document declares
under any of its keys; structs and exceptions win over enums. Conversion goes
through the services first, then enums, structs and exceptions, and stops at the
first thing that cannot be built.
-/
import ServiceSchema.Document.Basic
import ServiceSchema.TypeText.Parser

set_option autoImplicit false

namespace ServiceSchema.Document

/-- Why a document cannot be converted. -/
inductive ConversionError where
  /-- A text is no type. -/
  | type (text : String) (error : TypeText.ParseError)
  /-- A part of the specification cannot be built. -/
  | model (error : ModelError)
deriving DecidableEq, Inhabited, Repr

/-- The wording of a conversion error. -/
def ConversionError.message : ConversionError → String
  | type text error => error.message text
  | model error => error.message

/-- A check of the model as a step of conversion. -/
def ofModel {α : Type} (x : Except ModelError α) : Except ConversionError α := x.mapError .model

/-- The signature of a type text. -/
def readType (names : TypeText.Names) (text : String) : Except ConversionError Signature :=
  (TypeText.parse names text).mapError (.type text)

/-- The field that an entry describes. -/
def FieldEntry.convert (names : TypeText.Names) (entry : FieldEntry) :
    Except ConversionError Field := do
  let type ← readType names entry.type
  ofModel (Field.make? entry.name (some type) (.ofBool entry.required) entry.location
    (entry.description.getD ""))

/-- The signature of a subtype, which is a struct by its name. -/
def readSubtype (name : String) : Except ConversionError Signature :=
  ofModel ((Signature.make? .struct name []).mapError .signature)

/-- The struct that an entry describes. -/
def StructEntry.convert (names : TypeText.Names) (entry : StructEntry) :
    Except ConversionError Struct := do
  let fields ← entry.fields.mapM (·.convert names)
  let subtypes ← entry.oneOf.mapM readSubtype
  let discriminator ← match entry.discriminator with
    | none => pure none
    | some property =>
      if property = "" then pure none else ofModel (some <$> Discriminator.make? property)
  ofModel (Struct.make? entry.name fields (entry.description.getD "") subtypes discriminator none)

/-- The enum that an entry describes. -/
def EnumEntry.convert (entry : EnumEntry) : Except ConversionError Enumeration :=
  ofModel (Enumeration.make? entry.name (entry.values.map fun name => { name })
    (entry.description.getD ""))

/-- The endpoint that an entry describes. -/
def EndpointEntry.convert (entry : EndpointEntry) : Endpoint :=
  ⟨entry.host, entry.path, entry.mimeTypes⟩

/-- The method of a service that an entry describes. -/
def MethodEntry.convert (names : TypeText.Names) (service : String) (entry : MethodEntry) :
    Except ConversionError Method := do
  let returnType ← readType names entry.returnType
  let parameters ← entry.parameters.mapM (·.convert names)
  ofModel (Method.make? service entry.name (some returnType) parameters entry.overload
    (entry.endpoints.map EndpointEntry.convert) entry.httpMethod (entry.description.getD ""))

/-- The service that an entry describes. -/
def ServiceEntry.convert (names : TypeText.Names) (entry : ServiceEntry) :
    Except ConversionError Service := do
  let methods ← entry.methods.mapM (·.convert names entry.name)
  return ⟨entry.name, methods, entry.description.getD ""⟩

/-- The names that the type texts of a document may refer to. -/
def names (d : Document) : TypeText.Names where
  structs := d.structs.map (·.name) ++ d.exceptions.map (·.name)
  enums := d.enums.map (·.name)

/-- The specification that a document describes. -/
def convert (d : Document) : Except ConversionError Specification := do
  let services ← d.services.mapM (·.convert d.names)
  let enums ← d.enums.mapM EnumEntry.convert
  let structs ← d.structs.mapM (·.convert d.names)
  let exceptions ← d.exceptions.mapM (·.convert d.names)
  return { services, enums, structs, exceptions }

end ServiceSchema.Document

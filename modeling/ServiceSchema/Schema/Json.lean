/-
Schema documents as JSON.

Keys come in a fixed order: the description of a fragment before what it
describes; type, title and description of a definition before its body. Optional
parts that are empty are left out, except the description, the properties and the
definitions of a method document, which are always there.
-/
import ServiceSchema.Json.Basic
import ServiceSchema.Schema.Basic

set_option autoImplicit false

namespace ServiceSchema.Schema

/-- What precedes the name in a reference to a definition. -/
def referenceStart : String := "#/definitions/"

/-- The reference to a definition. -/
def reference (target : String) : String × Json := ("$ref", .text (referenceStart ++ target))

/-- The entry under `key`, unless it is an empty text. -/
def textUnlessEmpty (key value : String) : List (String × Json) :=
  if value = "" then [] else [(key, .text value)]

/-- The entries of a fragment. -/
def Fragment.entries : Fragment → List (String × Json)
  | ref target => [reference target]
  | primitive type => [("type", .text type.word)]
  | array items => [("type", .text Primitive.array.word), ("items", .object items.entries)]
  | values of =>
    [("type", .text Primitive.object.word), ("additionalProperties", .object of.entries)]

/-- A property as JSON. -/
def Property.toJson (p : Property) : Json :=
  .object (textUnlessEmpty "description" p.description ++ p.fragment.entries)

/-- Properties as JSON. -/
def propertiesJson (properties : Table Property) : Json := .ofTable (properties.map Property.toJson)

/-- The list of required names, unless there are none. -/
def requiredEntry (required : List String) : List (String × Json) :=
  if required.isEmpty then [] else [("required", .texts required)]

/-- The entries that every definition starts with. -/
def headEntries (type : Primitive) (title description : String) : List (String × Json) :=
  [("type", .text type.word), ("title", .text title)] ++ textUnlessEmpty "description" description

/-- A definition as JSON. -/
def Entry.toJson : Entry → Json
  | record title description properties required =>
    .object (headEntries .object title description
      ++ (if properties.entries.isEmpty then [] else [("properties", propertiesJson properties)])
      ++ requiredEntry required)
  | union title description subtypes property =>
    .object (headEntries .object title description
      ++ [("oneOf", .list (subtypes.map fun s => .object [reference s])),
          ("discriminator", .object [("propertyName", .text property)])])
  | enumeration title description values =>
    .object (headEntries .string title description ++ [("enum", .texts values)])

/-- The table of definitions as JSON. -/
def Definitions.toJson (d : Definitions) : Json := .ofTable (d.map Entry.toJson)

/-- A method document as JSON, given how its definitions are written. -/
def MethodDocument.toJson {δ : Type} (definitionsJson : δ → Json) (d : MethodDocument δ) : Json :=
  .object ([("$id", .text d.id), ("title", .text d.title), ("description", .text d.description),
      ("type", .text Primitive.object.word), ("properties", propertiesJson d.properties)]
    ++ requiredEntry d.required ++ [("definitions", definitionsJson d.definitions)])

/-- The documents of all methods as JSON. -/
def documentsJson (documents : List (MethodDocument Definitions)) : Json :=
  .list (documents.map (MethodDocument.toJson Definitions.toJson))

end ServiceSchema.Schema

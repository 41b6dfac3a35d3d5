/-
Schema documents.

A fragment describes one field: a reference to a definition, a primitive, an array
of a fragment or an object whose values are described by a fragment. Structs and
enums are never inlined; they are defined once in a table, and every fragment that
means one refers to it by name, which keeps recursive types finite. A document
describes the parameters of one method and carries the table along.
-/
import ServiceSchema.Json.Table
import ServiceSchema.Spec.Basic

set_option autoImplicit false

namespace ServiceSchema.Schema

/-! ## Primitives -/

/-- The primitive types of JSON Schema that a signature can map to. -/
inductive Primitive where
  | string
  | boolean
  | number
  | integer
  | array
  | object
deriving DecidableEq, Inhabited, Repr

/-- The word for a primitive. -/
def Primitive.word : Primitive → String
  | string => "string"
  | boolean => "boolean"
  | number => "number"
  | integer => "integer"
  | array => "array"
  | object => "object"

/-- Base types that are booleans. -/
def booleanNames : List String := ["boolean", "bool"]

/-- Base types that are numbers. -/
def numberNames : List String := ["short", "number", "float", "double"]

/-- Base types that are integers. -/
def integerNames : List String :=
  ["i", "i8", "i16", "i32", "i64", "integer", "int", "l32", "l64", "long", "long32", "long64",
   "int32", "int64", "uint32", "uint64", "sint32", "sint64", "fixed32", "fixed64", "sfixed32",
   "sfixed64"]

/-- Base types that are strings. -/
def stringNames : List String := ["binary", "byte", "bytes", "string"]

/-- Iterables that are arrays. -/
def arrayNames : List String := ["repeated", "list", "array", "set"]

/-- The primitive of a base type; names that are not known are objects. -/
def basePrimitive (name : String) : Primitive :=
  let name := Text.lowerAscii name
  if name ∈ booleanNames then .boolean
  else if name ∈ numberNames then .number
  else if name ∈ integerNames then .integer
  else if name ∈ stringNames then .string
  else .object

/-- The primitive that a signature maps to. -/
def primitive : Signature → Primitive
  | .enum .. => .string
  | .iterable name _ => if Text.lowerAscii name ∈ arrayNames then .array else .object
  | .base name => basePrimitive name
  | _ => .object

/-! ## Documents -/

/-- What a field's values look like. -/
inductive Fragment where
  /-- The definition of this name. -/
  | ref (target : String)
  /-- A primitive. -/
  | primitive (type : Primitive)
  /-- An array of items that all look alike. -/
  | array (items : Fragment)
  /-- An object whose values all look alike. -/
  | values (of : Fragment)
deriving DecidableEq, Inhabited, Repr

/-- A fragment with the description of its field. -/
structure Property where
  description : String := ""
  fragment : Fragment
deriving DecidableEq, Inhabited, Repr

/-- The definition of a struct or enum. -/
inductive Entry where
  /-- A struct with its fields, and the names of those that have to be given. -/
  | record (title description : String) (properties : Table Property) (required : List String)
  /-- A polymorphic struct: the names of its subtypes and the property that selects one. -/
  | union (title description : String) (subtypes : List String) (property : String)
  /-- An enum with the names of its values. -/
  | enumeration (title description : String) (values : List String)
deriving Inhabited

/-- The document of one method, with a table of definitions of type `δ`. -/
structure MethodDocument (δ : Type) where
  id : String
  title : String
  description : String
  properties : Table Property
  required : List String
  definitions : δ

/-- The shared table of definitions. -/
abbrev Definitions := Table Entry

end ServiceSchema.Schema

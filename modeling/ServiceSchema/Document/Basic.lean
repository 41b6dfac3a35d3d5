/-
Specification documents.

A document describes services and types in a form that people write: types are
texts, descriptions may be missing, and the subtypes of a struct are listed by
name. It is checked for its form when it is read; what its texts mean is decided
when it is converted into a specification.
-/
import ServiceSchema.Spec.Basic

set_option autoImplicit false

namespace ServiceSchema

namespace Document

/-- A struct field or method parameter. -/
structure FieldEntry where
  name : String
  type : String
  required : Bool := false
  location : Location := .unspecified
  description : Option String := none
deriving DecidableEq, Inhabited, Repr

/-- A struct or exception. -/
structure StructEntry where
  name : String
  description : Option String := none
  fields : List FieldEntry := []
  oneOf : List String := []
  discriminator : Option String := none
deriving DecidableEq, Inhabited, Repr

/-- An enum. -/
structure EnumEntry where
  name : String
  description : Option String := none
  values : List String
deriving DecidableEq, Inhabited, Repr

/-- An address of a method. -/
structure EndpointEntry where
  path : String
  host : String := "*"
  mimeTypes : List String := ["application/json"]
deriving DecidableEq, Inhabited, Repr

/-- A method. -/
structure MethodEntry where
  name : String
  description : Option String := none
  httpMethod : String := "POST"
  returnType : String := "void"
  overload : Nat := 0
  parameters : List FieldEntry := []
  endpoints : List EndpointEntry := []
deriving DecidableEq, Inhabited, Repr

/-- A service. -/
structure ServiceEntry where
  name : String
  description : Option String := none
  methods : List MethodEntry := []
deriving DecidableEq, Inhabited, Repr

/-- Whether subtypes and discriminator are given together. -/
def StructEntry.isConsistent (s : StructEntry) : Bool :=
  s.oneOf.isEmpty == (s.discriminator.getD "").isEmpty

end Document

/-- A specification document. -/
structure Document where
  services : List Document.ServiceEntry := []
  structs : List Document.StructEntry := []
  enums : List Document.EnumEntry := []
  exceptions : List Document.StructEntry := []
deriving DecidableEq, Inhabited, Repr

end ServiceSchema

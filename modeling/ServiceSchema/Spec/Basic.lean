/-
The service specification: services with their methods, and the structs, enums and
exceptions that the methods refer to.

Each part has one constructor function, which makes the checks that the part
needs and names the first that fails. What the checks establish once and for all is
part of the types: a polymorphic struct has subtypes and a discriminator with a
name, and an overload number is a natural number.
-/
import ServiceSchema.Spec.Error
import ServiceSchema.Text.Case

set_option autoImplicit false

namespace ServiceSchema

/-! ## Fields -/

/-- Whether a field has to be given. -/
inductive Requirement where
  | required
  | optional
deriving DecidableEq, Inhabited, Repr

/-- The word for a requirement. -/
def Requirement.word : Requirement → String
  | required => "required"
  | optional => "optional"

/-- The requirement that a word names. -/
def Requirement.ofWord? (s : String) : Except ModelError Requirement :=
  if s = "required" then .ok .required
  else if s = "optional" then .ok .optional
  else .error (.unknownRequirement s)

/-- The requirement of a field that has to be given exactly if `b` holds. -/
def Requirement.ofBool (b : Bool) : Requirement := if b then .required else .optional

/-- Where a parameter travels in a request. -/
inductive Location where
  | body
  | query
  | header
  | path
  | unspecified
deriving DecidableEq, Inhabited, Repr

namespace Location

/-- The word for a location. -/
def word : Location → String
  | body => "body"
  | query => "query"
  | header => "header"
  | path => "path"
  | unspecified => "unspecified"

/-- All locations. -/
def all : List Location := [body, query, header, path, unspecified]

/-- The location that a word names. -/
def find? (s : String) : Option Location := all.find? (·.word == s)

/-- The location that a word names, or why it names none. -/
def ofWord? (s : String) : Except ModelError Location :=
  match find? s with
  | some location => .ok location
  | none => .error (.unknownLocation s)

/-- The locations that make up the request body. -/
def inBody : Location → Bool
  | body | unspecified => true
  | _ => false

end Location

/-- A named, typed member of a struct or a method parameter. -/
structure Field where
  name : String
  type : Signature
  requirement : Requirement := .optional
  location : Location := .unspecified
  description : String := ""
deriving DecidableEq, Inhabited, Repr

/-- A field; the name is checked before the presence of a type. -/
def Field.make? (name : String) (type : Option Signature) (requirement : Requirement)
    (location : Location) (description : String) : Except ModelError Field :=
  if name = "" then .error .emptyFieldName
  else match type with
    | none => .error (.missingFieldType name)
    | some type => .ok ⟨name, type, requirement, location, description⟩

/-- A field that has to be given. -/
def Field.isRequired (field : Field) : Bool := field.requirement == .required

/-! ## Structs and enums -/

/-- The property whose value selects the subtype of a polymorphic struct. -/
structure Discriminator where
  property : String
  property_ne_empty : property ≠ ""
deriving DecidableEq, Repr

/-- A discriminator; its property has to have a name. -/
def Discriminator.make? (property : String) : Except ModelError Discriminator :=
  if h : property = "" then .error .emptyDiscriminator else .ok ⟨property, h⟩

/-- The subtypes of a polymorphic struct and what tells them apart. -/
structure Union where
  subtypes : List Signature
  discriminator : Discriminator
  subtypes_ne_nil : subtypes ≠ []
deriving DecidableEq, Repr

/-- A record type, or a discriminated union over other structs. The fields of a union only
document the shared shape. -/
structure Struct where
  name : String
  fields : List Field := []
  description : String := ""
  union : Option Union := none
  secondName : Option String := none
deriving DecidableEq, Inhabited, Repr

namespace Struct

/-- A struct. Subtypes and discriminator have to be given together; the name is checked
first. -/
def make? (name : String) (fields : List Field) (description : String)
    (subtypes : List Signature) (discriminator : Option Discriminator) (secondName : Option String) :
    Except ModelError Struct :=
  if name = "" then .error .emptyStructName
  else if h : subtypes = [] then
    match discriminator with
    | none => .ok { name, fields, description, secondName }
    | some _ => .error (.missingSubtypes name)
  else match discriminator with
    | none => .error (.missingDiscriminator name)
    | some discriminator =>
      .ok { name, fields, description, secondName, union := some ⟨subtypes, discriminator, h⟩ }

/-- The subtypes of a struct, none unless it is polymorphic. -/
def oneOf (s : Struct) : List Signature :=
  match s.union with
  | some union => union.subtypes
  | none => []

/-- The name of the property that selects the subtype. -/
def discriminator (s : Struct) : Option String := s.union.map (·.discriminator.property)

/-- A struct with subtypes. -/
def isPolymorphic (s : Struct) : Bool := s.union.isSome

/-- A struct is polymorphic exactly if it has subtypes. -/
theorem isPolymorphic_iff (s : Struct) : s.isPolymorphic = true ↔ s.oneOf ≠ [] := by
  unfold isPolymorphic oneOf
  cases s.union with
  | none => simp
  | some union => simpa using union.subtypes_ne_nil

end Struct

/-- A value of an enum. -/
structure EnumValue where
  name : String
  intValue : Option Int := none
  description : String := ""
deriving DecidableEq, Inhabited, Repr

/-- A type whose values are listed by name. -/
structure Enumeration where
  name : String
  values : List EnumValue := []
  description : String := ""
deriving DecidableEq, Inhabited, Repr

/-- An enum; it has to have a name. -/
def Enumeration.make? (name : String) (values : List EnumValue) (description : String) :
    Except ModelError Enumeration :=
  if name = "" then .error .emptyEnumName else .ok { name, values, description }

/-- What a name can be defined as. -/
inductive Definition where
  | struct (definition : Struct)
  | enum (definition : Enumeration)
deriving DecidableEq, Inhabited, Repr

/-- The name that is defined. -/
def Definition.name : Definition → String
  | struct definition => definition.name
  | enum definition => definition.name

/-! ## Methods and services -/

/-- An address at which a method can be reached. -/
structure Endpoint where
  host : String := "*"
  path : String := "/"
  mimeTypes : List String := ["application/json"]
deriving DecidableEq, Inhabited, Repr

/-- One operation of a service. -/
structure Method where
  service : String
  name : String
  returnType : Option Signature
  parameters : List Field := []
  overload : Nat := 0
  endpoints : List Endpoint := []
  httpMethod : String := "POST"
  description : String := ""
deriving DecidableEq, Inhabited, Repr

namespace Method

/-- A method. It has to have a name and an overload number that is not negative, in this
order; the HTTP method is raised to upper case. -/
def make? (service name : String) (returnType : Option Signature) (parameters : List Field)
    (overload : Int) (endpoints : List Endpoint) (httpMethod description : String) :
    Except ModelError Method :=
  if name = "" then .error .emptyMethodName
  else if overload < 0 then .error (.negativeOverload overload)
  else .ok
    { service, name, returnType, parameters, overload := overload.toNat, endpoints, description,
      httpMethod := Text.upper httpMethod }

/-- The name with the number of the overload, except for overload 0. -/
def overloadName (m : Method) : String :=
  if m.overload = 0 then m.name else m.name ++ "-" ++ Nat.repr m.overload

/-- The stable identifier, such as `Zoo/add-1/POST`. -/
def id (m : Method) : String := m.service ++ "/" ++ m.overloadName ++ "/" ++ m.httpMethod

end Method

/-- A named list of methods. -/
structure Service where
  name : String
  methods : List Method := []
  description : String := ""
deriving DecidableEq, Inhabited, Repr

/-- Everything that schema documents are generated from. -/
structure Specification where
  services : List Service := []
  enums : List Enumeration := []
  structs : List Struct := []
  exceptions : List Struct := []
deriving DecidableEq, Inhabited, Repr

namespace Specification

/-- The first struct of a name. -/
def findStruct? (spec : Specification) (name : String) : Option Struct :=
  spec.structs.find? (·.name == name)

/-- The first enum of a name. -/
def findEnum? (spec : Specification) (name : String) : Option Enumeration :=
  spec.enums.find? (·.name == name)

/-- Every method, services in order and the methods of each in order. -/
def methods (spec : Specification) : List Method := spec.services.flatMap (·.methods)

end Specification

end ServiceSchema

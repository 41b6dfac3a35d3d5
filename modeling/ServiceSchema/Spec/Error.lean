/-
Why a part of a specification cannot be built.

Each check of the model has a constructor that says what is wrong; the wording is
in one place, `ModelError.message`.
-/
import ServiceSchema.Number.Decimal
import ServiceSchema.Signature.Basic

set_option autoImplicit false

namespace ServiceSchema

/-- Why a part of a specification cannot be built. -/
inductive ModelError where
  | signature (error : SignatureError)
  | unknownRequirement (word : String)
  | unknownLocation (word : String)
  | emptyFieldName
  | missingFieldType (field : String)
  | emptyDiscriminator
  | emptyStructName
  | missingDiscriminator (struct : String)
  | missingSubtypes (struct : String)
  | emptyEnumName
  | emptyMethodName
  | negativeOverload (overload : Int)
deriving DecidableEq, Inhabited, Repr

/-- The wording of a model error. -/
def ModelError.message : ModelError → String
  | signature error => error.message
  | unknownRequirement word => Text.quoted word ++ " is not a valid FieldRequirement"
  | unknownLocation word => Text.quoted word ++ " is not a valid FieldLocation"
  | emptyFieldName => "FieldInfo name must not be empty."
  | missingFieldType field => "Field " ++ Text.quoted field ++ " has no type signature."
  | emptyDiscriminator => "Discriminator property name must not be empty."
  | emptyStructName => "StructInfo name must not be empty."
  | missingDiscriminator struct =>
    "Polymorphic struct " ++ Text.quoted struct ++ " needs a discriminator."
  | missingSubtypes struct =>
    "Struct " ++ Text.quoted struct ++ " has a discriminator but no subtypes."
  | emptyEnumName => "EnumInfo name must not be empty."
  | emptyMethodName => "MethodInfo name must not be empty."
  | negativeOverload overload =>
    "overload_id must be >= 0, got " ++ Number.integerText overload

end ServiceSchema

/-
What the constructors of a specification accept, and what they make of it.

Each constructor makes its checks in order. When all are passed, the value has what the
constructor was given and nothing else; when one fails, the error says which. The lemmas
here are the only place where the checks are gone through.
-/
import ServiceSchema.Spec.Basic

set_option autoImplicit false

namespace ServiceSchema

theorem Signature.make?_struct_eq_ok {name : String} {s : Signature} :
    make? .struct name [] = .ok s ↔ name ≠ "" ∧ s = .struct name none := by
  unfold make?
  split
  · next hempty => simp [hempty]
  · next hname => simp [hname, eq_comm]

theorem Signature.make?_struct_eq_error {name : String} {error : SignatureError} :
    make? .struct name [] = .error error ↔ name = "" ∧ error = .emptyName := by
  unfold make?
  split
  · next hempty => simp [hempty, eq_comm]
  · next hname => simp [hname]

section Fields

variable {name description : String} {type : Signature} {requirement : Requirement}
  {location : Location}

theorem Field.make?_eq_ok {f : Field} :
    make? name (some type) requirement location description = .ok f ↔
      name ≠ "" ∧ f = ⟨name, type, requirement, location, description⟩ := by
  unfold make?
  split
  · next hempty => simp [hempty]
  · next hname => simp [hname, eq_comm]

theorem Field.make?_eq_error {error : ModelError} :
    make? name (some type) requirement location description = .error error ↔
      name = "" ∧ error = .emptyFieldName := by
  unfold make?
  split
  · next hempty => simp [hempty, eq_comm]
  · next hname => simp [hname]

end Fields

section Structs

variable {name description : String} {fields : List Field} {subtypes : List Signature}
  {discriminator : Option Discriminator} {second : Option String}

theorem Struct.make?_eq_ok {struct : Struct}
    (h : make? name fields description subtypes discriminator second = .ok struct) :
    name ≠ "" ∧ struct.name = name ∧ struct.fields = fields ∧ struct.description = description ∧
      struct.oneOf = subtypes ∧ struct.discriminator = discriminator.map (·.property) ∧
      struct.secondName = second := by
  unfold make? at h
  split at h
  · cases h
  next hname =>
  split at h
  · next hnil =>
    cases discriminator with
    | none =>
      cases h
      exact ⟨hname, rfl, rfl, rfl, hnil.symm, rfl, rfl⟩
    | some discriminator => cases h
  · cases discriminator with
    | none => cases h
    | some discriminator =>
      cases h
      exact ⟨hname, rfl, rfl, rfl, rfl, rfl, rfl⟩

/-- A struct is refused when it has no name, or one of subtypes and discriminator without the
other. -/
theorem Struct.make?_eq_error {error : ModelError}
    (h : make? name fields description subtypes discriminator second = .error error) :
    name = "" ∧ error = .emptyStructName ∨ ¬ (subtypes = [] ↔ discriminator = none) := by
  unfold make? at h
  split at h
  · next hempty =>
    cases h
    exact .inl ⟨hempty, rfl⟩
  · right
    by_cases hnil : subtypes = []
    · cases discriminator with
      | none => simp [hnil] at h
      | some discriminator => simp [hnil]
    · cases discriminator with
      | none => simp [hnil]
      | some discriminator => simp [hnil] at h

end Structs

section Enumerations

variable {name description : String} {values : List EnumValue}

theorem Enumeration.make?_eq_ok {e : Enumeration} :
    make? name values description = .ok e ↔ name ≠ "" ∧ e = ⟨name, values, description⟩ := by
  unfold make?
  split
  · next hempty => simp [hempty]
  · next hname => simp [hname, eq_comm]

theorem Enumeration.make?_eq_error {error : ModelError} :
    make? name values description = .error error ↔ name = "" ∧ error = .emptyEnumName := by
  unfold make?
  split
  · next hempty => simp [hempty, eq_comm]
  · next hname => simp [hname]

end Enumerations

section Methods

variable {service name httpMethod description : String} {returnType : Option Signature}
  {parameters : List Field} {overload : Int} {endpoints : List Endpoint}

theorem Method.make?_eq_ok {m : Method} :
    make? service name returnType parameters overload endpoints httpMethod description = .ok m ↔
      name ≠ "" ∧ 0 ≤ overload ∧
      m = { service, name, returnType, parameters, overload := overload.toNat, endpoints,
            httpMethod := Text.upper httpMethod, description } := by
  unfold make?
  split
  · next hempty => simp [hempty]
  next hname =>
  split
  · next hnegative => simp [Int.not_le.2 hnegative]
  · next hnatural => simp [hname, Int.not_lt.1 hnatural, eq_comm]

/-- A method is refused when it has no name or its overload number is negative. -/
theorem Method.make?_eq_error {error : ModelError}
    (h : make? service name returnType parameters overload endpoints httpMethod description
      = .error error) : name = "" ∧ error = .emptyMethodName ∨ overload < 0 := by
  unfold make? at h
  split at h
  · next hempty =>
    cases h
    exact .inl ⟨hempty, rfl⟩
  split at h
  · next hnegative => exact .inr hnegative
  · cases h

end Methods

end ServiceSchema

/-
Referential checks of a specification.

Generation is lenient: a reference to a struct or enum that is not defined is
emitted as it stands. The checks here list such references, and the names that
are defined more than once. A reference to a name that is defined as the other
kind counts as unresolved.
-/
import ServiceSchema.Spec.Basic

set_option autoImplicit false

namespace ServiceSchema

/-- A reference without a matching definition. -/
structure UnresolvedReference where
  /-- The struct, exception or method that refers. -/
  owner : String
  /-- The field or parameter, or the position among the subtypes. -/
  field : String
  /-- The name that is referred to. -/
  target : String
  /-- What the reference takes the target for. -/
  kind : Kind
deriving DecidableEq, Inhabited, Repr

/-- The reference as reports show it. -/
def UnresolvedReference.text (r : UnresolvedReference) : String :=
  r.owner ++ "." ++ r.field ++ " -> " ++ r.kind.word ++ " " ++ Text.quoted r.target

/-- The defects that forbid strict generation. -/
structure ReferenceError where
  unresolved : List UnresolvedReference
  duplicates : List String
deriving DecidableEq, Inhabited, Repr

/-- The wording of the defects: the unresolved references, then the duplicate names. -/
def ReferenceError.message (e : ReferenceError) : String :=
  let unresolved :=
    if e.unresolved.isEmpty then []
    else ["unresolved references: "
      ++ String.intercalate "; " (e.unresolved.map UnresolvedReference.text)]
  let duplicates :=
    if e.duplicates.isEmpty then []
    else ["duplicate definition names: " ++ String.intercalate ", " e.duplicates]
  String.intercalate " | " (unresolved ++ duplicates)

namespace Specification

/-- What a name is defined as; a struct wins over an enum of the same name. -/
def kindOf? (spec : Specification) (name : String) : Option Kind :=
  if spec.structs.any (·.name == name) then some .struct
  else if spec.enums.any (·.name == name) then some .enum
  else none

/-- The unresolved references in the fields of one owner. -/
def unresolvedIn (spec : Specification) (owner : String) (fields : List Field) :
    List UnresolvedReference :=
  fields.flatMap fun field =>
    (field.type.references.filter fun s => spec.kindOf? s.name != some s.kind).map fun s =>
      ⟨owner, field.name, s.name, s.kind⟩

/-- The unresolved subtypes of a struct; a subtype has to be a struct. -/
def unresolvedSubtypes (spec : Specification) (struct : Struct) : List UnresolvedReference :=
  (struct.oneOf.zipIdx.filter fun (s, _) => spec.kindOf? s.name != some .struct).map
    fun (s, index) => ⟨struct.name, "oneOf[" ++ Nat.repr index ++ "]", s.name, s.kind⟩

/-- Every reference whose target is missing: those of the structs, each followed by its
subtypes, then those of the exceptions, then those of the method parameters. -/
def unresolvedReferences (spec : Specification) : List UnresolvedReference :=
  spec.structs.flatMap (fun s => spec.unresolvedIn s.name s.fields ++ spec.unresolvedSubtypes s)
    ++ spec.exceptions.flatMap (fun s => spec.unresolvedIn s.name s.fields)
    ++ spec.methods.flatMap fun m => spec.unresolvedIn m.id m.parameters

/-- The names of all structs, then of all enums. -/
def definedNames (spec : Specification) : List String :=
  spec.structs.map (·.name) ++ spec.enums.map (·.name)

/-- The names that are defined more than once, each once, in the order of their first
definition. -/
def duplicateNames (spec : Specification) : List String :=
  let names := spec.definedNames
  names.eraseDups.filter fun name => 1 < names.count name

/-- Nothing, or the defects of a specification that has any. -/
def validate (spec : Specification) : Except ReferenceError Unit :=
  let error : ReferenceError := ⟨spec.unresolvedReferences, spec.duplicateNames⟩
  if error.unresolved.isEmpty && error.duplicates.isEmpty then .ok () else .error error

end Specification

end ServiceSchema

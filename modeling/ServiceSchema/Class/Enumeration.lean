/-
Members of enumerations.

An enumeration lists names with values. A mixed-in class converts the values. A
name whose value equals that of an earlier name is another name for the same
member and is not listed.
-/
import ServiceSchema.Class.Universe
import ServiceSchema.Number.Numeral

set_option autoImplicit false

namespace ServiceSchema

/-- The value that a mixed-in class makes of a value. -/
def mixedValue (mixin : Option StandardClass) (value : Json) : Json :=
  if mixin = some (.builtin "int") then
    match value with
    | .bool b => .int (if b then 1 else 0)
    | .real x => (x.toInt?.map Json.int).getD (.real x)
    | .text s => ((Number.wholeNumber 10 s).toOption.map Json.int).getD (.text s)
    | v => v
  else if mixin = some (.builtin "str") then .text value.display
  else value

/-- The members of an enumeration: the first name of every value. -/
def enumerationMembers (mixin : Option StandardClass) (values : List (String × Json)) :
    List (String × Json) :=
  (values.map fun (name, value) => (name, mixedValue mixin value)).foldl
    (fun kept member => if kept.any (·.2.equal member.2) then kept else kept ++ [member]) []

/-- The members of a class, none unless it is an enumeration. -/
def Universe.members (u : Universe) (id : ClassId) : List (String × Json) :=
  match u.declaration? id with
  | some { kind := .enumeration mixin values, .. } => enumerationMembers mixin values
  | _ => []

/-- The member that a name of an enumeration means: itself, or the first one of the same value. -/
def Universe.memberOf? (u : Universe) (id : ClassId) (name : String) : Option Annotation :=
  match u.declaration? id with
  | some { kind := .enumeration mixin values, .. } => do
    let value := mixedValue mixin (← values.lookup name)
    let member ← (enumerationMembers mixin values).find? (·.2.equal value)
    return .member id member.1
  | _ => none

/-- The whole number that a value is; truth values are none. -/
def intValue? : Json → Option Int
  | .int n => some n
  | _ => none

end ServiceSchema

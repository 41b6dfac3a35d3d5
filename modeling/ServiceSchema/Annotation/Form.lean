/-
Building annotations.

Where a type is expected, the value that stands for nothing means its class and a
text means a reference by name. Unions take in the members of the unions that they
are built from, drop members that are equal to an earlier one, and vanish when a
single member is left. Metadata of metadata is one list, inner metadata first.
-/
import ServiceSchema.Annotation.Basic

set_option autoImplicit false

namespace ServiceSchema

/-- Why an expression denotes no type. -/
inductive AnnotationFault where
  /-- A name means nothing. -/
  | undefinedName (name : String)
  /-- An operation does not apply, for the reason given. -/
  | notType (reason : String)
  /-- The text is no expression. -/
  | notExpression
  /-- Something has no attribute of that name. -/
  | noAttribute
  /-- There is no text. -/
  | emptyText
deriving DecidableEq, Inhabited, Repr

namespace Annotation

/-- The annotation that `a` means where a type is expected. -/
def asType : Annotation → Annotation
  | none => noneClass
  | text s => forward s Option.none
  | a => a

/-- The members that an annotation adds to a union. -/
def members : Annotation → List Annotation
  | union ms | joined ms => ms
  | a => [a]

/-- The list without the annotations that are equal to an earlier one. -/
def dropRepeats (as : List Annotation) : List Annotation :=
  as.foldl (fun kept a => if kept.any (same a) then kept else kept ++ [a]) []

/-- The union of annotations: the only member, if one is left. -/
def collapse (form : List Annotation → Annotation) (as : List Annotation) : Annotation :=
  match dropRepeats (as.flatMap members) with
  | [a] => a
  | ms => form ms

/-- The union of types. -/
def unionOf (as : List Annotation) : Annotation := collapse union (as.map asType)

/-- A type or nothing. -/
def optionalOf (a : Annotation) : Annotation := unionOf [a, none]

/-- Whether bars can join an annotation to another one of this kind. -/
def isJoinable : Annotation → Bool
  | none | cls _ | applied (.cls (.standard _)) _ | joined _ => true
  | _ => false

/-- Whether bars turn an annotation and anything that is a type into a union. -/
def isTyping : Annotation → Bool
  | generic _ | form _ | applied _ _ | union _ | annotated _ _ | literal _ | typeVariable _
  | derived _ | forward _ _ => true
  | _ => false

/-- The class name that messages about operands show. -/
def operandClass : Annotation → String
  | none => "NoneType"
  | cls _ => "type"
  | text _ => "str"
  | ellipsis => "ellipsis"
  | value v => v.standardClass.name
  | function _ => "builtin_function_or_method"
  | applied (.cls (.standard _)) _ => "types.GenericAlias"
  | joined _ => "types.UnionType"
  | _ => "object"

/-- Two annotations joined by a bar. Two values that stand for nothing have no union. -/
def join? (a b : Annotation) : Except AnnotationFault Annotation :=
  let failure : Except AnnotationFault Annotation :=
    .error (.notType ("unsupported operand type(s) for |: " ++ Text.quoted a.operandClass ++ " and "
      ++ Text.quoted b.operandClass))
  if a.isJoinable && b.isJoinable then
    match a, b with
    -- neither operand is a type here, so nothing gives the bar a meaning
    | none, none => failure
    | a, b => .ok (collapse joined [a.asType, b.asType])
  else if (a.isTyping && !a.isJoinable) || (b.isTyping && !b.isJoinable) then .ok (unionOf [a, b])
  else failure

/-- Annotations joined by bars, from the left. -/
def joinAll? : List Annotation → Except AnnotationFault Annotation
  | [] => .error (.notType "")
  | a :: rest => rest.foldlM join? a

/-- A type with metadata. -/
def annotate (type : Annotation) (metadata : List Marker) : Annotation :=
  match type.asType with
  | annotated inner ms => annotated inner (ms ++ metadata)
  | type => annotated type metadata

/-- The literal type of the given values, each listed once. -/
def literalOf (values : List LiteralValue) : Annotation :=
  literal (values.foldl (fun kept v => if kept.any v.same then kept else kept ++ [v]) [])

/-- An annotation applied to type arguments. Standard classes keep their arguments as they are;
everything else takes types. -/
def applyTo? (head : Annotation) (arguments : List Annotation) : Except AnnotationFault Annotation :=
  match head with
  | cls (.standard c) =>
    if c.isGeneric then .ok (applied (.cls (.standard c)) arguments)
    else .error (.notType ("type " ++ Text.quoted c.name ++ " is not subscriptable"))
  | cls id => .ok (applied (.cls id) (arguments.map asType))
  | generic a => .ok (applied (.generic a) (arguments.map asType))
  | form .union => .ok (unionOf arguments)
  | form .optional => .ok (unionOf (arguments ++ [none]))
  | form f => .ok (applied (.form f) (arguments.map asType))
  | a => .error (.notType (Text.quoted a.operandClass ++ " object is not subscriptable"))

end Annotation

end ServiceSchema

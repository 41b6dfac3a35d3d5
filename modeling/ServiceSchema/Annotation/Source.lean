/-
Annotations as text.

Source text is what a program would write for an annotation. A class stands for
itself among type arguments and in full detail elsewhere. Beside the source text
stands the name under which a type appears in a signature that does not resolve it.
-/
import ServiceSchema.Annotation.Form
import ServiceSchema.Class.Enumeration

set_option autoImplicit false

namespace ServiceSchema

/-- Metadata as source text. -/
def Marker.source : Marker → String
  | text s => Text.quoted s
  | location l => locationSource l
  | param l description =>
    "Param(location=" ++ locationSource l ++ ", description=" ++ Text.quoted description ++ ")"
where
  /-- A location as source text. -/
  locationSource (l : Location) : String :=
    "<FieldLocation." ++ Text.upper l.word ++ ": " ++ Text.quoted l.word ++ ">"

namespace Universe

/-- A member of an enumeration as source text. -/
def memberSource (u : Universe) (enumeration : ClassId) (name : String) : String :=
  "<" ++ u.shortName enumeration ++ "." ++ name ++ ": "
    ++ (((u.members enumeration).lookup name).getD .null).source ++ ">"

/-- A literal value as source text. -/
def literalSource (u : Universe) : LiteralValue → String
  | .plain value => value.source
  | .member enumeration name => u.memberSource enumeration name

/-- What type arguments are given to, as source text. -/
def headSource (u : Universe) : TypeHead → String
  | .cls id => u.fullName id
  | .generic a => "typing." ++ a.name
  | .form f => "typing." ++ f.word

/-- Whether type arguments describe a function. -/
def isCallable : TypeHead → Bool
  | .generic a => a.name == "Callable"
  | .cls id => id == .standard (.abstract "Callable")
  | .form _ => false

/-- The type arguments of a function: its parameters between brackets of their own. -/
def callableArguments (arguments : List String) : List String :=
  match arguments with
  | ["...", result] => ["...", result]
  | [] => []
  | arguments =>
    ["[" ++ String.intercalate ", " arguments.dropLast ++ "]", arguments.getLastD ""]

end Universe

namespace Annotation

/-- A class as a member of a union that is written with bars. -/
def barSource (a : Annotation) (source : String) : String :=
  if a.isNoneClass then "None" else source

mutual

/-- An annotation as source text. -/
def source (u : Universe) : Annotation → String
  | none => "None"
  | cls id =>
    if id == .standard .any then "typing.Any" else "<class " ++ Text.quoted (u.fullName id) ++ ">"
  | generic a => "typing." ++ a.name
  | form f => "typing." ++ f.word
  | applied head arguments =>
    let arguments := argumentSources u arguments
    let arguments := if Universe.isCallable head then Universe.callableArguments arguments
      else arguments
    u.headSource head ++ "["
      ++ (if arguments.isEmpty then "()" else String.intercalate ", " arguments) ++ "]"
  | union [a, b] =>
    if b.isNoneClass then "typing.Optional[" ++ argumentSource u a ++ "]"
    else if a.isNoneClass then "typing.Optional[" ++ argumentSource u b ++ "]"
    else "typing.Union[" ++ argumentSource u a ++ ", " ++ argumentSource u b ++ "]"
  | union members => "typing.Union[" ++ String.intercalate ", " (argumentSources u members) ++ "]"
  | joined members => String.intercalate " | " (barSources u members)
  | annotated type metadata =>
    "typing.Annotated[" ++ argumentSource u type ++ ", "
      ++ String.intercalate ", " (metadata.map Marker.source) ++ "]"
  | literal values =>
    "typing.Literal[" ++ String.intercalate ", " (values.map u.literalSource) ++ "]"
  | typeVariable name => "~" ++ name
  | derived name => u.module ++ "." ++ name
  | forward s module =>
    "ForwardRef(" ++ Text.quoted s
      ++ (match module with
        | some m => ", module=" ++ Text.quoted m
        | Option.none => "") ++ ")"
  | text s => Text.quoted s
  | ellipsis => "Ellipsis"
  | member enumeration name => u.memberSource enumeration name
  | function name => "<built-in function " ++ name ++ ">"
  | value v => v.source

/-- An annotation as a type argument. -/
def argumentSource (u : Universe) : Annotation → String
  | cls id => u.fullName id
  | ellipsis => "..."
  | function name => name
  | a => source u a

/-- Annotations as type arguments. -/
def argumentSources (u : Universe) : List Annotation → List String
  | [] => []
  | a :: rest => argumentSource u a :: argumentSources u rest

/-- Annotations between bars. -/
def barSources (u : Universe) : List Annotation → List String
  | [] => []
  | a :: rest => barSource a (argumentSource u a) :: barSources u rest

end

/-- Annotations as the items of a tuple. -/
def tupleSource (u : Universe) (items : List Annotation) : String :=
  match items.map (source u) with
  | [item] => "(" ++ item ++ ",)"
  | items => "(" ++ String.intercalate ", " items ++ ")"

/-- The name of what type arguments are given to. -/
def headName (u : Universe) : TypeHead → String
  | .cls id => u.shortName id
  | .generic a => a.name
  | .form f => f.word

/-- The name under which an annotation that is not resolved appears. -/
def displayName (u : Universe) : Annotation → String
  | cls id => u.shortName id
  | generic a => a.name
  | form f => f.word
  | applied head _ => headName u head
  | union members =>
    if members.length = 2 && members.any isNoneClass then SpecialForm.optional.word
    else SpecialForm.union.word
  | typeVariable name | derived name | function name => name
  | text s => s
  | member enumeration name => u.shortName enumeration ++ "." ++ name
  | value v => v.display
  | a => a.source u

end Annotation

end ServiceSchema

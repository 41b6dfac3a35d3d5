/-
Annotations: what a program writes for the type of a field, parameter or result.

An annotation is a class, a generic alias or special form, one of these applied to
arguments, a union, a type with metadata, a list of literals, a type variable or
derived type, or a reference by name that is not evaluated yet. Programs may also
write plain values where a type belongs.

Unions occur in two forms, one for each way of writing them: a list of members
between brackets, and members joined by bars. Both hold at least two members,
none of which is a union or equal to another one, as long as they are built by
`Annotation.union` and `Annotation.join?`.
-/
import ServiceSchema.Annotation.Value
import ServiceSchema.Spec.Basic

set_option autoImplicit false

namespace ServiceSchema

/-- Metadata of a type. -/
inductive Marker where
  /-- Any text, which says nothing about a parameter. -/
  | text (text : String)
  /-- Where a parameter travels. -/
  | location (location : Location)
  /-- Where a parameter travels and what it means. -/
  | param (location : Location) (description : String)
deriving DecidableEq, Inhabited, Repr

/-- A value that a literal type lists. -/
inductive LiteralValue where
  | plain (value : Json)
  | member (enumeration : ClassId) (name : String)
deriving Inhabited

/-- The class of a literal value. -/
def LiteralValue.cls : LiteralValue → ClassId
  | plain value => .standard value.standardClass
  | member enumeration _ => enumeration

/-- Whether two literal values are equal and of one class. -/
def LiteralValue.same : LiteralValue → LiteralValue → Bool
  | plain x, plain y => x.standardClass == y.standardClass && x.equal y
  | member e n, member e' n' => e == e' && n == n'
  | _, _ => false

/-- What type arguments can be given to. -/
inductive TypeHead where
  | cls (id : ClassId)
  | generic (name : GenericAlias)
  | form (form : SpecialForm)
deriving DecidableEq, Inhabited, Repr

/-- What a program writes for a type. -/
inductive Annotation where
  /-- The value that stands for nothing. -/
  | none
  | cls (id : ClassId)
  | generic (name : GenericAlias)
  | form (form : SpecialForm)
  /-- A class, alias or form with type arguments. -/
  | applied (head : TypeHead) (arguments : List Annotation)
  /-- A union written as a list of members. -/
  | union (members : List Annotation)
  /-- A union written with bars. -/
  | joined (members : List Annotation)
  /-- A type with metadata. -/
  | annotated (type : Annotation) (metadata : List Marker)
  | literal (values : List LiteralValue)
  | typeVariable (name : String)
  /-- A type derived from another one under a new name. -/
  | derived (name : String)
  /-- A reference by name, together with the module that it is tied to. -/
  | forward (text : String) (module : Option String)
  /-- A text that has not become a reference yet. -/
  | text (text : String)
  /-- The three dots. -/
  | ellipsis
  /-- A member of an enumeration. -/
  | member (enumeration : ClassId) (name : String)
  | function (name : String)
  /-- A plain value that is neither nothing nor a text. -/
  | value (value : Json)
deriving Inhabited

namespace Annotation

/-- The class of the value that stands for nothing. -/
def noneClass : Annotation := cls (.standard .none)

/-- The class that stands for any type at all. -/
def any : Annotation := cls (.standard .any)

/-- A plain value as an annotation. -/
def ofValue : Json → Annotation
  | .null => none
  | .text s => text s
  | v => value v

/-- Whether an annotation is the class of the value that stands for nothing. -/
def isNoneClass : Annotation → Bool
  | cls id => id == .standard .none
  | _ => false

/-- Whether an annotation marks a class variable and says of which type. -/
def isTypedClassVariable : Annotation → Bool
  | applied (.form .classVar) _ => true
  | _ => false

/-- Whether an annotation marks a class variable. -/
def isClassVariable (a : Annotation) : Bool :=
  match a with
  | form .classVar => true
  | a => a.isTypedClassVariable

/-! ## Equality -/

mutual

/-- Whether two annotations are equal. Unions compare as sets, in either form. -/
def same : Annotation → Annotation → Bool
  | none, none => true
  | cls a, cls b => a == b
  | generic a, generic b => a == b
  | form a, form b => a == b
  | applied h xs, applied h' ys => h == h' && sameItems xs ys
  | union xs, union ys => subset xs ys && ys.all (occurs xs)
  | union xs, joined ys => subset xs ys && ys.all (occurs xs)
  | joined xs, union ys => subset xs ys && ys.all (occurs xs)
  | joined xs, joined ys => subset xs ys && ys.all (occurs xs)
  | annotated a ms, annotated b ns => same a b && ms == ns
  | literal xs, literal ys =>
    xs.all (fun x => ys.any x.same) && ys.all fun y => xs.any y.same
  | typeVariable a, typeVariable b => a == b
  | derived a, derived b => a == b
  | forward s m, forward t n => s == t && m == n
  | text s, text t => s == t
  | ellipsis, ellipsis => true
  | member e n, member e' n' => e == e' && n == n'
  | function f, function g => f == g
  | value x, value y => x.equal y
  | _, _ => false

/-- Whether two lists hold equal annotations in the same order. -/
def sameItems : List Annotation → List Annotation → Bool
  | [], [] => true
  | x :: xs, y :: ys => same x y && sameItems xs ys
  | _, _ => false

/-- Whether every annotation of the first list occurs in the second. -/
def subset : List Annotation → List Annotation → Bool
  | [], _ => true
  | x :: xs, ys => ys.any (fun y => same x y) && subset xs ys

/-- Whether an annotation occurs in a list. -/
def occurs : List Annotation → Annotation → Bool
  | [], _ => false
  | x :: xs, y => same x y || occurs xs y

end

end Annotation

end ServiceSchema

/-
Type signatures: the answer to "what type is this field".

A signature is a closed variant: a base type, a struct or an enum by name, a
container with its element or its key and value, or a name that could not be
classified. A struct or enum that was read off a class carries that class as its
descriptor, which is an aid to later resolution and no part of what the signature
says: `Signature.erase` forgets it, and two signatures are `same` when they agree
after erasure.

The number of parameters of each kind is built into the type. `Signature.make?`
is the one place where a kind meets a free list of parameters, and reports the
mismatch.
-/
import ServiceSchema.Class.Id
import ServiceSchema.Text.Quoted

set_option autoImplicit false

namespace ServiceSchema

/-- The kinds of type that a signature can describe. -/
inductive Kind where
  | base
  | struct
  | enum
  | iterable
  | map
  | unresolved
deriving DecidableEq, Inhabited, Repr

namespace Kind

/-- The word for a kind. -/
def word : Kind → String
  | base => "base"
  | struct => "struct"
  | enum => "enum"
  | iterable => "iterable"
  | map => "map"
  | unresolved => "unresolved"

/-- All kinds. -/
def all : List Kind := [base, struct, enum, iterable, map, unresolved]

/-- The kind that a word names. -/
def ofWord? (s : String) : Option Kind := all.find? (·.word == s)

/-- The number of parameters of a signature of this kind. -/
def arity : Kind → Nat
  | iterable => 1
  | map => 2
  | _ => 0

end Kind

/-- The signature of a field, parameter or return type. -/
inductive Signature where
  | base (name : String)
  | struct (name : String) (descriptor : Option ClassId)
  | enum (name : String) (descriptor : Option ClassId)
  | iterable (name : String) (element : Signature)
  | map (name : String) (key value : Signature)
  | unresolved (name : String)
deriving DecidableEq, Inhabited, Repr

/-- Why a signature cannot be built. -/
inductive SignatureError where
  /-- The word names no kind. -/
  | unknownKind (word : String)
  /-- The signature has no name. -/
  | emptyName
  /-- The kind takes another number of parameters. -/
  | arity (kind : Kind) (name : String) (given : Nat)
deriving DecidableEq, Inhabited, Repr

/-- The wording of a signature error. -/
def SignatureError.message : SignatureError → String
  | unknownKind word => Text.quoted word ++ " is not a valid TypeSignatureType"
  | emptyName => "TypeSignature name must not be empty."
  | arity kind name given =>
    kind.word ++ " signature " ++ Text.quoted name ++ " takes " ++ Nat.repr kind.arity
      ++ " type parameter(s), got " ++ Nat.repr given

/-- Why a signature has no such part. -/
inductive PartError where
  | notIterable (name : String)
  | notMap (name : String)
deriving DecidableEq, Inhabited, Repr

/-- The wording of a part error. -/
def PartError.message : PartError → String
  | notIterable name => Text.quoted name ++ " is not an iterable signature"
  | notMap name => Text.quoted name ++ " is not a map signature"

namespace Signature

/-- The name at the root of a signature. -/
def name : Signature → String
  | base name | struct name _ | enum name _ | iterable name _ | map name _ _ | unresolved name => name

/-- The kind at the root of a signature. -/
def kind : Signature → Kind
  | base _ => .base
  | struct .. => .struct
  | enum .. => .enum
  | iterable .. => .iterable
  | map .. => .map
  | unresolved _ => .unresolved

/-- The direct parameters of a signature. -/
def params : Signature → List Signature
  | iterable _ element => [element]
  | map _ key value => [key, value]
  | _ => []

/-- The class that a signature was read off. -/
def descriptor : Signature → Option ClassId
  | struct _ descriptor | enum _ descriptor => descriptor
  | _ => none

/-- A signature of the given kind, name and parameters. The name is checked before the number
of parameters. -/
def make? (kind : Kind) (name : String) (params : List Signature) :
    Except SignatureError Signature :=
  if name = "" then .error .emptyName
  else match kind, params with
    | .base, [] => .ok (base name)
    | .struct, [] => .ok (struct name none)
    | .enum, [] => .ok (enum name none)
    | .unresolved, [] => .ok (unresolved name)
    | .iterable, [element] => .ok (iterable name element)
    | .map, [key, value] => .ok (map name key value)
    | kind, params => .error (.arity kind name params.length)

/-- The list of a type. -/
def listOf (element : Signature) : Signature := iterable "list" element

/-- The set of a type. -/
def setOf (element : Signature) : Signature := iterable "set" element

/-- The map between two types. -/
def mapOf (key value : Signature) : Signature := map "map" key value

/-- A signature that points at a struct or enum definition. -/
def isNamed : Signature → Bool
  | struct .. | enum .. => true
  | _ => false

/-- The element type of an iterable. -/
def element? : Signature → Except PartError Signature
  | iterable _ element => .ok element
  | s => .error (.notIterable s.name)

/-- The key type of a map. -/
def key? : Signature → Except PartError Signature
  | map _ key _ => .ok key
  | s => .error (.notMap s.name)

/-- The value type of a map. -/
def value? : Signature → Except PartError Signature
  | map _ _ value => .ok value
  | s => .error (.notMap s.name)

/-- The human readable form, such as `map<string, list<int>>`. -/
def text : Signature → String
  | iterable name element => name ++ "<" ++ element.text ++ ">"
  | map name key value => name ++ "<" ++ key.text ++ ", " ++ value.text ++ ">"
  | s => s.name

/-- The signature without its descriptors. -/
def erase : Signature → Signature
  | struct name _ => struct name none
  | enum name _ => enum name none
  | iterable name element => iterable name element.erase
  | map name key value => map name key.erase value.erase
  | s => s

/-- Equality of signatures: descriptors do not count. -/
def same (a b : Signature) : Bool := a.erase = b.erase

/-- The signature and all its parameters at any depth, outermost first and left to right. -/
def nodes : Signature → List Signature
  | iterable name element => iterable name element :: element.nodes
  | map name key value => map name key value :: (key.nodes ++ value.nodes)
  | s => [s]

/-- The struct and enum nodes of a signature, left to right. -/
def references (s : Signature) : List Signature := s.nodes.filter isNamed

end Signature

end ServiceSchema

/-
From annotations to signatures.

A signature looks through metadata, and through a union with nothing that has one
other member. Builtin classes with a known counterpart become base types, the
classes of sequences, sets and mappings become containers, enumerations become
enums and all other classes become structs. What cannot be classified becomes an
unresolved signature under the name of the annotation. An annotation without a name
is the only one that has no signature.
-/
import ServiceSchema.Annotation.Source
import ServiceSchema.Signature.Basic

set_option autoImplicit false

namespace ServiceSchema

/-! ## Tables -/

/-- The base types of builtin classes. -/
def baseNames : List (StandardClass × String) :=
  [("bool", "boolean"), ("int", "int"), ("float", "double"), ("str", "string"),
   ("bytes", "binary"), ("bytearray", "binary"), ("NoneType", "void")].map
    fun (cls, name) => (.builtin cls, name)

/-- The kinds of container that classes of collections describe. -/
inductive ContainerKind where
  | list
  | set
  | map
deriving DecidableEq, Inhabited, Repr

/-- The classes that describe lists. -/
def listClasses : List StandardClass :=
  ["list", "tuple"].map .builtin
    ++ ["Sequence", "MutableSequence", "Iterable", "Collection"].map .abstract

/-- The classes that describe sets. -/
def setClasses : List StandardClass :=
  ["set", "frozenset"].map .builtin ++ ["Set", "MutableSet"].map .abstract

/-- The classes that describe maps. -/
def mapClasses : List StandardClass :=
  [.builtin "dict"] ++ ["Mapping", "MutableMapping"].map .abstract

/-- The container that a class describes. -/
def ContainerKind.ofClass? (cls : StandardClass) : Option ContainerKind :=
  if listClasses.contains cls then some list
  else if setClasses.contains cls then some set
  else if mapClasses.contains cls then some map
  else none

/-- The container that a head of type arguments describes. -/
def ContainerKind.ofHead? : TypeHead → Option ContainerKind
  | .cls (.standard c) => ofClass? c
  | .generic a => ofClass? a.origin
  | _ => none

/-- The signature of anything at all. -/
def Signature.anything : Signature := .unresolved "object"

/-- A container of anything. -/
def ContainerKind.ofAnything : ContainerKind → Signature
  | list => .listOf .anything
  | set => .setOf .anything
  | map => .mapOf (.base "string") .anything

/-! ## Signatures -/

namespace Universe

/-- The signature of a class. -/
def classSignature (u : Universe) (id : ClassId) : Except SignatureError Signature :=
  let name := u.fullName id
  match id with
  | .standard c =>
    if c = .any then .ok .anything
    else match baseNames.lookup c with
      | some base => .ok (.base base)
      | none => match ContainerKind.ofClass? c with
        | some kind => .ok kind.ofAnything
        | none =>
          if c.module == "builtins" then .ok (.base c.name)
          else if name = "" then .error .emptyName
          else .ok (.struct name (some id))
  | id =>
    if u.isEnumeration id then
      if name = "" then .error .emptyName else .ok (.enum name (some id))
    else if u.isBuiltin id then
      if u.shortName id = "" then .error .emptyName else .ok (.base (u.shortName id))
    else if name = "" then .error .emptyName
    else .ok (.struct name (some id))

/-- The signature of literal values: that of their class, if they have one class. -/
def literalSignature (u : Universe) (values : List LiteralValue) :
    Except SignatureError Signature :=
  match values with
  | [] => .ok (.unresolved "literal")
  | v :: rest =>
    -- values of several classes have no type in common
    if rest.all (·.cls == v.cls) then u.classSignature v.cls else .ok (.unresolved "literal")

end Universe

namespace Annotation

/-- The unresolved signature under the name of an annotation. -/
def unresolved (u : Universe) (a : Annotation) : Except SignatureError Signature :=
  Signature.make? .unresolved (a.displayName u) []

/-- The members of a union, and nothing for other annotations. -/
def unionMembers : Annotation → List Annotation
  | union ms | joined ms => ms
  | _ => []

/-- Whether an annotation is a union of which nothing is a member. -/
def isOptional (a : Annotation) : Bool := a.unionMembers.any isNoneClass

/-- The annotation without its metadata. -/
def strip : Annotation → Annotation
  | annotated type _ => strip type
  | a => a

/-- The annotation that signatures look at: without metadata, and the other member of a union of
something with nothing. -/
def unwrap (a : Annotation) : Annotation :=
  let a := a.strip
  match a.isOptional, a.unionMembers.filter (!·.isNoneClass) with
  | true, [m] => m.strip
  | _, _ => a

mutual

/-- The signature of an annotation; a union of something with nothing is looked `through` or not. -/
def signatureOf (u : Universe) (through : Bool) : Annotation → Except SignatureError Signature
  | annotated type _ => signatureOf u through type
  | union members =>
    if through && members.any isNoneClass && (members.filter (!·.isNoneClass)).length == 1 then
      otherSignature u members
    else unresolved u (union members)
  | joined members =>
    if through && members.any isNoneClass && (members.filter (!·.isNoneClass)).length == 1 then
      otherSignature u members
    else unresolved u (joined members)
  | none => .ok (.base "void")
  | cls id => u.classSignature id
  | generic a =>
    match ContainerKind.ofClass? a.origin with
    | some kind => .ok kind.ofAnything
    | Option.none => unresolved u (generic a)
  | applied head arguments =>
    match ContainerKind.ofHead? head with
    | some .list => elementSignature u arguments <&> .listOf
    | some .set => elementSignature u arguments <&> .setOf
    | some .map =>
      match argumentSignatures u arguments with
      | .ok [k, v] => .ok (.mapOf k v)
      | .ok _ => .ok ContainerKind.map.ofAnything
      -- with any other number of arguments none of them is looked at
      | .error e => if arguments.length = 2 then .error e else .ok ContainerKind.map.ofAnything
    | Option.none => unresolved u (applied head arguments)
  | literal values => u.literalSignature values
  | a => unresolved u a

/-- The signature of the first member of a union that is not nothing. -/
def otherSignature (u : Universe) : List Annotation → Except SignatureError Signature
  | [] => .ok .anything
  | a :: rest => if a.isNoneClass then otherSignature u rest else signatureOf u false a

/-- The signature of the first type argument. -/
def elementSignature (u : Universe) : List Annotation → Except SignatureError Signature
  | [] => .ok .anything
  | a :: _ => signatureOf u true a

/-- The signatures of all type arguments. -/
def argumentSignatures (u : Universe) :
    List Annotation → Except SignatureError (List Signature)
  | [] => .ok []
  | a :: rest => do
    let s ← signatureOf u true a
    return s :: (← argumentSignatures u rest)

end

/-- The signature of an annotation. -/
def toSignature (u : Universe) (a : Annotation) : Except SignatureError Signature :=
  signatureOf u true a

end Annotation

end ServiceSchema

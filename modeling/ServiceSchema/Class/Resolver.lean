/-
Resolving classes.

A resolver is asked about a class and answers with the struct or enum that describes
it, or lets another one try. Structural resolution describes enumerations by their
members and all other classes by their fields; builtin classes have no description.
Polymorphic resolution answers for the classes that are marked with a discriminating
property and with subtypes, and for no others. A chain asks its members in order until
one answers. Composing resolvers takes the members out of chains, so that what is
composed asks single rules only.
-/
import ServiceSchema.Class.Fields

set_option autoImplicit false

namespace ServiceSchema

/-! ## Descriptions of classes -/

namespace Universe

/-- The description of an enumeration; the one that every enumeration has says nothing. -/
def enumDescription (u : Universe) (id : ClassId) : String :=
  if u.describe id = "An enumeration." then "" else u.describe id

/-- A definition, or why it cannot be built. -/
def defined {α : Type} (wrap : α → Definition) :
    Except ModelError α → Reading (Option Definition)
  | .ok a => return some (wrap a)
  | .error e => .fail (.model e)

/-- The enum of an enumeration. -/
def enumOf (u : Universe) (id : ClassId) : Except ModelError Enumeration :=
  Enumeration.make? (u.fullName id)
    ((u.members id).map fun (name, value) => { name, intValue := intValue? value })
    (u.enumDescription id)

/-- What the members or fields of a class say about it. -/
def structural (u : Universe) (id : ClassId) : Reading (Option Definition) :=
  if u.isEnumeration id then defined .enum (u.enumOf id)
  else if u.isBuiltin id then return none
  else do
    let fields ← u.fields id
    defined .struct (Struct.make? (u.fullName id) fields (u.describe id) [] none none)

/-- The discriminating property and the subtypes of a class that is marked with both. -/
def polymorphism? (u : Universe) (id : ClassId) : Option (String × List (String × ClassId)) :=
  match u.declaration? id with
  | some { typeProperty := some property, subtypes := some subtypes, .. } =>
    if property = "" || subtypes.isEmpty then none else some (property, subtypes)
  | _ => none

/-- The signature of a subtype, which counts as a struct whatever its class is. -/
def subtypeSignature (u : Universe) (id : ClassId) : Except ModelError Signature :=
  if u.fullName id = "" then .error (.signature .emptyName)
  else .ok (.struct (u.fullName id) (some id))

/-- The union that the marks of a class describe. -/
def polymorphic (u : Universe) (id : ClassId) : Reading (Option Definition) :=
  match u.polymorphism? id with
  | none => return none
  | some (property, subtypes) =>
    match subtypes.mapM fun (_, id) => u.subtypeSignature id with
    | .error e => .fail (.model e)
    | .ok oneOf => do
      let fields ← u.fields id
      defined .struct do
        let discriminator ← Discriminator.make? property
        Struct.make? (u.fullName id) fields (u.describe id) oneOf (some discriminator) none

end Universe

/-! ## Rules -/

/-- What can be asked about a class: all that a chain knows of its rules. -/
class Resolving (ρ : Type) where
  /-- The name that reports show. -/
  name : ρ → String
  /-- The answer for a target, or none to let another rule try. -/
  resolve : Universe → Annotation → ρ → Reading (Option Definition)

/-- One way of resolving a class. -/
inductive ResolverRule where
  | structural
  | polymorphic
  /-- The same answer for every class. -/
  | fixed (answer : Option Definition)
deriving DecidableEq, Inhabited, Repr

namespace ResolverRule

/-- The name of a rule. -/
def name : ResolverRule → String
  | structural => "StructuralTypeInfoResolver"
  | polymorphic => "PolymorphismTypeInfoResolver"
  | fixed _ => "Fixed"

/-- The answer of a rule. Only a fixed answer is given to what is no class, and only it does not
mind if there is nothing to resolve. -/
def resolve (u : Universe) (target : Annotation) : ResolverRule → Reading (Option Definition)
  | fixed answer => return answer
  | rule =>
    match target with
    | .none => .fail .noDescriptor
    | .cls id => if rule = polymorphic then u.polymorphic id else u.structural id
    | _ => return none

end ResolverRule

instance : Resolving ResolverRule where
  name := ResolverRule.name
  resolve := ResolverRule.resolve

/-! ## Resolvers -/

/-- A single rule, or a chain of resolvers that are asked in order. -/
inductive ResolverOf (ρ : Type) where
  | single (rule : ρ)
  | chain (members : List (ResolverOf ρ))

namespace ResolverOf

variable {ρ : Type}

instance : Inhabited (ResolverOf ρ) := ⟨chain []⟩

/-- What a resolver contributes to a chain: the members of a chain, and all else as it is. -/
def members : ResolverOf ρ → List (ResolverOf ρ)
  | single rule => [single rule]
  | chain members => members

/-- The chain of resolvers. It looks one level deep: the members of its members stay together. -/
def ofList (resolvers : List (ResolverOf ρ)) : ResolverOf ρ := chain (resolvers.flatMap members)

/-- A resolver with another one that is asked after it. -/
def orElse (first second : ResolverOf ρ) : ResolverOf ρ := ofList [first, second]

mutual

/-- The rules of a resolver, in the order in which they are asked. -/
def rules : ResolverOf ρ → List ρ
  | single rule => [rule]
  | chain members => rulesAmong members

/-- The rules of several resolvers, in the order in which they are asked. -/
def rulesAmong : List (ResolverOf ρ) → List ρ
  | [] => []
  | member :: rest => member.rules ++ rulesAmong rest

end

/-- The length of a chain. -/
def length? : ResolverOf ρ → Option Nat
  | single _ => none
  | chain members => some members.length

variable [Resolving ρ]

/-- The name of a resolver. -/
def name : ResolverOf ρ → String
  | single rule => Resolving.name rule
  | chain _ => "ResolverChain"

/-- The text that shows a resolver: the members of a chain between brackets. -/
def text : ResolverOf ρ → String
  | single rule => Resolving.name rule
  | chain members => "ResolverChain([" ++ String.intercalate ", " (members.map name) ++ "])"

mutual

/-- The answer of a resolver. A chain does not take nothing for a class. -/
def resolve (u : Universe) (target : Annotation) : ResolverOf ρ → Reading (Option Definition)
  | single rule => Resolving.resolve u target rule
  | chain members =>
    match target with
    | .none => .fail .noDescriptor
    | target => firstAnswer u target members

/-- The first answer among those of several resolvers. -/
def firstAnswer (u : Universe) (target : Annotation) :
    List (ResolverOf ρ) → Reading (Option Definition)
  | [] => return none
  | member :: rest => do
    match ← member.resolve u target with
    | none => firstAnswer u target rest
    | some answer =>
      .report Log.debug resolverSource
        ("Resolved " ++ target.source u ++ " with " ++ member.name)
      return some answer

end

mutual

/-- How many of its rules a resolver asks. -/
def asked (u : Universe) (target : Annotation) : ResolverOf ρ → Nat
  | single _ => 1
  | chain members =>
    match target with
    | .none => 0
    | target => askedAmong u target members

/-- How many of the rules of several resolvers are asked until one answers or fails. -/
def askedAmong (u : Universe) (target : Annotation) : List (ResolverOf ρ) → Nat
  | [] => 0
  | member :: rest =>
    match (member.resolve u target).outcome with
    | .ok none => member.asked u target + askedAmong u target rest
    | _ => member.asked u target

end

end ResolverOf

/-- A resolver made of the rules there are. -/
abbrev Resolver := ResolverOf ResolverRule

/-- Polymorphic resolution, then structural resolution. -/
def Resolver.default : Resolver :=
  ResolverOf.orElse (.single .polymorphic) (.single .structural)

end ServiceSchema

/-
Class declarations.

A declaration says what a class is made of: its bases, its annotated fields with
their defaults, its members, and the marks that were put on it. The kind of a class
decides how its fields are read off it, which standard class it descends from when
it names no base, and which of the names that its body binds become attributes.
-/
import ServiceSchema.Annotation.Basic
import ServiceSchema.Json.Table

set_option autoImplicit false

namespace ServiceSchema

/-- A class of the universe. -/
def Annotation.declared (index : Nat) : Annotation := .cls (.declared index)

/-! ## Functions -/

/-- How a parameter takes its argument. -/
inductive ParameterKind where
  | positional
  /-- By name only. -/
  | keyword
  /-- All further arguments by position. -/
  | restPositional
  /-- All further arguments by name. -/
  | restKeyword
deriving DecidableEq, Inhabited, Repr

/-- A parameter of a function. -/
structure Parameter where
  name : String
  type : Option Annotation := none
  hasDefault : Bool := false
  kind : ParameterKind := .positional
deriving Inhabited

/-- The HTTP method and the path that a function is bound to. -/
structure Route where
  httpMethod : String
  path : Option String
deriving DecidableEq, Inhabited, Repr

/-- A route; the HTTP method is raised to upper case and is `POST` unless another one is given. -/
def Route.make (httpMethod path : Option String) : Route :=
  ⟨Text.upper (httpMethod.getD "POST"), path⟩

/-- A function. -/
structure Function where
  name : String
  parameters : List Parameter := []
  result : Option Annotation := none
  documentation : Option String := none
  description : Option String := none
  route : Option Route := none
deriving Inhabited

/-- The parameters in the order in which a signature lists them. -/
def Function.signature (f : Function) : List Parameter :=
  [ParameterKind.positional, .restPositional, .keyword, .restKeyword].flatMap fun kind =>
    f.parameters.filter (·.kind == kind)

/-- What an attribute of a class holds. -/
inductive Member where
  | function (function : Function)
  /-- A function that does not know the class, or that the language itself provides. -/
  | static (function : Function)
  /-- A function that is bound to the class. -/
  | bound (function : Function)
  /-- A function that does not tell its parameters; whoever asks for them gets the message. -/
  | unsigned (name message : String)
  /-- A place that every instance has for a value, shown as the text. -/
  | slot (owner name text : String)
  /-- Anything else that cannot be called. -/
  | constant (value : Annotation)
deriving Inhabited

/-- What an attribute means where a type belongs. -/
def Member.meaning : Member → Annotation
  | function f | static f | bound f => .function f.name
  | unsigned name _ | slot _ name _ => .function name
  | constant value => value

/-! ## Classes -/

/-- A field of a class, as it is declared. -/
structure FieldDeclaration where
  name : String
  type : Annotation
  default : Option Json := none
  hasFactory : Bool := false
  description : Option String := none
  shownName : Option String := none
deriving Inhabited

namespace FieldDeclaration

/-- Whether a field is declared with more than a default. -/
def isDetailed (f : FieldDeclaration) : Bool := f.hasFactory || f.description.isSome

/-- Whether what is declared is written as a class variable, metadata aside. -/
def isClassVariable (f : FieldDeclaration) : Bool :=
  match f.type with
  | .annotated type _ => type.isClassVariable
  | type => type.isClassVariable

end FieldDeclaration

/-- The kinds of class. -/
inductive ClassKind where
  /-- A class whose annotations describe its instances. -/
  | plain
  /-- A class whose fields are collected when it is declared. -/
  | dataclass
  /-- A model that validates its fields. -/
  | model
  /-- A mapping with typed keys, all of which have to be there if `total` holds. -/
  | typedDict (total : Bool)
  | namedTuple
  /-- An enumeration of named values, possibly of a standard class. -/
  | enumeration (mixin : Option StandardClass) (values : List (String × Json))
deriving Inhabited

/-- A class of a universe. -/
structure ClassDeclaration where
  name : String
  module : String
  /-- The name within the module, with the classes that surround it. -/
  qualname : String
  kind : ClassKind := .plain
  bases : List ClassId := []
  isGeneric : Bool := false
  documentation : Option String := none
  /-- The description that the class is marked with. -/
  description : Option String := none
  /-- The discriminating property that the class is marked with. -/
  typeProperty : Option String := none
  /-- The named subtypes that the class is marked with. -/
  subtypes : Option (List (String × ClassId)) := none
  fields : List FieldDeclaration := []
  /-- What the body binds before the defaults of the fields. -/
  leading : List (String × Member) := []
  /-- What the body binds after them. -/
  members : List (String × Member) := []
deriving Inhabited

namespace ClassDeclaration

/-- The classes that a class directly descends from. -/
def parents (c : ClassDeclaration) : List ClassId :=
  match c.kind with
  | .typedDict _ => [.standard (.builtin "dict"), .standard .object]
  | .namedTuple => [.standard (.builtin "tuple"), .standard .object]
  | .enumeration mixin _ =>
    if c.bases.isEmpty then (mixin.toList.map ClassId.standard) ++ [.standard .enumeration]
    else c.bases
  | .model => if c.bases.isEmpty then [.standard .model] else c.bases
  | _ =>
    let bases := c.bases ++ (if c.isGeneric then [.standard .generic] else [])
    if bases.isEmpty then [.standard .object] else bases

/-! ### Attributes -/

/-- Whether the body binds a name, defaults of fields aside. -/
def binds (c : ClassDeclaration) (name : String) : Bool :=
  (c.leading ++ c.members).any (·.1 == name)

/-- What the declarations of fields bind. A field of a dataclass that says more than a type, but has
no default, binds its name for the time of the declaration only. -/
def fieldBindings (c : ClassDeclaration) : List (String × Option Member) :=
  c.fields.filterMap fun f =>
    match f.default, c.kind with
    | some value, _ => some (f.name, some (.constant (.ofValue value)))
    | none, .dataclass => if f.isDetailed then some (f.name, none) else none
    | none, _ => none

/-- What the declaration of a class binds to its names, one after another. Nothing is bound to a
name in the end if the declaration takes it off the class again. -/
def bindings (c : ClassDeclaration) : List (String × Option Member) :=
  let bound (members : List (String × Member)) := members.map fun (name, m) => (name, some m)
  match c.kind with
  | .plain | .dataclass | .typedDict _ => bound c.leading ++ c.fieldBindings ++ bound c.members
  | .model =>
    -- the fields of a model are no attributes of it
    bound c.leading ++ c.fieldBindings ++ bound c.members
      ++ (c.fields.filter (!·.isClassVariable)).map fun f => (f.name, none)
  | .namedTuple =>
    -- every field reads an item, whatever else is bound to its name
    (c.fields.map fun f => (f.name, some (.constant (.function f.name))))
      ++ bound ((c.leading ++ c.members).filter fun m => !c.fields.any (·.name == m.1))
  | .enumeration _ values =>
    bound c.leading ++ values.map (fun (name, value) => (name, some (.constant (.ofValue value))))
      ++ bound c.members

/-- The attributes that a class itself defines, in the order in which their names are bound
first. -/
def attributes (c : ClassDeclaration) : Table Member :=
  Table.ofList ((Table.ofList c.bindings).entries.filterMap fun (name, member?) =>
    member?.map (name, ·))

end ClassDeclaration

end ServiceSchema

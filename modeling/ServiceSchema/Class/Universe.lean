/-
Universes of classes.

A universe declares classes one after another in a module, beside the classes of a
library. It answers which names the module defines, what a class is called, and
which classes a class descends from. The lineage of a class lists the class, its
bases and theirs, every class before the classes that it descends from and bases in
the order in which they are declared. An attribute is looked for along the lineage.
-/
import ServiceSchema.Class.Library

set_option autoImplicit false

namespace ServiceSchema

/-- Classes that can mention each other. -/
structure Universe where
  /-- The module in which the classes are found by name. -/
  module : String := "m"
  classes : List ClassDeclaration := []
  /-- What the other names of a module mean: those that it imports, or defines beside classes. -/
  names : String → String → Option Annotation := fun _ _ => none
  library : StandardClass → LibraryClass := standardLibrary
deriving Inhabited

/-! ## Linear orders of ancestors -/

/-- Merges lists of classes into one that keeps the order of each list. The next class is the
first head that no tail contains; lists that contradict each other yield their heads. The number
bounds the classes that are merged. -/
def mergeLineages : Nat → List (List ClassId) → List ClassId
  | 0, _ => []
  | fuel + 1, lists =>
    let lists := lists.filter (!·.isEmpty)
    let heads := lists.filterMap (·.head?)
    match heads.find? (fun c => lists.all fun l => !l.tail.contains c) <|> heads.head? with
    | none => []
    | some c => c :: mergeLineages fuel (lists.map fun l => if l.head? = some c then l.tail else l)

namespace Universe

/-- The declaration of a class, unless it is a standard class. -/
def declaration? (u : Universe) : ClassId → Option ClassDeclaration
  | .standard _ => none
  | .declared index => u.classes[index]?

/-- The lineage of a class; the number bounds the length of a chain of bases. -/
def lineageWithin (u : Universe) : Nat → ClassId → List ClassId
  | _, .standard c => (u.library c).lineage.map .standard
  | 0, id => [id]
  | fuel + 1, .declared index =>
    match u.classes[index]? with
    | none => [.declared index]
    | some c =>
      let lists := c.parents.map (u.lineageWithin fuel) ++ [c.parents]
      .declared index :: mergeLineages (lists.map List.length).sum lists

/-- The lineage of a class, itself first. -/
def lineage (u : Universe) (id : ClassId) : List ClassId := u.lineageWithin u.classes.length id

/-- The declarations along the lineage of a class, that of the class first. -/
def ancestors (u : Universe) (id : ClassId) : List ClassDeclaration :=
  (u.lineage id).filterMap u.declaration?

/-! ## Names -/

/-- The short name of a class. -/
def shortName (u : Universe) (id : ClassId) : String :=
  match id with
  | .standard c => c.name
  | id => match u.declaration? id with
    | some c => c.name
    | none => ""

/-- The full name of a class; what is no class of the universe has none. -/
def fullName (u : Universe) (id : ClassId) : String :=
  match id with
  | .standard c => if StandardClass.all.contains c then qualifiedName c.module c.name else ""
  | id => match u.declaration? id with
    | some c => qualifiedName c.module c.qualname
    | none => ""

/-- Whether a class counts as builtin. -/
def isBuiltin (u : Universe) (id : ClassId) : Bool :=
  match id with
  | .standard c => c.module == "builtins"
  | id => match u.declaration? id with
    | some c => c.module == "builtins"
    | none => false

/-- Whether a class is an enumeration. -/
def isEnumeration (u : Universe) (id : ClassId) : Bool :=
  match u.declaration? id with
  | some { kind := .enumeration .., .. } => true
  | _ => false

/-- The class of a name in the module of the universe; the latest declaration counts. -/
def find? (u : Universe) (name : String) : Option ClassId :=
  (u.classes.zipIdx.reverse.find? fun (c, _) => c.name == name).map fun (_, index) =>
    .declared index

/-! ## Attributes -/

/-- The attributes that a class itself defines. -/
def ownAttributes (u : Universe) : ClassId → Table Member
  | .standard c => Table.ofList (u.library c).members
  | .declared index => ((u.classes[index]?).map (·.attributes)).getD .empty

/-- The attribute of a name, as the first class of the lineage defines it. -/
def attribute? (u : Universe) (id : ClassId) (name : String) : Option Member :=
  (u.lineage id).findSome? fun c => (u.ownAttributes c).get? name

/-- Whether a class has an attribute of a public name. -/
def hasAttribute (u : Universe) (id : ClassId) (name : String) : Bool :=
  (u.attribute? id name).isSome || (u.lineage id).any fun
    | .standard c => (u.library c).metaNames.contains name
    | .declared _ => false

end Universe

end ServiceSchema

/-
The fields of a class.

What counts as a field, and whether it has to be given, depends on the kind of the
class. A model lists its own fields and those of its bases, all of which have to be
given unless they have a default. A dataclass does likewise, but a field that may be
nothing need not be given either. A typed mapping says which entries it needs. For
every other class an annotation is a field, and it has to be given unless the class
has an attribute of that name or the field may be nothing. Class variables are not
fields, nor is anything whose name starts with an underscore.
-/
import ServiceSchema.Class.Hints

set_option autoImplicit false

namespace ServiceSchema

/-- A field of a class together with the annotation of its type. -/
structure ClassField where
  name : String
  type : Annotation
  isRequired : Bool
  description : String := ""
deriving Inhabited

/-- The field of a struct that a field of a class is described by. -/
def ClassField.toField (u : Universe) (f : ClassField) : Except ModelError Field :=
  match f.type.toSignature u with
  | .error e => .error (.signature e)
  | .ok type => Field.make? f.name (some type) (.ofBool f.isRequired) .unspecified f.description

/-- The description that comes with metadata: the first that is not empty. -/
def Annotation.description : Annotation → String
  | annotated _ metadata =>
    (metadata.findSome? fun
      | .param _ s => if s = "" then Option.none else some s
      | _ => Option.none).getD ""
  | _ => ""

/-- The fields of a class as a dataclass collects them: where the body binds the name of a field
anew, the declaration says no more than the type. -/
def ClassDeclaration.collectedFields (c : ClassDeclaration) : List FieldDeclaration :=
  c.fields.map fun f =>
    if c.members.any (·.1 == f.name) then { name := f.name, type := f.type } else f

/-- Whether a name is reserved for the class itself. -/
def isPrivate (name : String) : Bool := name.toList.head? = some '_'

namespace Universe

/-- Reads something off every class, in the order of their declarations and with the help of what
was read off the classes before it. -/
def readInOrder {α : Type} (u : Universe)
    (read : (ClassId → Option α) → Nat → ClassDeclaration → α) : List α :=
  u.classes.foldl
    (fun known c =>
      let earlier : ClassId → Option α := fun
        | .declared index => known[index]?
        | .standard _ => none
      known ++ [read earlier known.length c])
    []

/-- What was read off a class. -/
def lookUp {α : Type} (readings : List α) : ClassId → Option α
  | .declared index => readings[index]?
  | .standard _ => none

/-! ## Models -/

/-- Whether a class is a model. -/
def isModel (u : Universe) (id : ClassId) : Bool :=
  (u.lineage id).contains (.standard .model)

/-- The universe at the moment when a class has just been declared. -/
def upTo (u : Universe) (index : Nat) : Universe := { u with classes := u.classes.take (index + 1) }

/-- The type of a field that never changes: what it is declared to be, or anything. -/
def finalType? : Annotation → Option Annotation
  | .annotated type _ => finalType? type
  | .form .final => some .any
  | .applied (.form .final) (type :: _) => some type
  | _ => none

/-- A field of a model, and nothing if the annotation declares none. An annotation that mentions
classes which are not declared yet is kept as it is. -/
def modelField? (u : Universe) (id : ClassId) (owner : ClassDeclaration) (isOwn : Bool)
    (f : FieldDeclaration) : Option ClassField :=
  -- classes that are declared later cannot be mentioned yet
  let type := (f.type.evaluateHint u owner.place).toOption.getD f.type.asType
  let hasDefault := (isOwn && (f.default.isSome || f.hasFactory || owner.binds f.name))
    || u.hasAttribute id f.name
  -- a base that is no model says nothing about a field besides its type
  let own : FieldDeclaration := if isOwn then f else { f with shownName := none, description := none }
  let name := match own.shownName with
    | some name => if name = "" then f.name else name
    | none => f.name
  if type.strip.isClassVariable || isPrivate f.name then none
  else match finalType? type with
    | some final =>
      if hasDefault then none
      else some ⟨name, final, true, own.description.getD ""⟩
    | none => some ⟨name, type, !hasDefault, own.description.getD ""⟩

/-- The fields of every class that is a model, by the names of their attributes. A model takes over
the fields of its bases unless it declares them itself. -/
def modelTables (u : Universe) : List (Table ClassField) :=
  u.readInOrder fun earlier index c =>
    let id := ClassId.declared index
    let inherited := Table.ofList
      ((c.bases.reverse.filter u.isModel).flatMap fun base =>
        ((earlier base).getD .empty).entries)
    let declared := Table.ofList ((u.ancestors id).reverse.flatMap fun owner =>
      owner.fields.map fun f => (f.name, owner, f))
    let own := c.fields.map (·.name)
    Table.ofList (declared.entries.filterMap fun (name, owner, f) =>
      let field? := (u.upTo index).modelField? id owner (own.contains name) f
      match own.contains name, inherited.get? name, field? with
      -- a field that is not declared again stays what it was in the base
      | _, _, none => none
      | false, some field, some _ => some (name, field)
      | _, _, some field => some (name, field))

/-- The fields of a model. -/
def modelFields (u : Universe) (id : ClassId) : List ClassField :=
  ((lookUp u.modelTables id).getD .empty).values

/-! ## Dataclasses -/

/-- A field of a dataclass, as it is collected when the class is declared. -/
structure DataField where
  declaration : FieldDeclaration
  hasDefault : Bool

/-- Whether a class is itself declared as a dataclass. -/
def isDataclass (u : Universe) (id : ClassId) : Bool :=
  match u.declaration? id with
  | some { kind := .dataclass, .. } => true
  | _ => false

/-- The collected field of a declaration. A declaration that says more than a default takes no
default from an attribute. -/
def dataField (u : Universe) (id : ClassId) (f : FieldDeclaration) : DataField :=
  let isDetailed := f.hasFactory || f.description.isSome
  ⟨f, f.default.isSome || f.hasFactory || (!isDetailed && u.hasAttribute id f.name)⟩

/-- The collected fields of every class that is a dataclass or descends from one: those of its
ancestors from the farthest on, then its own. -/
def dataTables (u : Universe) : List (Option (Table DataField)) :=
  u.readInOrder fun earlier index c =>
    let id := ClassId.declared index
    let ancestors := (u.lineage id).tail
    if u.isDataclass id then
      some (Table.ofList
        (ancestors.reverse.flatMap (fun a => match earlier a with
          | some (some t) => t.entries
          | _ => [])
        ++ c.collectedFields.map fun f => (f.name, u.dataField id f)))
    -- a class that adds nothing has the fields of its nearest dataclass
    else (ancestors.find? u.isDataclass).bind fun a => (earlier a).join

/-- The collected fields of a dataclass, and nothing for other classes. -/
def dataTable? (u : Universe) (id : ClassId) : Option (Table DataField) :=
  (lookUp u.dataTables id).join

/-- The field of a dataclass with its evaluated type, and nothing for what is not a field. -/
def dataClassField? (hints : Table Annotation) (f : DataField) : Option ClassField :=
  let declaration := f.declaration
  if declaration.type.isClassVariable || isPrivate declaration.name then none
  else
    let hint := (hints.get? declaration.name).getD declaration.type
    let marked := declaration.description.getD ""
    some
      { name := declaration.name, type := hint
        isRequired := !f.hasDefault && !hint.isOptional
        description := if marked = "" then hint.description else marked }

/-! ## Typed mappings -/

/-- Whether an entry of a typed mapping has to be there; `total` decides unless the annotation does. -/
def isNeeded (total : Bool) : Annotation → Bool
  | .annotated (.applied (.form .required) _) _ | .applied (.form .required) _ => true
  | .annotated (.applied (.form .notRequired) _) _ | .applied (.form .notRequired) _ => false
  | _ => total

/-- The names of the entries that have to be there, for every class that is a typed mapping. What a
base needs is needed for good. -/
def neededTables (u : Universe) : List (Option (List String)) :=
  u.readInOrder fun earlier _ c =>
    match c.kind with
    | .typedDict total =>
      some (c.bases.flatMap (fun base => ((earlier base).join).getD [])
        ++ (c.fields.filter fun f => isNeeded total f.type).map (·.name))
    | _ => none

/-! ## All classes -/

/-- The fields of a class whose annotations describe its instances. -/
def annotatedFields (u : Universe) (id : ClassId) (hints : Table Annotation) : List ClassField :=
  let needed := (lookUp u.neededTables id).join
  (hints.entries.filter fun (name, hint) => !isPrivate name && !hint.isTypedClassVariable).map
    fun (name, hint) =>
      { name, type := hint, description := hint.description
        isRequired := match needed with
          | some names => names.contains name
          | none => !u.hasAttribute id name && !hint.isOptional }

/-- The fields of a class in the order of their declarations. -/
def classFields (u : Universe) (id : ClassId) : Reading (List ClassField) :=
  if u.isModel id then return u.modelFields id
  else match u.dataTable? id with
    | some t => do
      let hints ← u.hints id
      return t.values.filterMap (dataClassField? hints)
    | none => do
      let hints ← u.hints id
      return u.annotatedFields id hints

/-- The fields of the struct that a class is described by. -/
def fields (u : Universe) (id : ClassId) : Reading (List Field) := do
  let fields ← u.classFields id
  match fields.mapM (ClassField.toField u) with
  | .ok fields => return fields
  | .error e => .fail (.model e)

end Universe

end ServiceSchema

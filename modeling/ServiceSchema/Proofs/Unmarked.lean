/-
Classes without their marks.

The marks of a union stand on the declaration of a class, beside everything else that is said
there. Taking all marks off a universe shows what depends on them: a reading that is the same
without marks looks at none, on whatever class they stand. The lineage of a class is such a reading,
and so is what its annotations mean, and in the end its fields and its description. What is left is
the union alone.
-/
import ServiceSchema.Class.Resolver
import ServiceSchema.Proofs.Tables

set_option autoImplicit false

namespace ServiceSchema

/-- A class without the marks of a union. -/
def ClassDeclaration.unmarked (c : ClassDeclaration) : ClassDeclaration :=
  { c with typeProperty := none, subtypes := none }

namespace ClassDeclaration

variable (c : ClassDeclaration)

@[simp] theorem module_unmarked : c.unmarked.module = c.module := rfl

@[simp] theorem kind_unmarked : c.unmarked.kind = c.kind := rfl

@[simp] theorem bases_unmarked : c.unmarked.bases = c.bases := rfl

@[simp] theorem fields_unmarked : c.unmarked.fields = c.fields := rfl

@[simp] theorem attributes_unmarked : c.unmarked.attributes = c.attributes := rfl

@[simp] theorem place_unmarked : c.unmarked.place = c.place := rfl

@[simp] theorem collectedFields_unmarked : c.unmarked.collectedFields = c.collectedFields := rfl

@[simp] theorem binds_unmarked (name : String) : c.unmarked.binds name = c.binds name := rfl

end ClassDeclaration

/-- A universe with no marks of unions on any class. -/
def Universe.unmarked (u : Universe) : Universe :=
  { u with classes := u.classes.map ClassDeclaration.unmarked }

namespace Universe

variable (u : Universe)

/-! ## Lineages and names -/

@[simp] theorem module_unmarked : u.unmarked.module = u.module := rfl

@[simp] theorem classes_unmarked : u.unmarked.classes = u.classes.map ClassDeclaration.unmarked :=
  rfl

@[simp] theorem declaration?_unmarked (id : ClassId) :
    u.unmarked.declaration? id = (u.declaration? id).map ClassDeclaration.unmarked := by
  cases id with
  | standard c => rfl
  | declared index => exact List.getElem?_map

/-- A lineage is made of those of the bases that a class names. The induction is on the length of a
chain of bases. -/
theorem lineageWithin_unmarked (fuel : Nat) (id : ClassId) :
    u.unmarked.lineageWithin fuel id = u.lineageWithin fuel id := by
  induction fuel generalizing id with
  | zero => cases id <;> rfl
  | succ fuel ih =>
    have hwithin : u.unmarked.lineageWithin fuel = u.lineageWithin fuel := funext ih
    cases id with
    | standard c => rfl
    | declared index =>
      -- Both sides look a declaration up and make the same of it.
      conv => congr <;> whnf
      rw [hwithin, classes_unmarked, List.getElem?_map]
      cases u.classes[index]? <;> rfl

@[simp] theorem lineage_unmarked (id : ClassId) : u.unmarked.lineage id = u.lineage id := by
  rw [lineage, lineage, lineageWithin_unmarked, classes_unmarked, List.length_map]

@[simp] theorem ancestors_unmarked (id : ClassId) :
    u.unmarked.ancestors id = (u.ancestors id).map ClassDeclaration.unmarked := by
  rw [ancestors, ancestors, lineage_unmarked, List.map_filterMap]
  exact congrArg (List.filterMap · _) (funext u.declaration?_unmarked)

@[simp] theorem shortName_unmarked (id : ClassId) : u.unmarked.shortName id = u.shortName id := by
  cases id with
  | standard c => rfl
  | declared index =>
    simp only [shortName, declaration?_unmarked]
    cases u.declaration? (.declared index) <;> rfl

@[simp] theorem fullName_unmarked (id : ClassId) : u.unmarked.fullName id = u.fullName id := by
  cases id with
  | standard c => rfl
  | declared index =>
    simp only [fullName, declaration?_unmarked]
    cases u.declaration? (.declared index) <;> rfl

@[simp] theorem isBuiltin_unmarked (id : ClassId) : u.unmarked.isBuiltin id = u.isBuiltin id := by
  cases id with
  | standard c => rfl
  | declared index =>
    simp only [isBuiltin, declaration?_unmarked]
    cases u.declaration? (.declared index) <;> rfl

@[simp] theorem isEnumeration_unmarked (id : ClassId) :
    u.unmarked.isEnumeration id = u.isEnumeration id := by
  rw [isEnumeration, isEnumeration, declaration?_unmarked]
  cases u.declaration? id with
  | none => rfl
  | some c =>
    obtain ⟨_, _, _, kind, _⟩ := c
    cases kind <;> rfl

@[simp] theorem members_unmarked (id : ClassId) : u.unmarked.members id = u.members id := by
  rw [members, members, declaration?_unmarked]
  cases u.declaration? id with
  | none => rfl
  | some c =>
    obtain ⟨_, _, _, kind, _⟩ := c
    cases kind <;> rfl

@[simp] theorem memberOf?_unmarked (id : ClassId) (name : String) :
    u.unmarked.memberOf? id name = u.memberOf? id name := by
  rw [memberOf?, memberOf?, declaration?_unmarked]
  cases u.declaration? id with
  | none => rfl
  | some c =>
    obtain ⟨_, _, _, kind, _⟩ := c
    cases kind <;> rfl

@[simp] theorem describe_unmarked (id : ClassId) : u.unmarked.describe id = u.describe id := by
  cases id with
  | standard c => rfl
  | declared index =>
    simp only [describe, declaration?_unmarked]
    cases u.declaration? (.declared index) <;> rfl

@[simp] theorem find?_unmarked (name : String) : u.unmarked.find? name = u.find? name := by
  simp only [find?, classes_unmarked, List.zipIdx_map, ← List.map_reverse, List.find?_map,
    Option.map_map]
  rfl

/-! ## Attributes -/

@[simp] theorem ownAttributes_unmarked (id : ClassId) :
    u.unmarked.ownAttributes id = u.ownAttributes id := by
  cases id with
  | standard c => rfl
  | declared index =>
    rw [ownAttributes, ownAttributes, classes_unmarked, List.getElem?_map]
    cases u.classes[index]? <;> rfl

@[simp] theorem attribute?_unmarked (id : ClassId) (name : String) :
    u.unmarked.attribute? id name = u.attribute? id name := by
  simp only [attribute?, lineage_unmarked, ownAttributes_unmarked]

@[simp] theorem hasAttribute_unmarked (id : ClassId) (name : String) :
    u.unmarked.hasAttribute id name = u.hasAttribute id name := by
  rw [hasAttribute, hasAttribute, attribute?_unmarked, lineage_unmarked]
  rfl

end Universe

/-! ## Annotations as text and as signatures -/

namespace Universe

variable (u : Universe)

@[simp] theorem memberSource_unmarked (enumeration : ClassId) (name : String) :
    u.unmarked.memberSource enumeration name = u.memberSource enumeration name := by
  rw [memberSource, memberSource, shortName_unmarked, members_unmarked]

@[simp] theorem literalSource_unmarked (v : LiteralValue) :
    u.unmarked.literalSource v = u.literalSource v := by
  cases v with
  | plain value => rfl
  | member enumeration name => exact u.memberSource_unmarked enumeration name

@[simp] theorem headSource_unmarked (head : TypeHead) :
    u.unmarked.headSource head = u.headSource head := by
  cases head with
  | cls id => exact u.fullName_unmarked id
  | generic a => rfl
  | form f => rfl

end Universe

namespace Annotation

variable (u : Universe)

mutual

@[simp] theorem source_unmarked : ∀ a : Annotation, source u.unmarked a = source u a
  | none | generic _ | form _ | typeVariable _ | forward _ Option.none | forward _ (some _)
  | text _ | ellipsis | function _ | value _ => by rw [source, source]
  | derived _ => by simp only [source, Universe.module_unmarked]
  | cls id => by simp only [source, Universe.fullName_unmarked]
  | applied head arguments => by
    simp only [source, Universe.headSource_unmarked, argumentSources_unmarked arguments]
  | union [] => by simp only [source, argumentSources]
  | union [a] => by simp only [source, argumentSources, argumentSource_unmarked a]
  | union [a, b] => by simp only [source, argumentSource_unmarked a, argumentSource_unmarked b]
  | union (a :: b :: c :: rest) => by
    simp only [source, argumentSources_unmarked (a :: b :: c :: rest)]
  | joined members => by simp only [source, barSources_unmarked members]
  | annotated type _ => by simp only [source, argumentSource_unmarked type]
  | literal values => by simp only [source, funext u.literalSource_unmarked]
  | member enumeration name => by simp only [source, Universe.memberSource_unmarked]

theorem argumentSource_unmarked (a : Annotation) :
    argumentSource u.unmarked a = argumentSource u a := by
  unfold argumentSource
  split
  · exact u.fullName_unmarked _
  · rfl
  · rfl
  · exact source_unmarked a

theorem argumentSources_unmarked : ∀ as : List Annotation,
    argumentSources u.unmarked as = argumentSources u as
  | [] => by rw [argumentSources, argumentSources]
  | a :: rest => by
    rw [argumentSources, argumentSources, argumentSource_unmarked a, argumentSources_unmarked rest]

theorem barSources_unmarked : ∀ as : List Annotation,
    barSources u.unmarked as = barSources u as
  | [] => by rw [barSources, barSources]
  | a :: rest => by
    rw [barSources, barSources, argumentSource_unmarked a, barSources_unmarked rest]

end

@[simp] theorem tupleSource_unmarked (items : List Annotation) :
    tupleSource u.unmarked items = tupleSource u items := by
  rw [tupleSource, tupleSource, funext (source_unmarked u)]

@[simp] theorem displayName_unmarked (a : Annotation) :
    displayName u.unmarked a = displayName u a := by
  cases a with
  | cls id => exact u.shortName_unmarked id
  | applied head arguments =>
    cases head <;> simp only [displayName, headName, Universe.shortName_unmarked]
  | member enumeration name => simp only [displayName, Universe.shortName_unmarked]
  | union members => rfl
  | _ => simp only [displayName, source_unmarked]

end Annotation

namespace Universe

variable (u : Universe)

@[simp] theorem classSignature_unmarked (id : ClassId) :
    u.unmarked.classSignature id = u.classSignature id := by
  cases id <;> simp only [classSignature, fullName_unmarked, isEnumeration_unmarked,
    isBuiltin_unmarked, shortName_unmarked]

@[simp] theorem literalSignature_unmarked (values : List LiteralValue) :
    u.unmarked.literalSignature values = u.literalSignature values := by
  cases values <;> simp only [literalSignature, classSignature_unmarked]

end Universe

namespace Annotation

variable (u : Universe)

@[simp] theorem unresolved_unmarked (a : Annotation) :
    unresolved u.unmarked a = unresolved u a := by
  rw [unresolved, unresolved, displayName_unmarked]

mutual

theorem signatureOf_unmarked (through : Bool) : ∀ a : Annotation,
    signatureOf u.unmarked through a = signatureOf u through a
  | annotated type _ => by simp only [signatureOf, signatureOf_unmarked through type]
  | union members | joined members => by
    simp only [signatureOf, otherSignature_unmarked members, unresolved_unmarked]
  | cls id => by simp only [signatureOf, Universe.classSignature_unmarked]
  | applied head arguments => by
    simp only [signatureOf, elementSignature_unmarked arguments,
      argumentSignatures_unmarked arguments, unresolved_unmarked]
  | literal values => by simp only [signatureOf, Universe.literalSignature_unmarked]
  | none | generic _ | form _ | typeVariable _ | derived _ | forward _ _ | text _ | ellipsis
  | member _ _ | function _ | value _ => by simp only [signatureOf, unresolved_unmarked]

theorem otherSignature_unmarked : ∀ members : List Annotation,
    otherSignature u.unmarked members = otherSignature u members
  | [] => by rw [otherSignature, otherSignature]
  | a :: rest => by
    rw [otherSignature, otherSignature, otherSignature_unmarked rest, signatureOf_unmarked false a]

theorem elementSignature_unmarked : ∀ arguments : List Annotation,
    elementSignature u.unmarked arguments = elementSignature u arguments
  | [] => by rw [elementSignature, elementSignature]
  | a :: _ => by rw [elementSignature, elementSignature, signatureOf_unmarked true a]

theorem argumentSignatures_unmarked : ∀ arguments : List Annotation,
    argumentSignatures u.unmarked arguments = argumentSignatures u arguments
  | [] => by rw [argumentSignatures, argumentSignatures]
  | a :: rest => by
    rw [argumentSignatures, argumentSignatures, signatureOf_unmarked true a,
      argumentSignatures_unmarked rest]

end

@[simp] theorem toSignature_unmarked (a : Annotation) :
    toSignature u.unmarked a = toSignature u a := signatureOf_unmarked u true a

end Annotation

/-! ## What annotations mean -/

namespace Universe

variable (u : Universe)

@[simp] theorem moduleName?_unmarked (module name : String) :
    u.unmarked.moduleName? module name = u.moduleName? module name := by
  simp only [moduleName?, module_unmarked, find?_unmarked]
  rfl

@[simp] theorem scope_unmarked (place : Place) (tied : Option String) :
    u.unmarked.scope place tied = u.scope place tied := by
  funext name
  simp only [scope, moduleName?_unmarked]

@[simp] theorem attributeOf?_unmarked (a : Annotation) (name : String) :
    u.unmarked.attributeOf? a name = u.attributeOf? a name := by
  cases a <;> simp only [attributeOf?, attribute?_unmarked, memberOf?_unmarked]

@[simp] theorem tupleFault_unmarked (reason : String) (items : List Annotation) :
    u.unmarked.tupleFault reason items = u.tupleFault reason items := by
  rw [tupleFault, tupleFault, Annotation.tupleSource_unmarked]

/-- Whether a class takes type arguments. -/
theorem isGeneric_unmarked (index : Nat) :
    (u.unmarked.classes[index]?).any (·.isGeneric) = (u.classes[index]?).any (·.isGeneric) := by
  rw [classes_unmarked, List.getElem?_map]
  cases u.classes[index]? <;> rfl

end Universe

theorem Annotation.asOperand_unmarked (u : Universe) (allowed : Bool) (a : Annotation) :
    a.asOperand u.unmarked allowed = a.asOperand u allowed := by
  simp only [asOperand, Annotation.source_unmarked]

theorem Universe.subscript_unmarked (u : Universe) (head : Annotation)
    (arguments : List Annotation) :
    u.unmarked.subscript head arguments = u.subscript head arguments := by
  simp only [subscript, isGeneric_unmarked, shortName_unmarked, tupleFault_unmarked,
    Annotation.source_unmarked, Annotation.asOperand_unmarked]

namespace Expression

variable (u : Universe)

mutual

theorem evaluate_unmarked (scope : Scope) : ∀ e : Expression,
    evaluate u.unmarked scope e = evaluate u scope e
  | name _ | constant _ | dots => by simp only [evaluate]
  | member e s => by
    simp only [evaluate, evaluate_unmarked scope e, Universe.attributeOf?_unmarked]
  | index e arguments => by
    simp only [evaluate, evaluate_unmarked scope e, evaluateAll_unmarked scope arguments,
      Universe.subscript_unmarked]
  | either e e' => by
    simp only [evaluate, evaluate_unmarked scope e, evaluate_unmarked scope e']
  | negative e => by simp only [evaluate, evaluate_unmarked scope e]
  | tuple items => by
    simp only [evaluate, evaluateAll_unmarked scope items, Universe.tupleFault_unmarked]

theorem evaluateAll_unmarked (scope : Scope) : ∀ es : List Expression,
    evaluateAll u.unmarked scope es = evaluateAll u scope es
  | [] => by rw [evaluateAll, evaluateAll]
  | e :: rest => by
    rw [evaluateAll, evaluateAll, evaluate_unmarked scope e, evaluateAll_unmarked scope rest]

end

end Expression

namespace Annotation

variable (u : Universe)

/-- The induction is on the references that lead from one to the next. -/
theorem evaluateReference_unmarked (place : Place) (fuel : Nat) (seen : List String)
    (around : Option String) (allowed : Bool) (s : String) (tied : Option String) :
    evaluateReference u.unmarked place fuel seen around allowed s tied =
      evaluateReference u place fuel seen around allowed s tied := by
  induction fuel generalizing seen around allowed s tied with
  | zero => rfl
  | succ fuel ih =>
    have hread (around : Option String) : evaluateReference u.unmarked place fuel (s :: seen) around
        = evaluateReference u place fuel (s :: seen) around := by
      funext allowed' s' tied'
      exact ih (s :: seen) around allowed' s' tied'
    simp only [evaluateReference, hread, Universe.scope_unmarked, Expression.evaluate_unmarked,
      asOperand_unmarked]

theorem readReference_unmarked (place : Place) :
    readReference u.unmarked place = readReference u place := by
  funext allowed s tied
  exact evaluateReference_unmarked u place _ _ _ _ _ _

theorem evaluate_unmarked (place : Place) (a : Annotation) :
    a.evaluate u.unmarked place = a.evaluate u place := by
  simp only [evaluate, readReference_unmarked]

theorem evaluateHint_unmarked (place : Place) (a : Annotation) :
    a.evaluateHint u.unmarked place = a.evaluateHint u place := by
  simp only [evaluateHint, readReference_unmarked, evaluate_unmarked]

end Annotation

/-! ## Fields -/

namespace Universe

variable (u : Universe)

/-- The bases of a class are classes, which keep the same annotations. The induction is on the
length of a chain of them. -/
theorem keptAnnotations_unmarked (fuel : Nat) (c : ClassDeclaration) :
    u.unmarked.keptAnnotations fuel c.unmarked = u.keptAnnotations fuel c := by
  induction fuel generalizing c with
  | zero => simp only [keptAnnotations, ClassDeclaration.kind_unmarked,
      ClassDeclaration.module_unmarked, ClassDeclaration.fields_unmarked]
  | succ fuel ih =>
    have hbases : (c.bases.filterMap u.unmarked.declaration?).flatMap
        (u.unmarked.keptAnnotations fuel) =
        (c.bases.filterMap u.declaration?).flatMap (u.keptAnnotations fuel) := by
      rw [funext u.declaration?_unmarked, ← List.map_filterMap, List.flatMap_map, funext ih]
    simp only [keptAnnotations, ClassDeclaration.kind_unmarked, ClassDeclaration.module_unmarked,
      ClassDeclaration.bases_unmarked, ClassDeclaration.fields_unmarked, hbases]

@[simp] theorem annotations_unmarked (c : ClassDeclaration) :
    u.unmarked.annotations c.unmarked = u.annotations c := by
  rw [annotations, annotations, keptAnnotations_unmarked, classes_unmarked, List.length_map]

@[simp] theorem hints_unmarked (id : ClassId) : u.unmarked.hints id = u.hints id := by
  simp only [hints, ancestors_unmarked, fullName_unmarked, ← List.map_reverse, List.foldl_map,
    List.foldlM_map, annotations_unmarked, Annotation.evaluateHint_unmarked,
    ClassDeclaration.place_unmarked]

@[simp] theorem upTo_unmarked (index : Nat) : u.unmarked.upTo index = (u.upTo index).unmarked := by
  simp only [upTo, unmarked, List.map_take]

@[simp] theorem isModel_unmarked (id : ClassId) : u.unmarked.isModel id = u.isModel id := by
  rw [isModel, isModel, lineage_unmarked]

/-- Reading is the same if it makes the same of every class. -/
theorem readInOrder_unmarked {α : Type}
    {read read' : (ClassId → Option α) → Nat → ClassDeclaration → α}
    (h : ∀ earlier index c, read earlier index c.unmarked = read' earlier index c) :
    u.unmarked.readInOrder read = u.readInOrder read' := by
  simp only [readInOrder, classes_unmarked, List.foldl_map, h]

/-- Of the class that declares a field only its body counts. -/
theorem modelField?_unmarked (id : ClassId) (owner : ClassDeclaration) (isOwn : Bool)
    (f : FieldDeclaration) :
    u.unmarked.modelField? id owner.unmarked isOwn f = u.modelField? id owner isOwn f := by
  simp only [modelField?, ClassDeclaration.place_unmarked, Annotation.evaluateHint_unmarked,
    ClassDeclaration.binds_unmarked, hasAttribute_unmarked]

@[simp] theorem modelTables_unmarked : u.unmarked.modelTables = u.modelTables := by
  unfold modelTables
  apply readInOrder_unmarked
  intro earlier index c
  -- fields are listed with the classes that declare them, and these lose their marks
  have hdeclared : Table.ofList ((u.unmarked.ancestors (.declared index)).reverse.flatMap
        fun owner => owner.fields.map fun f => (f.name, owner, f)) =
      (Table.ofList ((u.ancestors (.declared index)).reverse.flatMap
        fun owner => owner.fields.map fun f => (f.name, owner, f))).map
          fun e => (e.1.unmarked, e.2) := by
    rw [← Table.ofList_map, ancestors_unmarked, ← List.map_reverse, List.flatMap_map,
      List.map_flatMap]
    simp only [List.map_map]
    rfl
  simp only [hdeclared, Table.map, List.filterMap_map, ClassDeclaration.bases_unmarked,
    ClassDeclaration.fields_unmarked, upTo_unmarked, funext u.isModel_unmarked]
  congr 1
  apply List.filterMap_congr
  intro e he
  dsimp only [Function.comp_apply]
  rw [modelField?_unmarked]

@[simp] theorem isDataclass_unmarked (id : ClassId) :
    u.unmarked.isDataclass id = u.isDataclass id := by
  rw [isDataclass, isDataclass, declaration?_unmarked]
  cases u.declaration? id with
  | none => rfl
  | some c =>
    obtain ⟨_, _, _, kind, _⟩ := c
    cases kind <;> rfl

@[simp] theorem dataField_unmarked (id : ClassId) (f : FieldDeclaration) :
    u.unmarked.dataField id f = u.dataField id f := by
  simp only [dataField, hasAttribute_unmarked]

@[simp] theorem dataTables_unmarked : u.unmarked.dataTables = u.dataTables := by
  unfold dataTables
  apply readInOrder_unmarked
  intro earlier index c
  have hdataclass : u.unmarked.isDataclass = u.isDataclass := funext u.isDataclass_unmarked
  simp only [lineage_unmarked, hdataclass, dataField_unmarked,
    ClassDeclaration.collectedFields_unmarked]

@[simp] theorem neededTables_unmarked : u.unmarked.neededTables = u.neededTables := by
  unfold neededTables
  apply readInOrder_unmarked
  intro earlier index c
  simp only [ClassDeclaration.kind_unmarked, ClassDeclaration.bases_unmarked,
    ClassDeclaration.fields_unmarked]

@[simp] theorem annotatedFields_unmarked (id : ClassId) (hints : Table Annotation) :
    u.unmarked.annotatedFields id hints = u.annotatedFields id hints := by
  simp only [annotatedFields, neededTables_unmarked, hasAttribute_unmarked]

@[simp] theorem classFields_unmarked (id : ClassId) :
    u.unmarked.classFields id = u.classFields id := by
  simp only [classFields, modelFields, dataTable?, isModel_unmarked, modelTables_unmarked,
    dataTables_unmarked, hints_unmarked, annotatedFields_unmarked]

theorem toField_unmarked (f : ClassField) : f.toField u.unmarked = f.toField u := by
  rw [ClassField.toField, ClassField.toField, Annotation.toSignature_unmarked]

@[simp] theorem fields_unmarked (id : ClassId) : u.unmarked.fields id = u.fields id := by
  simp only [fields, classFields_unmarked, funext u.toField_unmarked]

/-! ## Descriptions -/

@[simp] theorem structural_unmarked (id : ClassId) :
    u.unmarked.structural id = u.structural id := by
  simp only [structural, enumOf, enumDescription, isEnumeration_unmarked, isBuiltin_unmarked,
    fullName_unmarked, members_unmarked, describe_unmarked, fields_unmarked]

end Universe

end ServiceSchema

/-
Two views of one class.

Where a class stands in an annotation, the signature says at once whether it is a struct or an
enum. Much later a resolver describes the class, and decides the same question from its own
point of view: by the marks on the class, then by its kind. A specification is only in order if
both say the same. They do, under the same name, for every class in every annotation, but for
one case: the signature does not look at marks, so an enumeration that is marked as a union is an
enum in signatures and is described by a struct.
-/
import ServiceSchema.Proofs.ClassDefinitions

set_option autoImplicit false

namespace ServiceSchema

/-! ## Marks -/

namespace Universe

variable {u : Universe}

/-- Both marks of a union stand on the declaration of a class: a discriminating property that is
not empty, and subtypes. -/
def MarkedUnion (u : Universe) (id : ClassId) : Prop :=
  ∃ c property subtypes, u.declaration? id = some c ∧
    c.typeProperty = some property ∧ property ≠ "" ∧
    c.subtypes = some subtypes ∧ subtypes ≠ []

theorem polymorphism?_isSome_iff {id : ClassId} :
    (u.polymorphism? id).isSome = true ↔ u.MarkedUnion id := by
  unfold polymorphism? MarkedUnion
  cases hdeclared : u.declaration? id with
  | none => simp
  | some c =>
    obtain ⟨_, _, _, _, _, _, _, _, typeProperty, subtypes, _, _⟩ := c
    cases typeProperty with
    | none => simp
    | some property =>
      cases subtypes with
      | none => simp
      | some subtypes => simp [List.isEmpty_iff]

/-! ## Promises and their fulfilment -/

/-- What a reference says about the class that it was read off: it carries the class and its full
name, and is an enum exactly if the class is an enumeration. The class of a struct is not
builtin. -/
structure PointsAt (u : Universe) (r : Signature) (id : ClassId) : Prop where
  descriptor : r.descriptor = some id
  known : id ∈ u.allClasses
  name : r.name = u.fullName id
  enum : r.kind = .enum ↔ u.isEnumeration id = true
  struct : r.kind = .struct → u.isBuiltin id = false

/-- A definition is what a reference to its class promised. An enumeration that is marked as a
union is the exception: it is described by a struct. -/
structure Fulfils (u : Universe) (id : ClassId) (r : Signature) (d : Definition) : Prop where
  name : d.name = r.name
  struct : r.kind = .struct → ∃ s, d = .struct s
  enum : r.kind = .enum → ¬ u.MarkedUnion id → ∃ e, d = .enum e
  marked : r.kind = .enum → u.MarkedUnion id → ∃ s, d = .struct s

/-- A classified reference points at its class. -/
theorem Classified.pointsAt {r : Signature} (h : u.Classified r) : ∃ id, u.PointsAt r id := by
  cases h with
  | enum named enumeration =>
    exact ⟨_, rfl, mem_allClasses_of_fullName named, rfl, iff_of_true rfl enumeration, nofun⟩
  | struct named plain defined =>
    exact ⟨_, rfl, mem_allClasses_of_fullName named, rfl,
      iff_of_false nofun (Bool.eq_false_iff.1 plain), fun _ => defined⟩

/-- Whatever a resolver answers for the class of a reference is what the reference promised. The
cases are those of the answer: to decline one the class would have to be builtin, which the class
of a struct is not, and no enumeration is declined. -/
theorem PointsAt.fulfils {r : Signature} {id : ClassId} {answer : Option Definition}
    (hr : u.PointsAt r id) (hnamed : r.kind = .struct ∨ r.kind = .enum)
    (h : u.Answered id answer) : ∃ d, answer = some d ∧ u.Fulfils id r d := by
  have hmarks : (u.polymorphism? id).isSome = true ↔ u.MarkedUnion id := polymorphism?_isSome_iff
  cases h with
  | declined unmarked plain builtin =>
    rcases hnamed with hkind | hkind
    · rw [hr.struct hkind] at builtin
      cases builtin
    · rw [hr.enum.1 hkind] at plain
      cases plain
  | @enum e unmarked enumeration name =>
    have hkind : r.kind = .enum := hr.enum.2 enumeration
    have hunmarked : ¬ u.MarkedUnion id := by
      rw [← hmarks, unmarked]
      nofun
    exact ⟨.enum e, rfl, name.trans hr.name.symm, fun hstruct => by simp [hkind] at hstruct,
      fun _ _ => ⟨e, rfl⟩, fun _ hmarked => absurd hmarked hunmarked⟩
  | @struct s subject name fields subtypes named =>
    refine ⟨.struct s, rfl, name.trans hr.name.symm, fun _ => ⟨s, rfl⟩, ?_, fun _ _ => ⟨s, rfl⟩⟩
    intro hkind hunmarked
    rcases subject with hmarked | ⟨hplain, -⟩
    · exact absurd (hmarks.1 hmarked) hunmarked
    · rw [hr.enum.1 hkind] at hplain
      cases hplain

end Universe

/-- The signatures that point at a definition are those of structs and enums. -/
theorem Signature.isNamed_iff {s : Signature} :
    s.isNamed = true ↔ s.kind = .struct ∨ s.kind = .enum := by
  cases s <;> simp [isNamed, kind]

/-- **Signatures and resolvers agree about every class.** Each struct and enum inside the signature
of an annotation points at a class, and whatever the default resolver answers for that class is
the definition which the signature promised. -/
theorem signature_fulfilled_by_resolver {u : Universe} {a : Annotation} {s : Signature}
    (h : a.toSignature u = .ok s) :
    ∀ r ∈ s.nodes, r.kind = .struct ∨ r.kind = .enum →
      ∃ id, u.PointsAt r id ∧
        ∀ answer, (Resolver.default.resolve u (.cls id)).outcome = .ok answer →
          ∃ d, answer = some d ∧ u.Fulfils id r d := by
  intro r hr hnamed
  have hreference : r ∈ s.references := List.mem_filter.2 ⟨hr, Signature.isNamed_iff.2 hnamed⟩
  have hclassified : u.Classified r := Annotation.grounded_toSignature a s h r hreference
  obtain ⟨id, hid⟩ := hclassified.pointsAt
  exact ⟨id, hid, fun answer hanswer =>
    hid.fulfils hnamed (Universe.answered_of_resolve hanswer)⟩

/-! ## A drawing

Colours, shapes and circles. Shapes are an enumeration that is marked as a union of circles. -/

/-- The classes of the drawing. -/
def drawingClasses : Universe where
  classes := [
    { name := "Color", module := "m", qualname := "Color"
      kind := .enumeration none [("RED", .int 1)] },
    { name := "Shape", module := "m", qualname := "Shape"
      kind := .enumeration none [("ROUND", .int 1)]
      typeProperty := some "kind", subtypes := some [("round", .declared 2)] },
    { name := "Circle", module := "m", qualname := "Circle", kind := .dataclass
      fields := [{ name := "radius", type := .cls (.standard (.builtin "int")) }] }]

/-- Lists of circles by shape, which may be missing, for one colour. -/
def drawing : Annotation :=
  .applied (.cls (.standard (.builtin "dict"))) [
    .literal [.member (.declared 0) "RED"],
    .union [
      .applied (.cls (.standard (.builtin "dict"))) [
        .annotated (.declared 1) [.text "by shape"],
        .applied (.cls (.standard (.builtin "list"))) [.declared 2]],
      .noneClass]]

/-- The signature of the drawing. -/
def drawingSignature : Signature :=
  .mapOf (.enum "m.Color" (some (.declared 0)))
    (.mapOf (.enum "m.Shape" (some (.declared 1)))
      (.listOf (.struct "m.Circle" (some (.declared 2)))))

/-- The subtypes of a shape. -/
def shapeSubtypes : List Signature := [.struct "m.Circle" (some (.declared 2))]

theorem shapeSubtypes_ne_nil : shapeSubtypes ≠ [] := List.cons_ne_nil _ _

theorem shapeProperty_ne_empty : "kind" ≠ "" := by decide

/-- What the classes of the drawing are described by. -/
def drawingDefinitions : List Definition := [
  .enum { name := "m.Color", values := [{ name := "RED", intValue := some 1 }] },
  .struct
    { name := "m.Shape"
      union := some ⟨shapeSubtypes, ⟨"kind", shapeProperty_ne_empty⟩, shapeSubtypes_ne_nil⟩ },
  .struct
    { name := "m.Circle"
      fields := [{ name := "radius", type := .base "int", requirement := .required }] }]

/-- Every class of the drawing is described as its signature promised: the colours by an enum, the
shapes, which are marked, and the circles by structs. -/
theorem drawing_fulfilled :
    drawing.toSignature drawingClasses = .ok drawingSignature ∧
    (∀ r ∈ drawingSignature.nodes, r.kind = .struct ∨ r.kind = .enum →
      ∃ id, drawingClasses.PointsAt r id ∧
        ∀ answer, (Resolver.default.resolve drawingClasses (.cls id)).outcome = .ok answer →
          ∃ d, answer = some d ∧ drawingClasses.Fulfils id r d) ∧
    drawingSignature.references.map Signature.descriptor =
      [some (.declared 0), some (.declared 1), some (.declared 2)] ∧
    ([.declared 0, .declared 1, .declared 2] : List ClassId).map
        (fun id => (Resolver.default.resolve drawingClasses (.cls id)).outcome)
      = drawingDefinitions.map fun d => .ok (some d) := by
  have hsignature : drawing.toSignature drawingClasses = .ok drawingSignature := by
    decide +kernel
  exact ⟨hsignature, signature_fulfilled_by_resolver hsignature, by decide, by decide +kernel⟩

end ServiceSchema

/-
What the check of references covers, and what it overlooks.

A type that names a struct or an enum can stand in a field of a struct or an exception,
among the subtypes of one, or in a parameter. The check looks into all fields and
parameters, but not at the subtypes of exceptions, and of a subtype of a struct it looks at
the name alone: neither at what it is taken for nor into its parameters. A specification
without unresolved references therefore defines whatever it refers to exactly if it defines
what was overlooked.
-/
import ServiceSchema.Proofs.References

set_option autoImplicit false

namespace ServiceSchema

namespace Specification

/-! ## The places of references -/

/-- The types that name a definition, at any depth of a type that a specification mentions. -/
inductive Refers (spec : Specification) : Signature → Prop
  | structField {st : Struct} {f : Field} {s : Signature} (declared : st ∈ spec.structs)
      (listed : f ∈ st.fields) (inside : s ∈ f.type.references) : Refers spec s
  | structSubtype {st : Struct} {subtype s : Signature} (declared : st ∈ spec.structs)
      (listed : subtype ∈ st.oneOf) (inside : s ∈ subtype.references) : Refers spec s
  | exceptionField {st : Struct} {f : Field} {s : Signature} (declared : st ∈ spec.exceptions)
      (listed : f ∈ st.fields) (inside : s ∈ f.type.references) : Refers spec s
  | exceptionSubtype {st : Struct} {subtype s : Signature} (declared : st ∈ spec.exceptions)
      (listed : subtype ∈ st.oneOf) (inside : s ∈ subtype.references) : Refers spec s
  | parameter {m : Method} {f : Field} {s : Signature} (declared : m ∈ spec.methods)
      (listed : f ∈ m.parameters) (inside : s ∈ f.type.references) : Refers spec s

/-- A definition of the name and kind of a type. -/
def Defines (spec : Specification) (s : Signature) : Prop :=
  match s.kind with
  | .struct => ∃ st ∈ spec.structs, st.name = s.name
  | .enum => ∃ e ∈ spec.enums, e.name = s.name
  | _ => False

/-- The references that the check does not compare with the definitions: those among the subtypes
of exceptions, and those of a subtype of a struct that is not itself the name of a struct. -/
inductive Overlooked (spec : Specification) : Signature → Prop
  | exceptionSubtype {st : Struct} {subtype s : Signature} (declared : st ∈ spec.exceptions)
      (listed : subtype ∈ st.oneOf) (inside : s ∈ subtype.references) : Overlooked spec s
  | structSubtype {st : Struct} {subtype s : Signature} (declared : st ∈ spec.structs)
      (listed : subtype ∈ st.oneOf) (other : subtype.kind ≠ .struct)
      (inside : s ∈ subtype.references) : Overlooked spec s

variable {spec : Specification} {s : Signature}

theorem Overlooked.refers (h : spec.Overlooked s) : spec.Refers s := by
  cases h with
  | exceptionSubtype declared listed inside => exact .exceptionSubtype declared listed inside
  | structSubtype declared listed _ inside => exact .structSubtype declared listed inside

/-! ## What the check establishes -/

/-- A name that is looked up as the kind that a type takes it for is defined as that kind. -/
theorem defines_of_kindOf? (h : spec.kindOf? s.name = some s.kind) : spec.Defines s := by
  unfold Defines
  rcases kindOf?_struct_or_enum h with hkind | hkind
  · rw [hkind] at h ⊢
    exact kindOf?_eq_struct.1 h
  · rw [hkind] at h ⊢
    exact (kindOf?_eq_enum.1 h).2

/-- What stands inside the fields of an owner is defined if none of it is unresolved. -/
theorem defines_of_field (owner : String) {fields : List Field} {f : Field}
    (h : ∀ r, r ∉ spec.unresolvedIn owner fields) (hf : f ∈ fields)
    (hs : s ∈ f.type.references) : spec.Defines s :=
  defines_of_kindOf? (kindOf?_of_unresolvedIn_eq_nil h hf hs)

/-- A type that is taken for a struct refers to itself alone. -/
theorem eq_of_mem_references {subtype : Signature} (hkind : subtype.kind = .struct)
    (hs : s ∈ subtype.references) : s = subtype := by
  cases subtype with
  | struct name descriptor => exact List.mem_singleton.1 hs
  | _ => cases hkind

/-- A subtype that is taken for a struct is one if no subtype is unresolved. -/
theorem defines_of_subtype (st : Struct) {subtype : Signature}
    (h : ∀ r, r ∉ spec.unresolvedSubtypes st) (hlisted : subtype ∈ st.oneOf)
    (hkind : subtype.kind = .struct) (hs : s ∈ subtype.references) : spec.Defines s := by
  obtain rfl := eq_of_mem_references hkind hs
  obtain ⟨index, hindex⟩ := List.mem_iff_getElem?.1 hlisted
  apply defines_of_kindOf?
  rw [hkind]
  exact kindOf?_of_unresolvedSubtypes_eq_nil h hindex

/-- **Every reference of a specification without unresolved references is defined or was
overlooked.** There is one case for each place of a reference. -/
theorem defines_or_overlooked (h : spec.unresolvedReferences = []) (hs : spec.Refers s) :
    spec.Defines s ∨ spec.Overlooked s := by
  have hnone : ∀ r, r ∉ spec.unresolvedReferences := by
    intro r
    rw [h]
    exact List.not_mem_nil
  cases hs with
  | @structField st f _ declared listed inside =>
    refine .inl (defines_of_field st.name ?_ listed inside)
    intro r hr
    exact hnone r (mem_unresolvedReferences.2 (.inl ⟨st, declared, hr⟩))
  | @structSubtype st subtype _ declared listed inside =>
    by_cases hkind : subtype.kind = .struct
    · refine .inl (defines_of_subtype st ?_ listed hkind inside)
      intro r hr
      exact hnone r (mem_unresolvedReferences.2 (.inr (.inl ⟨st, declared, hr⟩)))
    -- the name of any other subtype is still looked up, but as that of a struct
    · exact .inr (.structSubtype declared listed hkind inside)
  | @exceptionField st f _ declared listed inside =>
    refine .inl (defines_of_field st.name ?_ listed inside)
    intro r hr
    exact hnone r (mem_unresolvedReferences.2 (.inr (.inr (.inl ⟨st, declared, hr⟩))))
  | exceptionSubtype declared listed inside => exact .inr (.exceptionSubtype declared listed inside)
  | @parameter m f _ declared listed inside =>
    refine .inl (defines_of_field m.id ?_ listed inside)
    intro r hr
    exact hnone r (mem_unresolvedReferences.2 (.inr (.inr (.inr ⟨m, declared, hr⟩))))

/-- **When the check is complete**: a specification without unresolved references defines whatever
it refers to, as the kind that it is taken for, exactly if it defines what the check overlooks. -/
theorem references_complete_iff (spec : Specification) (h : spec.unresolvedReferences = []) :
    (∀ s, spec.Refers s → spec.Defines s) ↔ ∀ s, spec.Overlooked s → spec.Defines s := by
  constructor
  · intro hall s hs
    exact hall s hs.refers
  · intro hoverlooked s hs
    rcases defines_or_overlooked h hs with hdefined | hs
    · exact hdefined
    · exact hoverlooked s hs

/-! ## A shelter

References at every place; the subtype of the exception is defined nowhere. -/

theorem shelterSubtypes_ne_nil : [Signature.struct "Dog" none] ≠ [] := by
  decide

theorem shelterProperty_ne_empty : "species" ≠ "" := by
  decide

theorem refusalSubtypes_ne_nil : [Signature.struct "Closed" none] ≠ [] := by
  decide

/-- A shelter that takes in animals, unless it refuses. -/
def shelter : Specification where
  services := [
    { name := "Shelter"
      methods := [
        { service := "Shelter", name := "admit", returnType := some (.base "void")
          parameters := [{ name := "animals", type := .listOf (.struct "Animal" none) }] }] }]
  structs := [
    { name := "Animal"
      union := some
        ⟨[.struct "Dog" none], ⟨"species", shelterProperty_ne_empty⟩, shelterSubtypes_ne_nil⟩ },
    { name := "Dog"
      fields := [
        { name := "colors", type := .mapOf (.base "string") (.listOf (.enum "Color" none)) }] }]
  enums := [{ name := "Color", values := [{ name := "BLACK" }, { name := "WHITE" }] }]
  exceptions := [
    { name := "Refusal"
      fields := [{ name := "animal", type := .struct "Animal" none }]
      union := some ⟨[.struct "Closed" none], ⟨"reason", by decide⟩, refusalSubtypes_ne_nil⟩ }]

/-- The shelter has no unresolved references, so all depends on what was overlooked. -/
theorem shelter_complete_iff :
    shelter.unresolvedReferences = [] ∧
    ((∀ s, shelter.Refers s → shelter.Defines s) ↔
      ∀ s, shelter.Overlooked s → shelter.Defines s) := by
  have hnone : shelter.unresolvedReferences = [] := by decide
  exact ⟨hnone, references_complete_iff shelter hnone⟩

/-- The check of the shelter finds nothing, although it refers to a struct that is not defined. -/
theorem shelter_incomplete :
    shelter.unresolvedReferences = [] ∧
    ∃ s, shelter.Refers s ∧ s.kind = .struct ∧ ¬ shelter.Defines s := by
  refine ⟨by decide, .struct "Closed" none, ?_, rfl, ?_⟩
  · exact .exceptionSubtype List.mem_cons_self List.mem_cons_self List.mem_cons_self
  · simp [Defines, Signature.kind, Signature.name, shelter]

end Specification

end ServiceSchema

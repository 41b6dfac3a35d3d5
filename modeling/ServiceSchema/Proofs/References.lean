/-
What the referential checks of a specification say.

Each check is a list that is empty exactly when nothing is wrong. The lemmas here turn
membership in these lists into statements on the specification: which struct, exception
or method refers to which name, and as what. A struct wins over an enum of the same
name, so a name counts as an enum only if no struct has it.
-/
import Mathlib.Data.List.Nodup
import ServiceSchema.Schema.Generate

set_option autoImplicit false

namespace ServiceSchema

/-! ## References of a signature -/

theorem Signature.mem_references {r s : Signature} :
    r ∈ s.references ↔ r ∈ s.nodes ∧ r.isNamed = true := by
  rw [references, List.mem_filter]

theorem Signature.self_mem_nodes (s : Signature) : s ∈ s.nodes := by
  cases s <;> simp [nodes]

namespace Specification

variable {spec : Specification}

/-! ## What a name is defined as -/

/-- A name is a struct exactly if a struct has it. -/
theorem kindOf?_eq_struct {name : String} :
    spec.kindOf? name = some .struct ↔ ∃ s ∈ spec.structs, s.name = name := by
  unfold kindOf?
  split
  · next h => simpa using h
  · next h =>
    have hnone : ¬ ∃ s ∈ spec.structs, s.name = name := by simpa using h
    split <;> simp [hnone]

/-- A name is an enum exactly if an enum has it and no struct. Structs are looked through first,
so an enum that shares its name with a struct is not found. -/
theorem kindOf?_eq_enum {name : String} :
    spec.kindOf? name = some .enum ↔
      (∀ s ∈ spec.structs, s.name ≠ name) ∧ ∃ e ∈ spec.enums, e.name = name := by
  unfold kindOf?
  split
  · next h =>
    have hsome : ∃ s ∈ spec.structs, s.name = name := by simpa using h
    obtain ⟨s, hs, hname⟩ := hsome
    constructor
    · intro hkind
      cases hkind
    · rintro ⟨hnone, -⟩
      exact absurd hname (hnone s hs)
  · next h =>
    have hnone : ∀ s ∈ spec.structs, s.name ≠ name := by simpa using h
    split
    · next he =>
      have hsome : ∃ e ∈ spec.enums, e.name = name := by simpa using he
      exact ⟨fun _ => ⟨hnone, hsome⟩, fun _ => rfl⟩
    · next he =>
      have hnoEnum : ¬ ∃ e ∈ spec.enums, e.name = name := by simpa using he
      simp [hnoEnum]

theorem kindOf?_struct_or_enum {name : String} {kind : Kind} (h : spec.kindOf? name = some kind) :
    kind = .struct ∨ kind = .enum := by
  unfold kindOf? at h
  split at h
  · exact .inl (Option.some.inj h).symm
  · split at h
    · exact .inr (Option.some.inj h).symm
    · cases h

/-! ## Unresolved references -/

/-- An unresolved reference of an owner stands in one of its fields, at any depth. -/
theorem mem_unresolvedIn {owner : String} {fields : List Field} {r : UnresolvedReference} :
    r ∈ spec.unresolvedIn owner fields ↔
      ∃ f ∈ fields, ∃ s ∈ f.type.references,
        spec.kindOf? s.name ≠ some s.kind ∧ r = ⟨owner, f.name, s.name, s.kind⟩ := by
  simp only [unresolvedIn, List.mem_flatMap, List.mem_map, List.mem_filter, bne_iff_ne, ne_eq]
  constructor
  · rintro ⟨f, hf, s, ⟨hs, hkind⟩, rfl⟩
    exact ⟨f, hf, s, hs, hkind, rfl⟩
  · rintro ⟨f, hf, s, hs, hkind, rfl⟩
    exact ⟨f, hf, s, ⟨hs, hkind⟩, rfl⟩

/-- An unresolved subtype is one that no struct defines. -/
theorem mem_unresolvedSubtypes {struct : Struct} {r : UnresolvedReference} :
    r ∈ spec.unresolvedSubtypes struct ↔
      ∃ (index : Nat) (s : Signature), struct.oneOf[index]? = some s ∧
        spec.kindOf? s.name ≠ some .struct ∧
        r = ⟨struct.name, "oneOf[" ++ Nat.repr index ++ "]", s.name, s.kind⟩ := by
  simp only [unresolvedSubtypes, List.mem_map, List.mem_filter, Prod.exists, bne_iff_ne, ne_eq,
    List.mem_zipIdx_iff_getElem?]
  constructor
  · rintro ⟨s, index, ⟨hs, hkind⟩, rfl⟩
    exact ⟨index, s, hs, hkind, rfl⟩
  · rintro ⟨index, s, hs, hkind, rfl⟩
    exact ⟨s, index, ⟨hs, hkind⟩, rfl⟩

/-- The unresolved references of a specification are those of its structs with their
subtypes, of its exceptions and of its methods. -/
theorem mem_unresolvedReferences {r : UnresolvedReference} :
    r ∈ spec.unresolvedReferences ↔
      (∃ s ∈ spec.structs, r ∈ spec.unresolvedIn s.name s.fields) ∨
      (∃ s ∈ spec.structs, r ∈ spec.unresolvedSubtypes s) ∨
      (∃ s ∈ spec.exceptions, r ∈ spec.unresolvedIn s.name s.fields) ∨
      (∃ m ∈ spec.methods, r ∈ spec.unresolvedIn m.id m.parameters) := by
  simp only [unresolvedReferences, List.mem_append, List.mem_flatMap]
  constructor
  · rintro ((⟨s, hs, hr | hr⟩ | h) | h)
    · exact .inl ⟨s, hs, hr⟩
    · exact .inr (.inl ⟨s, hs, hr⟩)
    · exact .inr (.inr (.inl h))
    · exact .inr (.inr (.inr h))
  · rintro (⟨s, hs, hr⟩ | ⟨s, hs, hr⟩ | h | h)
    · exact .inl (.inl ⟨s, hs, .inl hr⟩)
    · exact .inl (.inl ⟨s, hs, .inr hr⟩)
    · exact .inl (.inr h)
    · exact .inr h

/-- Where nothing is unresolved in the fields of an owner, every type inside them that
names a definition names one of its own kind. -/
theorem kindOf?_of_unresolvedIn_eq_nil {owner : String} {fields : List Field}
    (h : ∀ r, r ∉ spec.unresolvedIn owner fields) {f : Field} (hf : f ∈ fields) {s : Signature}
    (hs : s ∈ f.type.references) : spec.kindOf? s.name = some s.kind := by
  by_contra hkind
  exact h _ (mem_unresolvedIn.2 ⟨f, hf, s, hs, hkind, rfl⟩)

/-- Where no subtype of a struct is unresolved, each of them is a struct. -/
theorem kindOf?_of_unresolvedSubtypes_eq_nil {struct : Struct}
    (h : ∀ r, r ∉ spec.unresolvedSubtypes struct) {index : Nat} {s : Signature}
    (hs : struct.oneOf[index]? = some s) : spec.kindOf? s.name = some .struct := by
  by_contra hkind
  exact h _ (mem_unresolvedSubtypes.2 ⟨index, s, hs, hkind, rfl⟩)

/-! ## Duplicate names -/

/-- No name is listed as defined twice exactly if all names are different. -/
theorem duplicateNames_eq_nil : spec.duplicateNames = [] ↔ spec.definedNames.Nodup := by
  simp only [duplicateNames, List.filter_eq_nil_iff, List.mem_eraseDups, decide_eq_true_eq,
    Nat.not_lt]
  rw [List.nodup_iff_count_le_one]
  constructor
  -- the check counts only names that occur; the others occur no time
  · intro h name
    by_cases hmem : name ∈ spec.definedNames
    · exact h name hmem
    · rw [List.count_eq_zero_of_not_mem hmem]
      exact Nat.zero_le 1
  · intro h name _
    exact h name

/-! ## The whole check -/

/-- A specification is accepted exactly if both lists of defects are empty. -/
theorem validate_eq_ok :
    spec.validate = .ok () ↔ spec.unresolvedReferences = [] ∧ spec.duplicateNames = [] := by
  unfold validate
  dsimp only
  split
  · next h =>
    simp only [Bool.and_eq_true, List.isEmpty_iff] at h
    exact ⟨fun _ => h, fun _ => rfl⟩
  · next h =>
    simp only [Bool.and_eq_true, List.isEmpty_iff] at h
    constructor
    · intro hok
      cases hok
    · intro hnil
      exact absurd hnil h

end Specification

/-- Strict generation yields the documents of lenient generation, or nothing. -/
theorem Schema.generateStrict_eq_ok {spec : Specification}
    {docs : List (MethodDocument Definitions)} :
    generateStrict spec = .ok docs ↔ spec.validate = .ok () ∧ docs = generate spec := by
  simp only [generateStrict, bind, Except.bind, pure, Except.pure]
  cases spec.validate with
  | error e => simp
  | ok _ => simp [eq_comm]

end ServiceSchema

/-
Which references of a specification of classes are resolved.

Annotations say of every class whether it is a struct or an enum, and the definition that the
search collects for the class says so too. They can disagree in one case: an enumeration that
is marked as a union is referred to as an enum and described by a struct. Subtypes are taken
for structs without a look at their classes, so they are not resolved where the class is an
enumeration or has no definition. All other references are resolved, and since the search
collects each name once, strict generation accepts the specification.
-/
import ServiceSchema.Proofs.Reachability
import ServiceSchema.Proofs.References

set_option autoImplicit false

namespace ServiceSchema

namespace Specification

variable {spec : Specification}

theorem definedNames_eq : spec.definedNames = spec.definitions.map Definition.name := by
  simp [definedNames, definitions, Function.comp_def, Definition.name]

theorem kindOf?_of_struct {st : Struct} (h : .struct st ∈ spec.definitions) :
    spec.kindOf? st.name = some .struct :=
  kindOf?_eq_struct.2 ⟨st, mem_structs.2 h, rfl⟩

theorem kindOf?_of_enum (hnames : (spec.definitions.map Definition.name).Nodup)
    {e : Enumeration} (h : .enum e ∈ spec.definitions) : spec.kindOf? e.name = some .enum := by
  refine kindOf?_eq_enum.2 ⟨?_, e, mem_enums.2 h, rfl⟩
  intro st hst hname
  cases List.inj_on_of_nodup_map hnames (mem_structs.1 hst) h hname

end Specification

/-! ## Exceptions to the rule -/

/-- An enumeration that is marked as a union. -/
def Universe.MarkedEnumeration (u : Universe) (id : ClassId) : Prop :=
  u.isEnumeration id = true ∧ (u.polymorphism? id).isSome = true

/-- A class that is no struct although it is listed as a subtype: an enumeration, or builtin. -/
def Universe.UnfitSubtype (u : Universe) (id : ClassId) : Prop :=
  u.isEnumeration id = true ∨ u.isBuiltin id = true

instance (u : Universe) (id : ClassId) : Decidable (u.MarkedEnumeration id) :=
  inferInstanceAs (Decidable (_ ∧ _))

instance (u : Universe) (id : ClassId) : Decidable (u.UnfitSubtype id) :=
  inferInstanceAs (Decidable (_ ∨ _))

/-- The references that a specification of classes may leave unresolved. -/
inductive Universe.Excused (u : Universe) (services : List Service)
    (exceptions : List Annotation) : UnresolvedReference → Prop where
  /-- An unfit subtype of a reachable class, under its position among the subtypes. -/
  | subtype {c subtype : ClassId} {index : Nat} (reached : u.Reachable services exceptions c)
      (listed : (u.subtypeClasses c)[index]? = some subtype) (unfit : u.UnfitSubtype subtype) :
      Excused u services exceptions
        ⟨u.fullName c, "oneOf[" ++ Nat.repr index ++ "]", u.fullName subtype, .struct⟩
  /-- A reference as an enum to a reachable enumeration that is marked as a union. -/
  | marked {c : ClassId} {owner field : String} (reached : u.Reachable services exceptions c)
      (enumeration : u.MarkedEnumeration c) :
      Excused u services exceptions ⟨owner, field, u.fullName c, .enum⟩

namespace Search

variable {u : Universe} {services : List Service} {exceptions : List Annotation}
variable {answers : List (Option Definition)} {taken : List Signature} {spec : Specification}

theorem reachable_of_mentioned (h : Search u services exceptions answers taken spec)
    (hdistinct : u.DistinctNames) {r : Signature} {id : ClassId}
    (hr : Mentioned u services answers taken r) (hid : r.descriptor = some id) :
    u.Reachable services exceptions id :=
  (h.reachable_iff hdistinct).2 (h.class_taken hdistinct hr hid)

/-- The class behind a mention is resolved, and its definition is collected. -/
theorem answered_of_mentioned (h : Search u services exceptions answers taken spec)
    (hdistinct : u.DistinctNames) {r : Signature} {id : ClassId}
    (hr : Mentioned u services answers taken r) (hid : r.descriptor = some id) :
    ∃ answer, u.Answered id answer ∧ ∀ d, answer = some d → d ∈ spec.definitions := by
  have hreach := h.reachable_of_mentioned hdistinct hr hid
  obtain ⟨answer, hresolve⟩ := h.resolves_of_reachable hdistinct hreach
  refine ⟨answer, Universe.answered_of_resolve hresolve, ?_⟩
  rintro d rfl
  exact (h.mem_definitions_iff hdistinct d).2 ⟨id, hreach, hresolve⟩

/-- **A classified reference is resolved**, unless it is to an enumeration that is marked as a
union. -/
theorem kindOf?_of_classified (h : Search u services exceptions answers taken spec)
    (hdistinct : u.DistinctNames) {r : Signature} (hr : Mentioned u services answers taken r)
    (hclassified : u.Classified r) :
    spec.kindOf? r.name = some r.kind ∨
      ∃ c, u.Reachable services exceptions c ∧ u.MarkedEnumeration c ∧
        r.name = u.fullName c ∧ r.kind = .enum := by
  cases hclassified with
  -- of the three kinds of answers for an enumeration a struct is the one that disagrees
  | @enum id named enumeration =>
    obtain ⟨answer, hanswered, hmem⟩ := h.answered_of_mentioned hdistinct hr rfl
    cases hanswered with
    | declined _ plain _ =>
      rw [enumeration] at plain
      cases plain
    | @enum e _ _ name =>
      have hkind := Specification.kindOf?_of_enum h.names_nodup (hmem _ rfl)
      exact .inl (name ▸ hkind)
    | struct subject _ _ _ _ =>
      rcases subject with marked | ⟨plain, -⟩
      · exact .inr ⟨id, h.reachable_of_mentioned hdistinct hr rfl, ⟨enumeration, marked⟩, rfl, rfl⟩
      · rw [enumeration] at plain
        cases plain
  | @struct id named plain defined =>
    obtain ⟨answer, hanswered, hmem⟩ := h.answered_of_mentioned hdistinct hr rfl
    cases hanswered with
    | declined _ _ builtin =>
      rw [defined] at builtin
      cases builtin
    | enum _ enumeration _ =>
      rw [plain] at enumeration
      cases enumeration
    | @struct st _ name _ _ _ =>
      have hkind := Specification.kindOf?_of_struct (hmem _ rfl)
      exact .inl (name ▸ hkind)

theorem kindOf?_of_subtype (h : Search u services exceptions answers taken spec)
    (hdistinct : u.DistinctNames) {c : ClassId}
    (hr : Mentioned u services answers taken (.struct (u.fullName c) (some c)))
    (hfit : ¬ u.UnfitSubtype c) : spec.kindOf? (u.fullName c) = some .struct := by
  obtain ⟨answer, hanswered, hmem⟩ := h.answered_of_mentioned hdistinct hr rfl
  cases hanswered with
  | declined _ _ builtin => exact absurd (.inr builtin) hfit
  | enum _ enumeration _ => exact absurd (.inl enumeration) hfit
  | struct _ name _ _ _ => exact name ▸ Specification.kindOf?_of_struct (hmem _ rfl)

/-- A collected struct describes a reachable class, and all that it mentions is mentioned. -/
theorem exists_class_of_struct (h : Search u services exceptions answers taken spec)
    (hdistinct : u.DistinctNames) {st : Struct} (hst : st ∈ spec.structs) :
    ∃ c, u.Reachable services exceptions c ∧ u.Answered c (some (.struct st)) ∧
      ∀ s ∈ st.signatures, ∀ r ∈ s.references, Mentioned u services answers taken r := by
  obtain ⟨s, hs, hd⟩ := h.mem_definitions.1 (Specification.mem_structs.1 hst)
  obtain ⟨c, hc, -, hresolve⟩ := h.resolved s hs
  rw [hd] at hresolve
  refine ⟨c, (h.reachable_iff hdistinct).2 ⟨s, hs, hc⟩, Universe.answered_of_resolve hresolve, ?_⟩
  intro signature hsignature r hr
  refine .inr ⟨s, hs, ?_⟩
  rw [Universe.successors_of_resolve hc hresolve]
  exact List.mem_flatMap.2 ⟨signature, hsignature, hr⟩

/-- What is unresolved in fields whose types are grounded and mentioned is excused. -/
theorem excused_of_field (h : Search u services exceptions answers taken spec)
    (hdistinct : u.DistinctNames) {owner : String} {fields : List Field}
    (hfields : ∀ f ∈ fields, u.Grounded f.type ∧
      ∀ r ∈ f.type.references, Mentioned u services answers taken r)
    {r : UnresolvedReference} (hr : r ∈ spec.unresolvedIn owner fields) :
    u.Excused services exceptions r := by
  obtain ⟨f, hf, s, hs, hkind, rfl⟩ := Specification.mem_unresolvedIn.1 hr
  obtain ⟨hgrounded, hmentioned⟩ := hfields f hf
  rcases h.kindOf?_of_classified hdistinct (hmentioned s hs) (hgrounded s hs) with
    hresolved | ⟨c, hreach, hmarked, hname, henum⟩
  · exact absurd hresolved hkind
  · rw [hname, henum]
    exact .marked hreach hmarked

/-- What is unresolved among the subtypes of a collected struct is excused. -/
theorem excused_of_subtype (h : Search u services exceptions answers taken spec)
    (hdistinct : u.DistinctNames) {st : Struct} (hst : st ∈ spec.structs)
    {r : UnresolvedReference} (hr : r ∈ spec.unresolvedSubtypes st) :
    u.Excused services exceptions r := by
  obtain ⟨index, s, hs, hkind, rfl⟩ := Specification.mem_unresolvedSubtypes.1 hr
  obtain ⟨c, hreach, hanswered, hmentioned⟩ := h.exists_class_of_struct hdistinct hst
  cases hanswered with
  | struct _ name _ subtypes _ =>
    have hmem : s ∈ st.signatures := List.mem_append_right _ (List.mem_of_getElem? hs)
    rw [subtypes, List.getElem?_map, Option.map_eq_some_iff] at hs
    obtain ⟨subtype, hsubtype, rfl⟩ := hs
    rw [name]
    refine .subtype hreach hsubtype ?_
    by_contra hfit
    exact hkind (h.kindOf?_of_subtype hdistinct
      (hmentioned _ hmem _ (List.mem_singleton_self _)) hfit)

/-- **What is unresolved is excused.** -/
theorem excused_of_unresolved (h : Search u services exceptions answers taken spec)
    (hdistinct : u.DistinctNames) {r : UnresolvedReference}
    (hr : r ∈ spec.unresolvedReferences) : u.Excused services exceptions r := by
  rcases Specification.mem_unresolvedReferences.1 hr with
    ⟨st, hst, hr⟩ | ⟨st, hst, hr⟩ | ⟨st, hst, hr⟩ | ⟨m, hm, hr⟩
  -- a field of a collected struct
  · obtain ⟨c, -, hanswered, hmentioned⟩ := h.exists_class_of_struct hdistinct hst
    refine h.excused_of_field hdistinct ?_ hr
    intro f hf
    cases hanswered with
    | struct _ _ fields _ _ =>
      exact ⟨fields f hf, hmentioned _ (List.mem_append_left _ (List.mem_map_of_mem hf))⟩
  · exact h.excused_of_subtype hdistinct hst hr
  -- a field of an exception, which is a root of the search and need not be collected itself
  · rw [h.assembled] at hst
    obtain ⟨c, -, hresolve⟩ := exists_class_of_answeredStructs h.answered hst
    refine h.excused_of_field hdistinct ?_ hr
    intro f hf
    cases Universe.answered_of_resolve hresolve with
    | struct _ _ fields _ _ =>
      refine ⟨fields f hf, fun r hr => .inl (mem_searchRoots.2 (.inr ⟨st, hst, ?_⟩))⟩
      exact List.mem_flatMap.2
        ⟨f.type, List.mem_append_left _ (List.mem_map_of_mem hf), hr⟩
  -- a parameter of a method
  · rw [h.assembled] at hm
    refine h.excused_of_field hdistinct ?_ hr
    intro f hf
    have hmem : f.type ∈ serviceSignatures services :=
      List.mem_flatMap.2 ⟨m, hm, List.mem_append_left _ (List.mem_map_of_mem hf)⟩
    refine ⟨h.grounded _ hmem, fun r hr => .inl (mem_searchRoots.2 (.inl ?_))⟩
    exact List.mem_flatMap.2 ⟨f.type, hmem, hr⟩

end Search

/-! ## The guarantee -/

/-- **The references of a specification of classes are resolved, and no name is defined twice.**
What can be left unresolved is the subtype of a reachable class, if it is an enumeration or
builtin, and a reference to a reachable enumeration that is marked as a union. Where there is
neither, strict generation yields the documents that lenient generation yields. -/
theorem specification_references_resolved {u : Universe} {services : List Service}
    {resolver : Option Resolver} {exceptions : List Annotation} {spec : Specification}
    (hdistinct : u.DistinctNames)
    (hservices : ∀ s ∈ services, ∃ target name, (u.service target name).outcome = .ok s)
    (hresolver : Universe.effectiveResolver resolver = Resolver.default)
    (h : (u.specification services resolver exceptions).outcome = .ok spec) :
    spec.duplicateNames = [] ∧
    (∀ r ∈ spec.unresolvedReferences, u.Excused services exceptions r) ∧
    ((∀ c, u.Reachable services exceptions c → ¬ u.MarkedEnumeration c ∧
        ∀ subtype ∈ u.subtypeClasses c, ¬ u.UnfitSubtype subtype) →
      Schema.generateStrict spec = .ok (Schema.generate spec)) := by
  obtain ⟨answers, taken, hsearch⟩ := exists_search_of_classes hservices hresolver h
  have hduplicates : spec.duplicateNames = [] := by
    rw [Specification.duplicateNames_eq_nil, Specification.definedNames_eq]
    exact hsearch.names_nodup
  refine ⟨hduplicates, fun r hr => hsearch.excused_of_unresolved hdistinct hr, ?_⟩
  intro hfine
  have hnone : spec.unresolvedReferences = [] := by
    rw [List.eq_nil_iff_forall_not_mem]
    intro r hr
    cases hsearch.excused_of_unresolved hdistinct hr with
    | subtype reached listed unfit =>
      exact (hfine _ reached).2 _ (List.mem_of_getElem? listed) unfit
    | marked reached enumeration => exact (hfine _ reached).1 enumeration
  exact Schema.generateStrict_eq_ok.2 ⟨Specification.validate_eq_ok.2 ⟨hnone, hduplicates⟩, rfl⟩

/-- No class of the zoo is excused from being resolved. -/
theorem zooClasses_fine (c : ClassId) :
    ¬ zooClasses.MarkedEnumeration c ∧
      ∀ subtype ∈ zooClasses.subtypeClasses c, ¬ zooClasses.UnfitSubtype subtype := by
  -- seven classes are declared, and no other one has any marks
  have hdeclared : ∀ index < 7, ¬ zooClasses.MarkedEnumeration (.declared index) ∧
      ∀ subtype ∈ zooClasses.subtypeClasses (.declared index),
        ¬ zooClasses.UnfitSubtype subtype := by
    decide
  have hunknown (h : zooClasses.declaration? c = none) : ¬ zooClasses.MarkedEnumeration c ∧
      ∀ subtype ∈ zooClasses.subtypeClasses c, ¬ zooClasses.UnfitSubtype subtype := by
    simp [Universe.MarkedEnumeration, Universe.subtypeClasses, Universe.isEnumeration,
      Universe.polymorphism?, h]
  cases c with
  | standard c => exact hunknown rfl
  | declared index =>
    by_cases hindex : index < 7
    · exact hdeclared index hindex
    · exact hunknown (List.getElem?_eq_none (Nat.le_of_not_lt hindex))

/-- The specification of the zoo defines no name twice, and strict generation accepts it. -/
theorem zooSpecification_references_resolved :
    (zooClasses.specification [zooService] none [.cls (.declared 4)]).outcome
      = .ok zooSpecification ∧
    zooSpecification.duplicateNames = [] ∧
    Schema.generateStrict zooSpecification = .ok (Schema.generate zooSpecification) := by
  obtain ⟨hduplicates, -, hstrict⟩ := specification_references_resolved zooClasses_distinctNames
    zooService_of_class rfl zooClasses_specification
  exact ⟨zooClasses_specification, hduplicates, hstrict fun c _ => zooClasses_fine c⟩

end ServiceSchema

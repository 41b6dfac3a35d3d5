/-
Marks that stay on their class.

A class is described as a union exactly if both marks stand on its own declaration. What its bases
or its subtypes are marked with says nothing about it: a subtype of a union is no union because of
that. The union lists the subtypes of the mark, one after another, and is otherwise what the class
would be without the marks. So the marks of other classes can be changed at will, and the answer
for a class stays what it was.
-/
import ServiceSchema.Proofs.ClassAgreement
import ServiceSchema.Proofs.Reachability
import ServiceSchema.Proofs.Unmarked

set_option autoImplicit false

namespace ServiceSchema

open Log.Traced

namespace Universe

variable {u u' : Universe} {id : ClassId}

/-! ## Marks on a class -/

/-- The marks of a union that stand on the declaration of a class: a discriminating property that
is not empty, and subtypes. -/
def MarkedAs (u : Universe) (id : ClassId) (property : String)
    (subtypes : List (String × ClassId)) : Prop :=
  ∃ c, u.declaration? id = some c ∧ c.typeProperty = some property ∧ property ≠ "" ∧
    c.subtypes = some subtypes ∧ subtypes ≠ []

theorem markedUnion_iff :
    u.MarkedUnion id ↔ ∃ property subtypes, u.MarkedAs id property subtypes := by
  constructor
  · rintro ⟨c, property, subtypes, hmarks⟩
    exact ⟨property, subtypes, c, hmarks⟩
  · rintro ⟨property, subtypes, c, hmarks⟩
    exact ⟨c, property, subtypes, hmarks⟩

theorem polymorphism?_eq_none (h : ¬ u.MarkedUnion id) : u.polymorphism? id = none := by
  rw [← polymorphism?_isSome_iff] at h
  exact Option.not_isSome_iff_eq_none.1 h

theorem polymorphism?_of_markedAs {property : String} {subtypes : List (String × ClassId)}
    (h : u.MarkedAs id property subtypes) : u.polymorphism? id = some (property, subtypes) := by
  obtain ⟨c, hdeclared, hproperty, hnonempty, hsubtypes, hlisted⟩ := h
  obtain ⟨_, _, _, _, _, _, _, _, typeProperty, marked, _, _⟩ := c
  dsimp only at hproperty hsubtypes
  subst hproperty hsubtypes
  have hkept : ¬ (property = "" || subtypes.isEmpty) = true := by
    simp [hnonempty, hlisted]
  simp only [polymorphism?, hdeclared]
  exact if_neg hkept

/-! ## Unions -/

/-- A struct without subtypes needs nothing but a name. -/
theorem structural_eq_ok {fields : List Field} (hplain : u.isEnumeration id = false)
    (hdefined : u.isBuiltin id = false) (hname : u.fullName id ≠ "")
    (hfields : (u.fields id).outcome = .ok fields) :
    (u.structural id).outcome =
      .ok (some (.struct { name := u.fullName id, fields, description := u.describe id })) := by
  rw [structural, if_neg (Bool.eq_false_iff.1 hplain), if_neg (Bool.eq_false_iff.1 hdefined),
    bind_eq_ok]
  refine ⟨fields, hfields, defined_eq_ok.2 ⟨_, ?_, rfl⟩⟩
  rw [Struct.make?, if_neg hname]
  rfl

/-- A struct is the union that the marks of a class describe. Apart from its subtypes it is what
the class is described by without the marks. -/
structure UnionOf (u : Universe) (id : ClassId) (property : String)
    (subtypes : List (String × ClassId)) (s : Struct) : Prop where
  oneOf : s.oneOf = subtypes.map fun (_, subtype) => .struct (u.fullName subtype) (some subtype)
  discriminator : s.discriminator = some property
  otherwise : u.isEnumeration id = false → u.isBuiltin id = false →
    ∃ plain, (ResolverOf.resolve u (.cls id) (.single ResolverRule.structural)).outcome
        = .ok (some (.struct plain)) ∧
      s.name = plain.name ∧ s.fields = plain.fields ∧ s.description = plain.description

theorem exists_unionOf {property : String} {subtypes : List (String × ClassId)}
    {answer : Option Definition} (hmarks : u.MarkedAs id property subtypes)
    (h : (u.polymorphic id).outcome = .ok answer) :
    ∃ s, answer = some (.struct s) ∧ u.UnionOf id property subtypes s := by
  rw [polymorphic, polymorphism?_of_markedAs hmarks] at h
  dsimp only at h
  split at h
  · cases h
  · next oneOf honeOf =>
    -- all subtypes are named, so a struct is made of them and of the fields
    obtain ⟨fields, hfields, h⟩ := bind_eq_ok.1 h
    obtain ⟨s, hs, rfl⟩ := defined_eq_ok.1 h
    obtain ⟨discriminator, hmade, hs⟩ := Except.bind_eq_ok.1 hs
    obtain ⟨hname, hsname, hsfields, hsdescription, hsoneOf, hsproperty, -⟩ :=
      Struct.make?_eq_ok hs
    have hproperty : discriminator.property = property := by
      unfold Discriminator.make? at hmade
      split at hmade
      · cases hmade
      · exact Except.ok.inj hmade ▸ rfl
    refine ⟨s, rfl, ⟨?_, ?_, ?_⟩⟩
    · rw [hsoneOf, (mapM_subtypeSignature honeOf).1, List.map_map]
      rfl
    · rw [hsproperty, Option.map_some, hproperty]
    · intro hplain hdefined
      exact ⟨_, structural_eq_ok hplain hdefined hname hfields, hsname, hsfields, hsdescription⟩

/-! ## Changing other marks -/

/-- What is the same without marks is the same if only marks differ. -/
theorem eq_of_unmarked {α : Type} (read : Universe → α) (hread : ∀ u, read u.unmarked = read u)
    (h : u'.unmarked = u.unmarked) : read u' = read u := by
  rw [← hread u', h, hread u]

/-- A union is made of the marks of its class and of readings that look at none. -/
theorem polymorphic_congr (h : u'.unmarked = u.unmarked)
    (hown : u'.declaration? id = u.declaration? id) : u'.polymorphic id = u.polymorphic id := by
  have hname : u'.fullName = u.fullName :=
    eq_of_unmarked fullName (fun u => funext u.fullName_unmarked) h
  have hfields : u'.fields id = u.fields id :=
    eq_of_unmarked (fields · id) (fun u => u.fields_unmarked id) h
  have hdescription : u'.describe id = u.describe id :=
    eq_of_unmarked (describe · id) (fun u => u.describe_unmarked id) h
  simp only [polymorphic, polymorphism?, subtypeSignature, hown, hname, hfields, hdescription]

/-- The chain asks the two rules and shows the class by its name. -/
theorem resolve_default_congr (h : u'.unmarked = u.unmarked)
    (hown : u'.declaration? id = u.declaration? id) :
    Resolver.default.resolve u' (.cls id) = Resolver.default.resolve u (.cls id) := by
  have hpolymorphic : ResolverOf.resolve u' (.cls id) (.single ResolverRule.polymorphic) =
      ResolverOf.resolve u (.cls id) (.single ResolverRule.polymorphic) :=
    polymorphic_congr h hown
  have hstructural : ResolverOf.resolve u' (.cls id) (.single ResolverRule.structural) =
      ResolverOf.resolve u (.cls id) (.single ResolverRule.structural) :=
    eq_of_unmarked (structural · id) (fun u => u.structural_unmarked id) h
  have hsource : Annotation.source u' (.cls id) = Annotation.source u (.cls id) :=
    eq_of_unmarked (fun u => Annotation.source u (.cls id))
      (fun u => Annotation.source_unmarked u (.cls id)) h
  show ResolverOf.firstAnswer u' (.cls id)
      [.single ResolverRule.polymorphic, .single ResolverRule.structural] =
    ResolverOf.firstAnswer u (.cls id)
      [.single ResolverRule.polymorphic, .single ResolverRule.structural]
  simp only [ResolverOf.firstAnswer, hpolymorphic, hstructural, hsource]

/-- **Marks are local.** Where the default resolver answers for a class, the answer is a union
exactly if both marks stand on the class itself. It then lists the subtypes of the mark in their
order, and otherwise says what the structural rule says; without the marks the structural rule
decides. The marks of all other classes can be changed without a change to the answer. -/
theorem marks_are_local (u : Universe) (id : ClassId) :
    (∀ answer, (Resolver.default.resolve u (.cls id)).outcome = .ok answer →
      ((∃ s, answer = some (.struct s) ∧ s.isPolymorphic = true) ↔ u.MarkedUnion id) ∧
      (∀ property subtypes, u.MarkedAs id property subtypes →
        ∃ s, answer = some (.struct s) ∧ u.UnionOf id property subtypes s) ∧
      (¬ u.MarkedUnion id → (ResolverOf.resolve u (.cls id)
        (.single ResolverRule.structural)).outcome = .ok answer)) ∧
    ∀ u' : Universe, u'.unmarked = u.unmarked → u'.declaration? id = u.declaration? id →
      Resolver.default.resolve u' (.cls id) = Resolver.default.resolve u (.cls id) := by
  refine ⟨fun answer h => ⟨⟨?_, ?_⟩, ?_, ?_⟩, fun u' => resolve_default_congr⟩
  · rintro ⟨s, rfl, hpolymorphic⟩
    by_contra hunmarked
    -- without both marks the structural rule answers, and it lists no subtypes
    have hnone : u.polymorphism? id = none := polymorphism?_eq_none hunmarked
    have hanswered : u.Answered id (some (.struct s)) :=
      answered_structural hnone (structural_of_resolve hnone h)
    cases hanswered with
    | struct subject name fields subtypes named =>
      rw [subtypeClasses, hnone] at subtypes
      exact s.isPolymorphic_iff.1 hpolymorphic subtypes
  · intro hmarked
    obtain ⟨property, subtypes, hmarks⟩ := markedUnion_iff.1 hmarked
    obtain ⟨s, rfl, hunion⟩ := exists_unionOf hmarks
      (polymorphic_of_resolve (polymorphism?_isSome_iff.2 hmarked) h)
    refine ⟨s, rfl, s.isPolymorphic_iff.2 ?_⟩
    obtain ⟨-, -, -, -, -, hsome⟩ := hmarks
    rw [hunion.oneOf]
    simpa using hsome
  · intro property subtypes hmarks
    have hmarked : u.MarkedUnion id := markedUnion_iff.2 ⟨property, subtypes, hmarks⟩
    exact exists_unionOf hmarks (polymorphic_of_resolve (polymorphism?_isSome_iff.2 hmarked) h)
  · intro hunmarked
    exact structural_of_resolve (polymorphism?_eq_none hunmarked) h

/-! ## Cats of their own -/

/-- The zoo with the marks of a union on the cats, which are one of its subtypes. -/
def zooWithMarkedCats : Universe :=
  { zooClasses with
    classes := zooClasses.classes.modify 2 fun c =>
      { c with typeProperty := some "coat", subtypes := some [("lion", .declared 3)] } }

/-- In the zoo the animals are a union and the cats are none. With marks on the cats everything
but the cats is described as before. -/
theorem zoo_marks_are_local :
    (∃ s, (Resolver.default.resolve zooClasses (.cls (.declared 1))).outcome
        = .ok (some (.struct s)) ∧
      zooClasses.UnionOf (.declared 1) "kind" [("cat", .declared 2), ("dog", .declared 3)] s) ∧
    (∃ answer, (Resolver.default.resolve zooClasses (.cls (.declared 2))).outcome = .ok answer ∧
      (ResolverOf.resolve zooClasses (.cls (.declared 2))
        (.single ResolverRule.structural)).outcome = .ok answer) ∧
    ∀ id, id ≠ .declared 2 →
      Resolver.default.resolve zooWithMarkedCats (.cls id) =
        Resolver.default.resolve zooClasses (.cls id) := by
  have hall := resolve_zooClasses
  simp only [List.map_cons, List.map_nil, Specification.definitions, zooSpecification,
    List.cons_append, List.nil_append, List.cons.injEq, and_true] at hall
  obtain ⟨hanimal, -, hcat, -⟩ := hall
  have hmarks : zooClasses.MarkedAs (.declared 1) "kind"
      [("cat", .declared 2), ("dog", .declared 3)] :=
    ⟨_, rfl, rfl, by decide, rfl, List.cons_ne_nil _ _⟩
  have hcats : ¬ zooClasses.MarkedUnion (.declared 2) := by
    rintro ⟨c, property, subtypes, hdeclared, hproperty, -⟩
    cases hdeclared
    cases hproperty
  refine ⟨?_, ?_, ?_⟩
  · obtain ⟨s, hs, hunion⟩ :=
      ((marks_are_local zooClasses (.declared 1)).1 _ hanimal).2.1 _ _ hmarks
    exact ⟨s, hs ▸ hanimal, hunion⟩
  · exact ⟨_, hcat, ((marks_are_local zooClasses (.declared 2)).1 _ hcat).2.2 hcats⟩
  · intro id hid
    refine (marks_are_local zooClasses id).2 zooWithMarkedCats rfl ?_
    cases id with
    | standard c => rfl
    | declared index =>
      have hindex : 2 ≠ index := fun h => hid (congrArg ClassId.declared h.symm)
      exact List.getElem?_modify_ne _ _ hindex

end Universe

end ServiceSchema

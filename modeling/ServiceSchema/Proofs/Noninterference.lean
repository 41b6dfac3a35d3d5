/-
What generated documents do not depend on.

Much of a specification is never written: services are not named apart from their
methods, results and endpoints belong to the transport, and so do parameters that do
not travel in the body; a polymorphic struct shows its subtypes in place of its
fields; an array does not say which iterable it was, and a map says nothing of its
keys. `Agree` relates two specifications that differ in such parts alone. It is built
level by level, and each level has one lemma: what is generated from two sides that
agree is equal.
-/
import ServiceSchema.Proofs.Outcomes
import ServiceSchema.Proofs.StrictDocuments

set_option autoImplicit false

namespace ServiceSchema

/-! ## Agreement -/

/-- Two types that differ only in the classes they were read off, in what iterables are
called and in the keys of maps, at any depth. -/
inductive Signature.Agree : Signature → Signature → Prop
  | base (name : String) : Agree (.base name) (.base name)
  | struct (name : String) (class₁ class₂ : Option ClassId) :
      Agree (.struct name class₁) (.struct name class₂)
  | enum (name : String) (class₁ class₂ : Option ClassId) :
      Agree (.enum name class₁) (.enum name class₂)
  | iterable (name₁ name₂ : String) {element₁ element₂ : Signature}
      (element : Agree element₁ element₂) :
      Agree (.iterable name₁ element₁) (.iterable name₂ element₂)
  | map (name : String) (key₁ key₂ : Signature) {value₁ value₂ : Signature}
      (value : Agree value₁ value₂) : Agree (.map name key₁ value₁) (.map name key₂ value₂)
  | unresolved (name : String) : Agree (.unresolved name) (.unresolved name)

/-- Two fields whose types agree. Where a field travels is not compared here: methods sort
their parameters by it, and structs do not read it. -/
structure Field.Agree (f g : Field) : Prop where
  name : f.name = g.name
  type : f.type.Agree g.type
  requirement : f.requirement = g.requirement
  description : f.description = g.description

/-- Two structs of one name and description: plain ones whose fields agree, or polymorphic
ones with subtypes of the same names and one discriminator. Second names are free, and so
are the fields of polymorphic structs. -/
inductive Struct.Agree : Struct → Struct → Prop
  | plain {s t : Struct} (noUnion₁ : s.union = none) (noUnion₂ : t.union = none)
      (name : s.name = t.name) (description : s.description = t.description)
      (fields : List.Forall₂ Field.Agree s.fields t.fields) : Agree s t
  | polymorphic {s t : Struct} {u v : Union} (union₁ : s.union = some u)
      (union₂ : t.union = some v) (name : s.name = t.name)
      (description : s.description = t.description)
      (subtypes : u.subtypes.map (·.name) = v.subtypes.map (·.name))
      (discriminator : u.discriminator = v.discriminator) : Agree s t

theorem Struct.Agree.name {s t : Struct} (h : s.Agree t) : s.name = t.name := by
  cases h with
  | plain _ _ name => exact name
  | polymorphic _ _ name => exact name

/-- Two enums whose values have the same names, whatever the values are and however they
are described. -/
structure Enumeration.Agree (e f : Enumeration) : Prop where
  name : e.name = f.name
  description : e.description = f.description
  values : e.values.map (·.name) = f.values.map (·.name)

/-- Two methods with the same identity and the same parameters in the body. Results,
endpoints and all other parameters are free. -/
structure Method.Agree (m n : Method) : Prop where
  service : m.service = n.service
  name : m.name = n.name
  overload : m.overload = n.overload
  httpMethod : m.httpMethod = n.httpMethod
  description : m.description = n.description
  body : List.Forall₂ Field.Agree (Schema.bodyParameters m) (Schema.bodyParameters n)

/-- Two specifications whose methods, structs and enums agree one by one. How the methods
are spread over services, what the services are called and which exceptions there are
does not matter. -/
structure Specification.Agree (a b : Specification) : Prop where
  methods : List.Forall₂ Method.Agree a.methods b.methods
  structs : List.Forall₂ Struct.Agree a.structs b.structs
  enums : List.Forall₂ Enumeration.Agree a.enums b.enums

namespace Schema

/-! ## What is generated -/

/-- Types that agree have one fragment. The induction is on the agreement; the case of maps
has no hypothesis on the keys and needs none. -/
theorem ofSignature_eq_of_agree {s t : Signature} (h : s.Agree t) :
    Fragment.ofSignature s = Fragment.ofSignature t := by
  induction h with
  | base name => rfl
  | struct name class₁ class₂ => rfl
  | enum name class₁ class₂ => rfl
  | iterable name₁ name₂ element ih => rw [Fragment.ofSignature, Fragment.ofSignature, ih]
  | map name key₁ key₂ value ih => rw [Fragment.ofSignature, Fragment.ofSignature, ih]
  | unresolved name => rfl

theorem ofField_eq_of_agree {f g : Field} (h : f.Agree g) :
    Property.ofField f = Property.ofField g := by
  rw [Property.ofField, Property.ofField, h.description, ofSignature_eq_of_agree h.type]

theorem properties_eq_of_agree {fs gs : List Field} (h : List.Forall₂ Field.Agree fs gs) :
    properties fs = properties gs := by
  have hentries := map_eq_map_of_forall₂ h (f := fun f => (f.name, Property.ofField f))
    (g := fun g => (g.name, Property.ofField g)) fun f g hfg => by
      rw [hfg.name, ofField_eq_of_agree hfg]
  rw [properties, properties, hentries]

theorem requiredNames_eq_of_agree {fs gs : List Field} (h : List.Forall₂ Field.Agree fs gs) :
    requiredNames fs = requiredNames gs := by
  have hrequired : List.Forall₂ Field.Agree (fs.filter (·.isRequired))
      (gs.filter (·.isRequired)) := by
    refine List.rel_filter (fun f g hfg => ?_) h
    simp only [Field.isRequired, hfg.requirement]
  exact map_eq_map_of_forall₂ hrequired fun f g hfg => hfg.name

/-- Structs that agree have one definition. A polymorphic one is written without its
fields, so they need not even correspond. -/
theorem ofStruct_eq_of_agree {s t : Struct} (h : s.Agree t) :
    Entry.ofStruct s = Entry.ofStruct t := by
  cases h with
  | plain noUnion₁ noUnion₂ name description fields =>
    rw [ofStruct_plain noUnion₁, ofStruct_plain noUnion₂, name, description,
      properties_eq_of_agree fields, requiredNames_eq_of_agree fields]
  | polymorphic union₁ union₂ name description subtypes discriminator =>
    simp only [Entry.ofStruct, union₁, union₂]
    rw [name, description, subtypes, discriminator]

theorem ofEnumeration_eq_of_agree {e f : Enumeration} (h : e.Agree f) :
    Entry.ofEnumeration e = Entry.ofEnumeration f := by
  rw [Entry.ofEnumeration, Entry.ofEnumeration, h.name, h.description, h.values]

/-- Specifications that agree have one table of definitions, in the same order. -/
theorem definitions_eq_of_agree {a b : Specification} (h : a.Agree b) :
    definitions a = definitions b := by
  have hstructs := map_eq_map_of_forall₂ h.structs (f := fun s => (s.name, Entry.ofStruct s))
    (g := fun t => (t.name, Entry.ofStruct t)) fun s t hst => by
      rw [hst.name, ofStruct_eq_of_agree hst]
  have henums := map_eq_map_of_forall₂ h.enums (f := fun e => (e.name, Entry.ofEnumeration e))
    (g := fun f => (f.name, Entry.ofEnumeration f)) fun e f hef => by
      rw [hef.name, ofEnumeration_eq_of_agree hef]
  rw [definitions, definitions, hstructs, henums]

theorem id_eq_of_agree {m n : Method} (h : m.Agree n) : m.id = n.id := by
  simp only [Method.id, Method.overloadName, h.service, h.name, h.overload, h.httpMethod]

/-- Methods that agree have one document over the same definitions. -/
theorem methodDocument_eq_of_agree {δ : Type} {m n : Method} (h : m.Agree n) (definitions : δ) :
    methodDocument m definitions = methodDocument n definitions := by
  simp only [methodDocument, id_eq_of_agree h, h.name, h.description,
    properties_eq_of_agree h.body, requiredNames_eq_of_agree h.body]

/-- **Documents depend on nothing else.** Two specifications that agree generate the same
documents, one for each method in the same order, with the same keys in the same order. -/
theorem generate_eq_of_agree (a b : Specification) (h : a.Agree b) :
    generate a = generate b ∧ documentsJson (generate a) = documentsJson (generate b) := by
  have hdocuments : generate a = generate b := by
    rw [generate, generate, definitions_eq_of_agree h]
    exact map_eq_map_of_forall₂ h.methods fun m n hmn => methodDocument_eq_of_agree hmn _
  exact ⟨hdocuments, by rw [hdocuments]⟩

/-- The subtypes of an animal. -/
def animalSubtypes : List Signature := [.struct "Cat" none, .struct "Dog" none]

theorem animalSubtypes_ne_nil : animalSubtypes ≠ [] := List.cons_ne_nil _ _

theorem species_ne_empty : "species" ≠ "" := by decide

/-- The zoo with everything changed that documents do not show. -/
def rearrangedZoo : Specification where
  services := [
    { name := "Unused", description := "A service without methods." },
    { name := "Park"
      methods := [
        { service := "Zoo", name := "add", returnType := some (.listOf (.base "int"))
          endpoints := [{ path := "/park" }]
          parameters := [
            { name := "limit", type := .base "int", location := .query },
            { name := "animals", type := .setOf (.struct "Animal" (some (.declared 0))) }] }] }]
  structs := [
    { name := "Animal"
      secondName := some "Beast"
      fields := [{ name := "weight", type := .base "double" }]
      union := some
        { subtypes := animalSubtypes
          discriminator := ⟨"species", species_ne_empty⟩
          subtypes_ne_nil := animalSubtypes_ne_nil } },
    { name := "Cat"
      fields := [
        { name := "colors"
          type :=
            .mapOf (.enum "Color" none) (.iterable "bag" (.enum "Color" (some (.declared 3)))) }] },
    { name := "Dog", fields := [{ name := "$ref", type := .struct "Animal" none }] }]
  enums := [
    { name := "Color"
      values := [
        { name := "BLACK", intValue := some 0 }, { name := "WHITE", description := "Or cream." }] }]
  exceptions := [{ name := "Escape", fields := [{ name := "dog", type := .struct "Dog" none }] }]

/-- The two zoos agree. -/
theorem zoo_agree_rearrangedZoo : zoo.Agree rearrangedZoo where
  methods :=
    .cons
      { service := rfl, name := rfl, overload := rfl, httpMethod := rfl, description := rfl
        body := .cons ⟨rfl, .iterable _ _ (.struct _ _ _), rfl, rfl⟩ .nil }
      .nil
  structs :=
    .cons (.polymorphic rfl rfl rfl rfl rfl rfl)
      (.cons
        (.plain rfl rfl rfl rfl
          (.cons ⟨rfl, .map _ _ _ (.iterable _ _ (.enum _ _ _)), rfl, rfl⟩ .nil))
        (.cons (.plain rfl rfl rfl rfl (.cons ⟨rfl, .struct _ _ _, rfl, rfl⟩ .nil)) .nil))
  enums := .cons ⟨rfl, rfl, rfl⟩ .nil

/-- One document describes the one method of both zoos. -/
theorem generate_rearrangedZoo :
    zoo.Agree rearrangedZoo ∧ zoo ≠ rearrangedZoo ∧ generate zoo = generate rearrangedZoo :=
  ⟨zoo_agree_rearrangedZoo, by decide,
    (generate_eq_of_agree zoo rearrangedZoo zoo_agree_rearrangedZoo).1⟩

end Schema

end ServiceSchema

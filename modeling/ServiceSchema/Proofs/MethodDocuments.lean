/-
How the document of a method follows the signature of its function.

A service class lists a method for each of its public functions. The parameters of the method
are those of the signature that are described, each with the place and the requirement that its
hint and its default say. The document of the method keeps those that travel in the body. So
which names are properties, and which of them are required, can be read off the signature and
the hints, without a look at what lies in between.
-/
import ServiceSchema.Proofs.Assembled
import ServiceSchema.Proofs.Unions
import ServiceSchema.Schema.Generate
import ServiceSchema.Schema.Json

set_option autoImplicit false

namespace ServiceSchema

open Log.Traced

/-! ## What hints say -/

/-- The place that a piece of metadata names. -/
def Marker.location? : Marker → Option Location
  | text _ => none
  | location l => some l
  | param l _ => some l

namespace Annotation

/-- The first place that the outermost metadata of a hint names. -/
inductive NamesFirst : Annotation → Location → Prop where
  | intro {type : Annotation} {before after : List Marker} {m : Marker} {l : Location}
      (named : m.location? = some l) (earlier : ∀ m' ∈ before, m'.location? = Option.none) :
      NamesFirst (annotated type (before ++ m :: after)) l

/-- No place outside the body is named first. -/
def InBody (a : Annotation) : Prop := ∀ l, a.NamesFirst l → l = .body ∨ l = .unspecified

/-- A union of which nothing is a member. -/
def AllowsNone (a : Annotation) : Prop :=
  ∃ members, (a = union members ∨ a = joined members) ∧ noneClass ∈ members

theorem namesFirst_annotated {type : Annotation} {metadata : List Marker} {l : Location} :
    (annotated type metadata).NamesFirst l ↔ metadata.findSome? Marker.location? = some l := by
  rw [List.findSome?_eq_some_iff]
  constructor
  · intro h
    cases h with
    | intro named earlier => exact ⟨_, _, _, rfl, named, earlier⟩
  · rintro ⟨before, m, after, rfl, named, earlier⟩
    exact .intro named earlier

/-- The marker of a hint names the place that is named first. -/
theorem marker_annotated (type : Annotation) (metadata : List Marker) :
    (annotated type metadata).marker.1
      = (metadata.findSome? Marker.location?).getD .unspecified := by
  rw [marker]
  induction metadata with
  | nil => rfl
  | cons m rest ih =>
    cases m with
    | text s => simpa [List.findSome?_cons, Marker.location?] using ih
    | location l => rfl
    | param l description => rfl

theorem inBody_iff {a : Annotation} : a.InBody ↔ a.marker.1.inBody = true := by
  cases a with
  | annotated type metadata =>
    simp only [InBody, namesFirst_annotated, marker_annotated]
    cases metadata.findSome? Marker.location? with
    | none => simp [Location.inBody]
    | some l => cases l <;> simp [Location.inBody]
  -- no place is named without metadata
  | _ => exact iff_of_true (fun l h => nomatch h) rfl

theorem allowsNone_iff {a : Annotation} : a.AllowsNone ↔ a.isOptional = true := by
  simp only [AllowsNone, isOptional, List.any_eq_true, isNoneClass_iff, exists_eq_right]
  cases a <;> simp [unionMembers]

instance (a : Annotation) : Decidable a.InBody := decidable_of_iff _ inBody_iff.symm

instance (a : Annotation) : Decidable a.AllowsNone := decidable_of_iff _ allowsNone_iff.symm

end Annotation

/-! ## What a signature asks for -/

namespace Parameter

variable {hints : Table Annotation}

/-- A parameter that belongs to the body: neither a receiver nor what takes all further arguments,
with a hint that names no other place. -/
def InBody (hints : Table Annotation) (p : Parameter) : Prop :=
  p.name ≠ "self" ∧ p.name ≠ "cls" ∧ p.kind ≠ .restPositional ∧ p.kind ≠ .restKeyword ∧
    (p.hint hints).InBody

/-- A parameter that has to be given: it has no default, and its hint does not allow for nothing. -/
def Demanded (hints : Table Annotation) (p : Parameter) : Prop :=
  p.hasDefault = false ∧ ¬ (p.hint hints).strip.AllowsNone

instance (p : Parameter) : Decidable (p.InBody hints) := inferInstanceAs (Decidable (_ ∧ _))

instance (p : Parameter) : Decidable (p.Demanded hints) := inferInstanceAs (Decidable (_ ∧ _))

theorem isDescribed_iff {p : Parameter} : p.isDescribed = true ↔
    p.name ≠ "self" ∧ p.name ≠ "cls" ∧ p.kind ≠ .restPositional ∧ p.kind ≠ .restKeyword := by
  cases hkind : p.kind <;> simp [isDescribed, hkind]

/-- A parameter belongs to the body if it is described and travels there. -/
theorem inBody_iff {p : Parameter} : p.InBody hints ↔
    p.isDescribed = true ∧ (p.hint hints).marker.1.inBody = true := by
  rw [isDescribed_iff, ← Annotation.inBody_iff, InBody]
  simp only [and_assoc]

/-- What the field of a parameter keeps of it. -/
structure Kept (u : Universe) (hints : Table Annotation) (p : Parameter) (f : Field) : Prop where
  name : f.name = p.name
  type : (p.hint hints).toSignature u = .ok f.type
  location : f.location = (p.hint hints).marker.1
  description : f.description = (p.hint hints).marker.2
  required : f.isRequired = true ↔ p.Demanded hints

theorem kept_toField {u : Universe} {p : Parameter} {f : Field}
    (h : p.toField u hints = .ok f) : p.Kept u hints f := by
  obtain ⟨-, type, htype, rfl⟩ := toField_eq_ok.1 h
  refine ⟨rfl, htype, rfl, rfl, ?_⟩
  rw [Demanded, Annotation.allowsNone_iff]
  cases p.hasDefault <;> cases (p.hint hints).strip.isOptional <;>
    simp [Field.isRequired, Requirement.ofBool]

end Parameter

/-! ## What a method describes -/

namespace Universe

variable {u : Universe} {id : ClassId}

/-- What a class calls under the name of an attribute: a function, with the parameters of its
signature. A function that is bound to the class is called without the parameter that takes it. -/
inductive Calls (u : Universe) (id : ClassId) (key : String) :
    Function → List Parameter → Prop where
  | function {f : Function} (found : u.attribute? id key = some (.function f)) :
      Calls u id key f f.signature
  | static {f : Function} (found : u.attribute? id key = some (.static f)) :
      Calls u id key f f.signature
  | bound {f : Function} {signature : List Parameter}
      (found : u.attribute? id key = some (.bound f))
      (received : f.boundSignature? = some signature) : Calls u id key f signature

/-- A method that describes a function with a signature. -/
structure Describes (u : Universe) (hints : Table Annotation) (f : Function)
    (signature : List Parameter) (m : Method) : Prop where
  name : m.name = f.name
  parameters : List.Forall₂ (Parameter.Kept u hints)
    (signature.filter (·.isDescribed)) m.parameters

theorem describes_functionMethod {service : String} {f : Function}
    {signature? : Option (List Parameter)} {m : Method}
    (h : (u.functionMethod service f signature?).outcome = .ok m) :
    ∃ hints signature, (u.functionHints f).outcome = .ok hints ∧ signature? = some signature ∧
      u.Describes hints f signature m := by
  unfold functionMethod at h
  obtain ⟨hints, hhints, h⟩ := bind_eq_ok.1 h
  cases signature? with
  | none => cases h
  | some signature =>
    dsimp only at h
    split at h
    · next built hbuilt =>
      obtain rfl := Except.ok.inj h
      obtain ⟨parameters, hparameters, hbuilt⟩ := Except.bind_eq_ok.1 hbuilt
      split at hbuilt
      · cases hbuilt
      · obtain ⟨-, -, rfl⟩ := Method.make?_eq_ok.1 hbuilt
        refine ⟨hints, signature, hhints, rfl, rfl, ?_⟩
        exact (Except.mapM_eq_ok.1 hparameters).imp fun p f hf => Parameter.kept_toField hf
    · cases h

/-- The method of an attribute describes what the class calls under its name. -/
theorem describes_attributeMethod {service key : String} {m : Method}
    (h : (u.attributeMethod id service key).outcome = .ok m) :
    ∃ f signature hints, u.Calls id key f signature ∧
      (u.functionHints f).outcome = .ok hints ∧ u.Describes hints f signature m := by
  unfold attributeMethod at h
  split at h
  · next f hfound =>
    obtain ⟨hints, signature, hhints, hsignature, hdescribes⟩ := describes_functionMethod h
    obtain rfl := Option.some.inj hsignature
    exact ⟨f, _, hints, .function hfound, hhints, hdescribes⟩
  · next f hfound =>
    obtain ⟨hints, signature, hhints, hsignature, hdescribes⟩ := describes_functionMethod h
    obtain rfl := Option.some.inj hsignature
    exact ⟨f, _, hints, .static hfound, hhints, hdescribes⟩
  · next f hfound =>
    obtain ⟨hints, signature, hhints, hsignature, hdescribes⟩ := describes_functionMethod h
    exact ⟨f, signature, hints, .bound hfound hsignature, hhints, hdescribes⟩
  · cases h
  · rw [report_bind_outcome] at h
    cases h
  · cases h
  · cases h

end Universe

/-! ## What a document lists -/

namespace Schema

/-- A document that follows a signature: its properties are the parameters that belong to the
body, and it requires those of them that have to be given, both in the order of the signature. -/
structure FollowsSignature (document : Json) (hints : Table Annotation)
    (signature : List Parameter) : Prop where
  properties : ∃ entries, document.get? "properties" = some (.object entries) ∧
    entries.map Prod.fst = (signature.filter (·.InBody hints)).map (·.name)
  required : document.get? "required" =
    let names := (signature.filter fun p => p.InBody hints ∧ p.Demanded hints).map (·.name)
    if names = [] then none else some (.texts names)
  /-- No property is listed twice, and so none is required twice. -/
  nodup : ((signature.filter (·.InBody hints)).map (·.name)).Nodup

variable {u : Universe} {hints : Table Annotation} {f : Function} {signature : List Parameter}
  {m : Method}

/-- The parameters of a method that travel in the body are those that belong to it. -/
theorem kept_bodyParameters (h : u.Describes hints f signature m) :
    List.Forall₂ (Parameter.Kept u hints) (signature.filter (·.InBody hints))
      (bodyParameters m) := by
  have hsplit : signature.filter (·.InBody hints) =
      (signature.filter (·.isDescribed)).filter fun p => (p.hint hints).marker.1.inBody := by
    rw [List.filter_filter]
    refine List.filter_congr fun p _ => ?_
    rw [Bool.eq_iff_iff, decide_eq_true_iff, Parameter.inBody_iff, Bool.and_eq_true, and_comm]
  rw [hsplit]
  refine List.rel_filter ?_ h.parameters
  intro p f hkept
  change (p.hint hints).marker.1.inBody = true ↔ f.location.inBody = true
  rw [hkept.location]

theorem keys_properties {fields : List Field} (h : (fields.map (·.name)).Nodup) :
    (properties fields).keys = fields.map (·.name) := by
  have hkeys : (fields.map fun f => (f.name, Property.ofField f)).map Prod.fst =
      fields.map (·.name) := by
    simp [Function.comp_def]
  rw [properties, Table.keys, Table.entries_ofList (hkeys ▸ h), hkeys]

section Lookup

variable {δ : Type} (document : MethodDocument δ) (definitionsJson : δ → Json)

theorem get?_properties :
    (document.toJson definitionsJson).get? "properties"
      = some (propertiesJson document.properties) := by
  rw [MethodDocument.toJson, Json.get?, Json.entries, requiredEntry]
  split <;> simp [List.lookup_cons]

theorem get?_required :
    (document.toJson definitionsJson).get? "required" =
      if document.required = [] then none else some (.texts document.required) := by
  rw [MethodDocument.toJson, Json.get?, Json.entries, requiredEntry]
  cases document.required <;> simp [List.lookup_cons]

end Lookup

/-- What a method requires are the parameters of the body that have to be given. -/
theorem requiredNames_bodyParameters (h : u.Describes hints f signature m) :
    requiredNames (bodyParameters m) =
      (signature.filter fun p => p.InBody hints ∧ p.Demanded hints).map (·.name) := by
  have hsplit : (signature.filter fun p => p.InBody hints ∧ p.Demanded hints) =
      (signature.filter (·.InBody hints)).filter (·.Demanded hints) := by
    rw [List.filter_filter]
    refine List.filter_congr fun p _ => ?_
    rw [Bool.decide_and, Bool.and_comm]
  have hkept : List.Forall₂ (Parameter.Kept u hints)
      ((signature.filter (·.InBody hints)).filter (·.Demanded hints))
      ((bodyParameters m).filter (·.isRequired)) := by
    refine List.rel_filter ?_ (kept_bodyParameters h)
    intro p f hkept
    change decide (p.Demanded hints) = true ↔ f.isRequired = true
    rw [decide_eq_true_iff, hkept.required]
  rw [hsplit, requiredNames]
  exact (map_eq_map_of_forall₂ hkept fun p f hf => hf.name.symm).symm

/-- **The document of a method follows the signature that the method describes.** -/
theorem followsSignature_of_describes {δ : Type} (h : u.Describes hints f signature m)
    (hnames : (signature.map (·.name)).Nodup) (definitions : δ) (definitionsJson : δ → Json) :
    FollowsSignature ((methodDocument m definitions).toJson definitionsJson) hints signature := by
  have hbody : (bodyParameters m).map (·.name) =
      (signature.filter (·.InBody hints)).map (·.name) :=
    (map_eq_map_of_forall₂ (kept_bodyParameters h) fun p f hf => hf.name.symm).symm
  have hnodup : ((signature.filter (·.InBody hints)).map (·.name)).Nodup :=
    hnames.sublist (List.filter_sublist.map _)
  constructor
  case properties =>
    refine ⟨_, get?_properties _ definitionsJson, ?_⟩
    have hkeys : ((properties (bodyParameters m)).map Property.toJson).keys =
        (properties (bodyParameters m)).keys := by
      simp [Table.keys, Table.map, Function.comp_def]
    exact hkeys.trans ((keys_properties (hbody ▸ hnodup)).trans hbody)
  case required =>
    rw [get?_required, ← requiredNames_bodyParameters h]
    rfl
  case nodup => exact hnodup

end Schema

/-! ## From signatures to documents -/

/-- **The documents of a service class follow the signatures of its functions.** Each method that
the class lists is that of one of its public functions, and whatever its document says of
parameters can be read off the signature of that function and the hints of its parameters. A
signature names no parameter twice. -/
theorem documents_follow_signatures {u : Universe} {id : ClassId} {name : Option String}
    {s : Service} {resolver : Option Resolver} {exceptions : List Annotation}
    {spec : Specification}
    (hnames : ∀ key ∈ u.declaredFunctions id, ∀ f signature, u.Calls id key f signature →
      (signature.map (·.name)).Nodup)
    (hservice : (u.service (.cls id) name).outcome = .ok s)
    (h : (u.specification [s] resolver exceptions).outcome = .ok spec) :
    List.Forall₂ (fun m document => ∃ key ∈ u.declaredFunctions id,
        (u.attributeMethod id s.name key).outcome = .ok m ∧
        ∃ f signature hints, u.Calls id key f signature ∧
          (u.functionHints f).outcome = .ok hints ∧
          Schema.FollowsSignature document hints signature)
      s.methods
      ((Schema.generate spec).map (Schema.MethodDocument.toJson Schema.Definitions.toJson)) := by
  have hmethods : spec.methods = s.methods := by
    obtain ⟨-, answers, -, c, -, rfl⟩ := Universe.specification_eq_ok.1 h
    simp [Specification.methods]
  rw [Schema.generate, hmethods, List.map_map, List.forall₂_map_right_iff, List.forall₂_same]
  intro m hm
  obtain ⟨key, hkey, hmethod⟩ := Universe.exists_attribute_of_service hservice m hm
  obtain ⟨f, signature, hints, hcalls, hhints, hdescribes⟩ :=
    Universe.describes_attributeMethod hmethod
  exact ⟨key, hkey, hmethod, f, signature, hints, hcalls, hhints,
    Schema.followsSignature_of_describes hdescribes (hnames key hkey f signature hcalls) _ _⟩

/-! ## A front desk

One function with a parameter of every sort: a receiver, one that may be nothing, one whose
metadata names two places, further arguments, one that travels in a header, one with a default
and one without an annotation. -/

/-- The class of the desk. -/
def deskClasses : Universe where
  classes := [
    { name := "Desk", module := "m", qualname := "Desk"
      members := [("book", .function
        { name := "book"
          parameters := [
            { name := "self" },
            { name := "guest"
              type := some (.annotated
                (.union [.cls (.standard (.builtin "str")), .noneClass]) [.text "who stays"]) },
            { name := "room"
              type := some (.annotated (.cls (.standard (.builtin "int")))
                [.location .body, .location .query]) },
            { name := "others", kind := .restPositional },
            { name := "token", kind := .keyword
              type := some (.annotated (.cls (.standard (.builtin "str")))
                [.text "secret", .param .header "session"]) },
            { name := "days", kind := .keyword, hasDefault := true
              type := some (.cls (.standard (.builtin "int"))) },
            { name := "floor", kind := .keyword }] })] }]

/-- The service of the desk. -/
def deskService : Service where
  name := "Desk"
  methods := [
    { service := "Desk", name := "book", returnType := some (.base "void")
      parameters := [
        { name := "guest", type := .base "string", requirement := .optional },
        { name := "room", type := .base "int", requirement := .required, location := .body },
        { name := "token", type := .base "string", requirement := .required, location := .header
          description := "session" },
        { name := "days", type := .base "int", requirement := .optional },
        { name := "floor", type := .unresolved "object", requirement := .required }]
      endpoints := [{ path := "/Desk/book" }] }]

theorem deskClasses_service :
    (deskClasses.service (.cls (.declared 0)) none).outcome = .ok deskService := by
  decide +kernel

/-- The desk mentions no class. -/
theorem deskClasses_specification :
    (deskClasses.specification [deskService] none []).outcome
      = .ok { services := [deskService] } :=
  Universe.specification_eq_ok.2
    ⟨by decide, [], .nil, _, Assembly.walk_done (by decide), rfl⟩

/-- The document of the desk keeps four parameters and requires two of them. -/
theorem desk_documents_follow_signatures :
    ((Schema.generate { services := [deskService] }).map fun document =>
      (document.properties.keys, document.required))
        = [(["guest", "room", "days", "floor"], ["room", "floor"])] ∧
    List.Forall₂ (fun m document => ∃ key ∈ deskClasses.declaredFunctions (.declared 0),
        (deskClasses.attributeMethod (.declared 0) deskService.name key).outcome = .ok m ∧
        ∃ f signature hints, deskClasses.Calls (.declared 0) key f signature ∧
          (deskClasses.functionHints f).outcome = .ok hints ∧
          Schema.FollowsSignature document hints signature)
      deskService.methods
      ((Schema.generate { services := [deskService] }).map
        (Schema.MethodDocument.toJson Schema.Definitions.toJson)) := by
  refine ⟨by decide +kernel, documents_follow_signatures ?_ deskClasses_service
    deskClasses_specification⟩
  intro key hkey f signature hcalls
  obtain rfl : key = "book" := by
    have hall : ∀ key ∈ deskClasses.declaredFunctions (.declared 0), key = "book" := by decide
    exact hall key hkey
  cases hcalls with
  | function found =>
    obtain rfl := Member.function.inj (Option.some.inj found)
    decide
  | static found => cases found
  | bound found _ => cases found

end ServiceSchema

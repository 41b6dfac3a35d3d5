/-
Required names beside properties.

What is written for fields has two parts: the properties, where of several fields with one
name the last one counts, and the names that are required, which are those of all fields that
have to be given. Every required name is that of a property. But a field that has to be given
and is declared again leaves its name behind although its property is written over: the name
is listed twice, or for a field that need not be given. So the two parts are in step exactly
if no field that has to be given is declared again.

On the side of the documents, the nodes with a list of required names are the document of a
method and the definitions of structs without subtypes, and no others.
-/
import ServiceSchema.Proofs.DefinitionTable
import ServiceSchema.Proofs.StrictDocuments

set_option autoImplicit false

namespace ServiceSchema.Schema

/-! ## Fields that are declared again -/

/-- No field that has to be given is declared again under its name. -/
def Settled (fields : List Field) : Prop :=
  fields.Pairwise fun earlier later => earlier.name = later.name → earlier.isRequired = false

instance (fields : List Field) : Decidable (Settled fields) :=
  inferInstanceAs (Decidable (List.Pairwise _ _))

/-- Names are in step with fields: none is listed twice, and a name is listed exactly if the field
that is written under it has to be given. -/
structure InStep (fields : List Field) (names : List String) : Prop where
  once : names.Nodup
  exact : ∀ name, name ∈ names ↔ ∃ f, lastNamed fields name = some f ∧ f.isRequired = true

section Fields

variable {fields : List Field} {name : String} {f : Field}

theorem mem_requiredNames :
    name ∈ requiredNames fields ↔ ∃ f ∈ fields, f.isRequired = true ∧ f.name = name := by
  simp only [requiredNames, List.mem_map, List.mem_filter, and_assoc]

/-- The field that is written under a name is followed by none of that name. -/
theorem lastNamed_eq_some_iff : lastNamed fields name = some f ↔
    ∃ before after, fields = before ++ f :: after ∧ f.name = name ∧
      ∀ g ∈ after, g.name ≠ name := by
  rw [lastNamed, find?_reverse_eq_some_iff]
  simp only [beq_iff_eq, beq_eq_false_iff_ne]

/-- Under the name of every field one is written. -/
theorem exists_lastNamed (hf : f ∈ fields) : ∃ g, lastNamed fields f.name = some g := by
  rw [← Option.isSome_iff_exists, lastNamed, List.find?_isSome]
  exact ⟨f, List.mem_reverse.2 hf, beq_self_eq_true _⟩

/-- A field that has to be given is written itself, where the fields are settled. -/
theorem Settled.lastNamed (h : Settled fields) (hf : f ∈ fields) (hrequired : f.isRequired = true) :
    lastNamed fields f.name = some f := by
  obtain ⟨before, after, rfl⟩ := List.append_of_mem hf
  have hlater : ∀ g ∈ after, f.name = g.name → f.isRequired = false :=
    (List.pairwise_cons.1 (List.pairwise_append.1 h).2.1).1
  refine lastNamed_eq_some_iff.2 ⟨before, after, rfl, rfl, fun g hg hname => ?_⟩
  have hoptional := hlater g hg hname.symm
  rw [hrequired] at hoptional
  cases hoptional

/-- The required names of settled fields are in step with them. -/
theorem Settled.inStep (h : Settled fields) : InStep fields (requiredNames fields) where
  once := by
    rw [requiredNames, List.Nodup, List.pairwise_map]
    -- of two fields that are listed with one name, the earlier one would not be listed
    refine (List.Pairwise.filter _ h).imp_of_mem fun {f g} hf _ hfg hname => ?_
    have hrequired : f.isRequired = true := (List.mem_filter.1 hf).2
    rw [hfg hname] at hrequired
    cases hrequired
  exact := by
    intro name
    rw [mem_requiredNames]
    constructor
    · rintro ⟨f, hf, hrequired, rfl⟩
      exact ⟨f, h.lastNamed hf hrequired, hrequired⟩
    · rintro ⟨f, hf, hrequired⟩
      obtain ⟨before, after, rfl, hname, -⟩ := lastNamed_eq_some_iff.1 hf
      exact ⟨f, by simp, hrequired, hname⟩

/-- Two fields in this order that both have to be given are listed in this order. -/
theorem sublist_requiredNames {g : Field} (hsublist : [f, g].Sublist fields)
    (hf : f.isRequired = true) (hg : g.isRequired = true) :
    [f.name, g.name].Sublist (requiredNames fields) := by
  have hfiltered : [f, g].Sublist (fields.filter (·.isRequired)) := by
    have hboth := hsublist.filter (·.isRequired)
    rwa [List.filter_cons_of_pos hf, List.filter_cons_of_pos hg, List.filter_nil] at hboth
  exact hfiltered.map Field.name

/-- Of two fields with one name the earlier one comes before the one that is written. -/
theorem sublist_lastNamed {g last : Field} (hsublist : [f, g].Sublist fields)
    (hname : f.name = g.name) (hlast : lastNamed fields f.name = some last) :
    [f, last].Sublist fields := by
  obtain ⟨before, after, rfl, -, hafter⟩ := lastNamed_eq_some_iff.1 hlast
  have hg : g ∉ after := fun hg => hafter g hg hname.symm
  have hbefore : f ∈ before := by
    obtain ⟨front, back, hsplit, hfront, hback⟩ := List.sublist_append_iff.1 hsublist
    cases front with
    -- both would stand behind, the later one of them after the last field of its name
    | nil =>
      rw [List.nil_append] at hsplit
      rw [← hsplit] at hback
      cases hback with
      | cons _ hrest => exact absurd (hrest.subset (by simp)) hg
      | cons_cons _ hrest => exact absurd (hrest.subset (by simp)) hg
    | cons x front =>
      rw [List.cons_append, List.cons.injEq] at hsplit
      exact hfront.subset (hsplit.1 ▸ List.mem_cons_self)
  exact (List.singleton_sublist.2 hbefore).append (List.singleton_sublist.2 List.mem_cons_self)

/-- Fields whose required names are in step with them are settled: of two fields with one name the
earlier one and the one that is written would both be listed. -/
theorem InStep.settled (h : InStep fields (requiredNames fields)) : Settled fields := by
  refine List.pairwise_iff_forall_sublist.2 fun {f g} hfg hname => ?_
  by_contra hrequired
  rw [Bool.not_eq_false] at hrequired
  have hf : f ∈ fields := hfg.subset (by simp)
  obtain ⟨last, hlast, hlastRequired⟩ :=
    (h.exact f.name).1 (mem_requiredNames.2 ⟨f, hf, hrequired, rfl⟩)
  have htwice := h.once.sublist
    (sublist_requiredNames (sublist_lastNamed hfg hname hlast) hrequired hlastRequired)
  obtain ⟨-, -, -, hlastName, -⟩ := lastNamed_eq_some_iff.1 hlast
  simp [hlastName] at htwice

/-- **Required names are in step with fields exactly if no field that has to be given is declared
again.** -/
theorem inStep_iff_settled : InStep fields (requiredNames fields) ↔ Settled fields :=
  ⟨InStep.settled, Settled.inStep⟩

end Fields

/-! ## Nodes with required names -/

theorem mem_requiredEntry_iff {required : List String} {key : String} {value : Json} :
    (key, value) ∈ requiredEntry required ↔
      required ≠ [] ∧ key = "required" ∧ value = .texts required := by
  cases required with
  | nil => simp [requiredEntry]
  | cons name rest => simp [requiredEntry]

/-- The fragment of a type requires nothing. -/
theorem not_required_property {description : String} {s : Signature} {value : Json} :
    ("required", value) ∉ (Property.toJson ⟨description, .ofSignature s⟩).entries := by
  rw [mem_entries_property (by decide)]
  cases s <;> simp [Fragment.ofSignature, Fragment.entries, reference]

/-- A struct without subtypes requires the names that it lists, if there are any. -/
theorem required_record_iff {title description : String} {all : Table Property}
    {required : List String} {value : Json} :
    ("required", value) ∈ (Entry.record title description all required).toJson.entries ↔
      required ≠ [] ∧ value = .texts required := by
  have hhead : ("required", value) ∉ headEntries .object title description :=
    fun h => absurd (mem_headEntries h) (by decide)
  have hproperties : ("required", value) ∉ (if all.entries.isEmpty then []
      else [("properties", propertiesJson all)]) := by
    split <;> simp
  rw [Entry.toJson, Json.entries, List.mem_append, List.mem_append, mem_requiredEntry_iff]
  simp only [hhead, hproperties, false_or, true_and]

/-- A document requires the names that it lists, if there are any. -/
theorem required_document_iff {spec : Specification} {m : Method} {value : Json} :
    ("required", value) ∈ (documentJson spec m).entries ↔
      requiredNames (bodyParameters m) ≠ [] ∧ value = .texts (requiredNames (bodyParameters m)) := by
  simp only [documentJson, MethodDocument.toJson, methodDocument, Json.entries, List.mem_append,
    mem_requiredEntry_iff]
  simp

/-- Where names are required, there are properties. -/
theorem properties_ne_nil {fields : List Field} (h : requiredNames fields ≠ []) :
    (properties fields).entries ≠ [] := by
  obtain ⟨name, hname⟩ := List.exists_mem_of_ne_nil _ h
  obtain ⟨f, hf, -, rfl⟩ := mem_requiredNames.1 hname
  obtain ⟨g, hg⟩ := exists_lastNamed hf
  exact List.ne_nil_of_mem (mem_properties.2 ⟨g, hg, rfl⟩)

/-- The fields that a node of the document of a method is written for: the parameters that travel
in the body for the document itself, the fields of a struct without subtypes for its definition. -/
inductive FieldsAt (spec : Specification) (m : Method) : List Keyword → List Field → Prop
  | method : FieldsAt spec m [] (bodyParameters m)
  | struct {name : String} {st : Struct} (defined : spec.DefinesLast name (.struct st))
      (plain : st.union = none) : FieldsAt spec m [.definition name] st.fields

/-- What a document leads to is the fragment of a parameter or the last definition of a name. -/
theorem below_document_defined {spec : Specification} {m : Method} {keyword : Keyword} {child : Json}
    (h : Below (documentJson spec m) keyword child) :
    (∃ f : Field, child = Property.toJson ⟨f.description, .ofSignature f.type⟩) ∨
    ∃ name d, keyword = .definition name ∧ spec.DefinesLast name d ∧
      child = (Entry.ofDefinition d).toJson := by
  rcases below_document_entry h with ⟨name, f, -, -, hchild⟩ | ⟨name, rfl, hentry⟩
  · exact .inl ⟨f, hchild⟩
  · obtain ⟨entry, hdefined, rfl⟩ := Table.mem_map_entries.1 hentry
    obtain ⟨d, hd, rfl⟩ := mem_definitions.1 hdefined
    exact .inr ⟨name, d, rfl, hd, rfl⟩

/-- Nothing is required inside the fragment of a type. -/
theorem not_required_inside {f : Field} {place : List Keyword} {node value : Json}
    (hnode : NodeAt (Property.toJson ⟨f.description, .ofSignature f.type⟩) place node) :
    ("required", value) ∉ node.entries := by
  obtain ⟨description, s, -, rfl⟩ := nodeAt_property hnode f.description f.type rfl
  exact not_required_property

/-- Inside a definition only the definition itself requires anything, and then it is that of a
struct without subtypes. -/
theorem required_of_definition {d : Definition} {place : List Keyword} {node value : Json}
    (hnode : NodeAt (Entry.ofDefinition d).toJson place node)
    (hrequired : ("required", value) ∈ node.entries) :
    ∃ st : Struct, d = .struct st ∧ st.union = none ∧ place = [] ∧
      node = (Entry.ofStruct st).toJson := by
  cases d with
  | enum e =>
    cases hnode with
    | here => exact absurd (mem_entries_enumeration hrequired) (by decide)
    | down step rest => exact absurd step not_below_enumeration
  | struct st =>
    rw [Entry.ofDefinition] at hnode
    cases hunion : st.union with
    | none =>
      cases hnode with
      | here => exact ⟨st, rfl, hunion, rfl, rfl⟩
      | down step rest =>
        rw [ofStruct_plain hunion] at step
        obtain ⟨name, f, -, -, rfl⟩ := below_record step
        exact absurd hrequired (not_required_inside rest)
    | some union =>
      rw [ofStruct_union hunion] at hnode
      cases hnode with
      | here =>
        rcases mem_entries_union hrequired with hkey | ⟨hkey, -⟩ <;> exact absurd hkey (by decide)
      | down step rest =>
        obtain ⟨index, subtype, -, -, rfl⟩ := below_union step
        cases rest with
        | here => simp [Json.entries, reference] at hrequired
        | down step' rest' => exact absurd step' not_below_reference

/-- **A node that requires names is written for fields.** It lists the names of those that have to
be given, and their properties beside them. -/
theorem exists_fieldsAt {spec : Specification} {m : Method} {place : List Keyword}
    {node value : Json} (hnode : NodeAt (documentJson spec m) place node)
    (hrequired : ("required", value) ∈ node.entries) :
    ∃ fields, FieldsAt spec m place fields ∧ value = .texts (requiredNames fields) ∧
      ("properties", propertiesJson (properties fields)) ∈ node.entries := by
  cases hnode with
  | here =>
    obtain ⟨-, rfl⟩ := required_document_iff.1 hrequired
    exact ⟨_, .method, rfl, by simp [documentJson, MethodDocument.toJson, methodDocument,
      Json.entries]⟩
  | down step rest =>
    -- nothing is required inside a parameter, so the way leads through a definition
    rcases below_document_defined step with ⟨f, rfl⟩ | ⟨name, d, rfl, hd, rfl⟩
    · exact absurd hrequired (not_required_inside rest)
    · obtain ⟨st, rfl, hunion, rfl, rfl⟩ := required_of_definition rest hrequired
      rw [ofStruct_plain hunion] at hrequired ⊢
      obtain ⟨hsome, rfl⟩ := required_record_iff.1 hrequired
      exact ⟨st.fields, .struct hd hunion, rfl, by simp [Entry.toJson, Json.entries,
        properties_ne_nil hsome]⟩

/-! ## Required names beside properties -/

/-- How the names that a node requires relate to the properties beside them, both written for the
given fields. -/
structure BesideProperties (node : Json) (fields : List Field) (names : List String) : Prop where
  /-- Under a name stands the fragment of the last field of that name, and every required name has
  one. -/
  properties : ∃ all, ("properties", .object all) ∈ node.entries ∧
    (∀ name child, (name, child) ∈ all ↔
      ∃ f, lastNamed fields name = some f ∧ child = (Property.ofField f).toJson) ∧
    ∀ name ∈ names, name ∈ all.map Prod.fst
  /-- No name is required twice, and a name is required exactly if the field whose fragment stands
  under it has to be given, if and only if no such field is declared again. -/
  inStep : InStep fields names ↔ Settled fields

theorem besideProperties_requiredNames {node : Json} {fields : List Field}
    (h : ("properties", propertiesJson (properties fields)) ∈ node.entries) :
    BesideProperties node fields (requiredNames fields) where
  properties := by
    refine ⟨_, h, fun name child => mem_propertiesJson, fun name hname => ?_⟩
    obtain ⟨f, hf, -, rfl⟩ := mem_requiredNames.1 hname
    obtain ⟨g, hg⟩ := exists_lastNamed hf
    exact List.mem_map.2 ⟨_, mem_propertiesJson.2 ⟨g, hg, rfl⟩, rfl⟩
  inStep := inStep_iff_settled

theorem requestDocuments_strict_eq_ok {spec : Specification}
    {documents : List (MethodDocument Definitions)} :
    requestDocuments (some spec) true = .ok documents ↔ generateStrict spec = .ok documents := by
  have hstrict : requestDocuments (some spec) true
      = (generateStrict spec).mapError GenerationError.references := rfl
  rw [hstrict, Except.mapError_eq_ok]

/-- The documents that are asked for are those of the methods, with or without the strict checks. -/
theorem exists_method_of_requestDocuments {spec : Specification} {strict : Bool}
    {documents : List (MethodDocument Definitions)}
    (h : requestDocuments (some spec) strict = .ok documents)
    {document : MethodDocument Definitions} (hdocument : document ∈ documents) :
    ∃ m ∈ spec.methods, document = methodDocument m (definitions spec) := by
  have hgenerated : documents = generate spec := by
    cases strict with
    | false => exact (Except.ok.inj h).symm
    | true => exact (generateStrict_eq_ok.1 (requestDocuments_strict_eq_ok.1 h)).2
  rw [hgenerated] at hdocument
  obtain ⟨m, hm, rfl⟩ := List.mem_map.1 hdocument
  exact ⟨m, hm, rfl⟩

/-- **Required names stand beside the properties of their fields**, in every document of every
specification: each names one of the properties. The list is in step with them, without a
repetition and with exactly those names whose written field has to be given, if and only if no
field that has to be given is declared again. -/
theorem documents_require_properties {spec : Specification} {strict : Bool}
    {documents : List (MethodDocument Definitions)}
    (h : requestDocuments (some spec) strict = .ok documents) :
    ∀ document ∈ documents, ∃ m ∈ spec.methods, document = methodDocument m (definitions spec) ∧
      ∀ (place : List Keyword) (node listed : Json),
        NodeAt (document.toJson Definitions.toJson) place node →
        ("required", listed) ∈ node.entries →
        ∃ fields names, FieldsAt spec m place fields ∧ listed = .texts names ∧
          BesideProperties node fields names := by
  intro document hdocument
  obtain ⟨m, hm, rfl⟩ := exists_method_of_requestDocuments h hdocument
  refine ⟨m, hm, rfl, fun place node listed hnode hrequired => ?_⟩
  obtain ⟨fields, hfields, hlisted, hproperties⟩ := exists_fieldsAt hnode hrequired
  exact ⟨fields, requiredNames fields, hfields, hlisted,
    besideProperties_requiredNames hproperties⟩

/-! ## A desk with badges

Fields and parameters that are declared again: at the first desk none of those that have to be
given, at the second one of each. -/

/-- A badge has an identifier, which need not be given at first, and an owner. To enter, the last of
three parameters has to be given, the second of which does not travel in the body. -/
def settledDesk : Specification where
  services := [
    { name := "Desk"
      methods := [
        { service := "Desk", name := "enter", returnType := some (.base "void")
          parameters := [
            { name := "badge", type := .base "string" },
            { name := "badge", type := .base "int", requirement := .required, location := .query },
            { name := "badge", type := .struct "Badge" none, requirement := .required }] }] }]
  structs := [
    { name := "Badge"
      fields := [
        { name := "id", type := .base "int" },
        { name := "owner", type := .base "string", requirement := .required },
        { name := "id", type := .base "string", requirement := .required }] }]

/-- What the settled desk requires is in step with its properties. -/
theorem settledDesk_requires_properties :
    requestDocuments (some settledDesk) true = .ok (generate settledDesk) ∧
    ∀ document ∈ generate settledDesk, ∃ m ∈ settledDesk.methods,
      document = methodDocument m (definitions settledDesk) ∧
      ∀ (place : List Keyword) (node listed : Json),
        NodeAt (document.toJson Definitions.toJson) place node →
        ("required", listed) ∈ node.entries →
        ∃ fields names, FieldsAt settledDesk m place fields ∧ listed = .texts names ∧
          BesideProperties node fields names := by
  have hstrict : requestDocuments (some settledDesk) true = .ok (generate settledDesk) :=
    requestDocuments_strict_eq_ok.2
      (generateStrict_eq_ok.2 ⟨Specification.validate_eq_ok.2 ⟨by decide, by decide⟩, rfl⟩)
  exact ⟨hstrict, documents_require_properties hstrict⟩

/-- A badge whose identifier has to be given where it is declared first, but need not be given where
it is declared last. -/
def mixedBadge : Struct where
  name := "Badge"
  fields := [
    { name := "id", type := .base "string", requirement := .required },
    { name := "id", type := .base "int" }]

/-- A method that asks for a badge twice. -/
def mixedEntry : Method where
  service := "Desk"
  name := "enter"
  returnType := some (.base "void")
  parameters := [
    { name := "badge", type := .struct "Badge" none, requirement := .required },
    { name := "badge", type := .struct "Badge" none, requirement := .required }]

/-- A desk whose fields and parameters are not settled. -/
def mixedDesk : Specification where
  services := [{ name := "Desk", methods := [mixedEntry] }]
  structs := [mixedBadge]

/-- The document of the mixed desk, to which the strict checks have no objection, requires the badge
twice, and of a badge an identifier although the field that is written under the name need not be
given. -/
theorem mixedDesk_out_of_step :
    requestDocuments (some mixedDesk) true = .ok (generate mixedDesk) ∧
    ∃ document ∈ generate mixedDesk, ∃ badge : Json,
      ("required", .texts ["badge", "badge"]) ∈ (document.toJson Definitions.toJson).entries ∧
      Below (document.toJson Definitions.toJson) (.definition "Badge") badge ∧
      ("required", .texts ["id"]) ∈ badge.entries ∧
      ∃ f, lastNamed mixedBadge.fields "id" = some f ∧ f.isRequired = false ∧
        Below badge (.property "id") (Property.ofField f).toJson := by
  refine ⟨requestDocuments_strict_eq_ok.2
    (generateStrict_eq_ok.2 ⟨Specification.validate_eq_ok.2 ⟨by decide, by decide⟩, rfl⟩),
    methodDocument mixedEntry (definitions mixedDesk), List.mem_singleton_self _,
    (Entry.ofStruct mixedBadge).toJson, ?_, ?_, ?_, _, rfl, rfl, ?_⟩
  · exact required_document_iff.2 ⟨by decide, rfl⟩
  · have hnames : mixedDesk.definedNames.Nodup := by decide
    exact below_definition_struct hnames mixedEntry (List.mem_singleton_self _)
  · exact required_record_iff.2 ⟨by decide, rfl⟩
  · have hsome : (properties mixedBadge.fields).entries ≠ [] := properties_ne_nil (by decide)
    rw [ofStruct_plain rfl]
    exact ⟨propertiesJson (properties mixedBadge.fields),
      by simp [Entry.toJson, Json.entries, Keyword.key, hsome], mem_propertiesJson.2 ⟨_, rfl, rfl⟩⟩

end ServiceSchema.Schema

/-
The references of strictly generated documents.

Two traversals have to agree. The check goes through all fields, parameters and
subtypes and compares name and kind with what the specification defines. Generation
writes less: of fields with one name only the last, of a polymorphic struct only its
subtypes, of the parameters only those of the body, of a map only its values. So every
reference that is written was checked, and `WrittenFor` says which type or subtype it
was written for. That a definition is found under its name, and of the right kind,
needs the second half of the check: no name is defined twice.
-/
import ServiceSchema.Proofs.SchemaNodes

set_option autoImplicit false

namespace ServiceSchema.Schema

/-! ## Which field is written -/

/-- The field of a name that is written: the last one of that name. -/
def lastNamed (fields : List Field) (name : String) : Option Field :=
  fields.reverse.find? (·.name == name)

/-- The properties of fields are the last fields of their names. -/
theorem mem_properties {fields : List Field} {name : String} {p : Property} :
    (name, p) ∈ (properties fields).entries ↔
      ∃ f, lastNamed fields name = some f ∧ p = .ofField f := by
  rw [properties, Table.mem_entries_ofList, ← List.map_reverse, lookup_map_keyed,
    Option.map_eq_some_iff]
  simp only [lastNamed, eq_comm]

theorem mem_of_lastNamed {fields : List Field} {name : String} {f : Field}
    (h : lastNamed fields name = some f) : f ∈ fields :=
  List.mem_reverse.1 (List.mem_of_find?_eq_some h)

/-- The properties as JSON hold one node for each field that is written. -/
theorem mem_propertiesJson {fields : List Field} {name : String} {child : Json} :
    (name, child) ∈ (propertiesJson (properties fields)).entries ↔
      ∃ f, lastNamed fields name = some f ∧
        child = Property.toJson ⟨f.description, .ofSignature f.type⟩ := by
  simp only [propertiesJson, Json.ofTable, Table.map, Json.entries, List.mem_map, Prod.exists,
    Prod.mk.injEq]
  constructor
  · rintro ⟨name', p, hp, rfl, rfl⟩
    obtain ⟨f, hf, rfl⟩ := mem_properties.1 hp
    exact ⟨f, hf, rfl⟩
  · rintro ⟨f, hf, rfl⟩
    exact ⟨name, .ofField f, mem_properties.2 ⟨f, hf, rfl⟩, rfl, rfl⟩

/-! ## Nodes of definitions

A definition says what it is by keys that lead nowhere, and has at most one key that
leads to the nodes below it. -/

/-- The keys that every definition starts with. -/
theorem mem_headEntries {type : Primitive} {title description key : String} {value : Json}
    (h : (key, value) ∈ headEntries type title description) :
    key ∈ ["type", "title", "description"] := by
  simp only [headEntries, textUnlessEmpty, List.cons_append, List.nil_append, List.mem_cons] at h
  rcases h with h | h | h
  · simp [(Prod.mk.inj h).1]
  · simp [(Prod.mk.inj h).1]
  · split at h
    · cases h
    · simp [(Prod.mk.inj (List.mem_singleton.1 h)).1]

theorem mem_requiredEntry {required : List String} {key : String} {value : Json}
    (h : (key, value) ∈ requiredEntry required) : key = "required" := by
  unfold requiredEntry at h
  split at h
  · cases h
  · exact (Prod.mk.inj (List.mem_singleton.1 h)).1

theorem mem_entries_record {title description key : String} {all : Table Property}
    {required : List String} {value : Json}
    (h : (key, value) ∈ (Entry.record title description all required).toJson.entries) :
    key ∈ ["type", "title", "description", "required"] ∨
      key = "properties" ∧ value = propertiesJson all := by
  simp only [Entry.toJson, Json.entries, List.mem_append] at h
  rcases h with (h | h) | h
  · exact .inl (by have := mem_headEntries h; grind)
  · split at h
    · cases h
    · exact .inr (Prod.mk.inj (List.mem_singleton.1 h))
  · exact .inl (by simp [mem_requiredEntry h])

theorem mem_entries_union {title description key property : String} {subtypes : List String}
    {value : Json}
    (h : (key, value) ∈ (Entry.union title description subtypes property).toJson.entries) :
    key ∈ ["type", "title", "description", "discriminator"] ∨
      key = "oneOf" ∧ value = .list (subtypes.map fun s => .object [reference s]) := by
  simp only [Entry.toJson, Json.entries, List.mem_append, List.mem_cons] at h
  rcases h with h | h | h | h
  · exact .inl (by have := mem_headEntries h; grind)
  · exact .inr (Prod.mk.inj h)
  · exact .inl (by simp [(Prod.mk.inj h).1])
  · cases h

theorem mem_entries_enumeration {title description key : String} {values : List String}
    {value : Json}
    (h : (key, value) ∈ (Entry.enumeration title description values).toJson.entries) :
    key ∈ ["type", "title", "description", "enum"] := by
  simp only [Entry.toJson, Json.entries, List.mem_append] at h
  rcases h with h | h
  · have := mem_headEntries h
    grind
  · simp [(Prod.mk.inj (List.mem_singleton.1 h)).1]

/-- An entry of a struct that is not polymorphic leads to the fields that are written. -/
theorem below_record {title description : String} {fields : List Field} {required : List String}
    {keyword : Keyword} {child : Json}
    (h : Below (Entry.record title description (properties fields) required).toJson keyword child) :
    ∃ name f, keyword = .property name ∧ lastNamed fields name = some f ∧
      child = Property.toJson ⟨f.description, .ofSignature f.type⟩ := by
  obtain ⟨listed, hlisted, hselects⟩ := h
  rcases mem_entries_record hlisted with hkey | ⟨hkey, rfl⟩
  · cases keyword <;> simp [Keyword.key] at hkey
  · cases keyword <;> simp [Keyword.key] at hkey
    case property name =>
      obtain ⟨f, hf, hchild⟩ := mem_propertiesJson.1 hselects
      exact ⟨name, f, rfl, hf, hchild⟩

/-- An entry of a polymorphic struct leads to references to its subtypes. -/
theorem below_union {title description property : String} {subtypes : List String}
    {keyword : Keyword} {child : Json}
    (h : Below (Entry.union title description subtypes property).toJson keyword child) :
    ∃ (index : Nat) (s : String), keyword = .alternative index ∧ subtypes[index]? = some s ∧
      child = .object [reference s] := by
  obtain ⟨listed, hlisted, hselects⟩ := h
  rcases mem_entries_union hlisted with hkey | ⟨hkey, rfl⟩
  · cases keyword <;> simp [Keyword.key] at hkey
  · cases keyword <;> simp [Keyword.key] at hkey
    case alternative index =>
      simp only [Keyword.Selects, List.getElem?_map, Option.map_eq_some_iff] at hselects
      obtain ⟨s, hs, hchild⟩ := hselects
      exact ⟨index, s, rfl, hs, hchild.symm⟩

theorem not_below_enumeration {title description : String} {values : List String}
    {keyword : Keyword} {child : Json} :
    ¬ Below (Entry.enumeration title description values).toJson keyword child := by
  rintro ⟨listed, hlisted, -⟩
  have hkey := mem_entries_enumeration hlisted
  cases keyword <;> simp [Keyword.key] at hkey

/-- A reference leads nowhere inside the document. -/
theorem not_below_reference {name : String} {keyword : Keyword} {child : Json} :
    ¬ Below (.object [reference name]) keyword child := by
  rintro ⟨listed, hlisted, -⟩
  cases keyword <;> simp [Json.entries, reference, Keyword.key] at hlisted

/-- No definition is itself a reference. -/
theorem not_ref_entry {e : Entry} {value : Json} : ("$ref", value) ∉ e.toJson.entries := by
  intro h
  cases e with
  | record => rcases mem_entries_record h with hkey | ⟨hkey, -⟩ <;> exact absurd hkey (by decide)
  | union => rcases mem_entries_union h with hkey | ⟨hkey, -⟩ <;> exact absurd hkey (by decide)
  | enumeration => exact absurd (mem_entries_enumeration h) (by decide)

/-! ## Nodes of documents -/

/-- The document of a method of a specification, as JSON. -/
def documentJson (spec : Specification) (m : Method) : Json :=
  (methodDocument m (definitions spec)).toJson Definitions.toJson

theorem mem_entries_document {spec : Specification} {m : Method} {key : String} {value : Json}
    (h : (key, value) ∈ (documentJson spec m).entries) :
    key ∈ ["$id", "title", "description", "type", "required"] ∨
      key = "properties" ∧ value = propertiesJson (properties (bodyParameters m)) ∨
      key = "definitions" ∧ value = (definitions spec).toJson := by
  simp only [documentJson, MethodDocument.toJson, methodDocument, Json.entries, List.mem_append,
    List.mem_cons, List.not_mem_nil, or_false] at h
  rcases h with ((h | h | h | h | h) | h) | h
  · exact .inl (by simp [(Prod.mk.inj h).1])
  · exact .inl (by simp [(Prod.mk.inj h).1])
  · exact .inl (by simp [(Prod.mk.inj h).1])
  · exact .inl (by simp [(Prod.mk.inj h).1])
  · exact .inr (.inl (Prod.mk.inj h))
  · exact .inl (by simp [mem_requiredEntry h])
  · exact .inr (.inr (Prod.mk.inj h))

/-- Where no name is defined twice, the definitions are the structs and then the enums,
each under its own name. -/
theorem entries_definitions {spec : Specification} (h : spec.definedNames.Nodup) :
    (definitions spec).toJson.entries =
      spec.structs.map (fun s => (s.name, (Entry.ofStruct s).toJson))
        ++ spec.enums.map (fun e => (e.name, (Entry.ofEnumeration e).toJson)) := by
  have hkeys : ((spec.structs.map (fun s => (s.name, Entry.ofStruct s))
      ++ spec.enums.map fun e => (e.name, Entry.ofEnumeration e)).map Prod.fst).Nodup := by
    simpa [Specification.definedNames, Function.comp_def] using h
  simp only [Definitions.toJson, Json.ofTable, Json.entries, Table.map, definitions,
    Table.entries_ofList hkeys, List.map_append, List.map_map, Function.comp_def]

/-- A document leads to the parameters that are written and to the entries of the table. -/
theorem below_document_entry {spec : Specification} {m : Method} {keyword : Keyword} {child : Json}
    (h : Below (documentJson spec m) keyword child) :
    (∃ name f, keyword = .property name ∧ lastNamed (bodyParameters m) name = some f ∧
      child = Property.toJson ⟨f.description, .ofSignature f.type⟩) ∨
    ∃ name, keyword = .definition name ∧ (name, child) ∈ (definitions spec).toJson.entries := by
  obtain ⟨listed, hlisted, hselects⟩ := h
  rcases mem_entries_document hlisted with hkey | ⟨hkey, rfl⟩ | ⟨hkey, rfl⟩
  · cases keyword <;> simp [Keyword.key] at hkey
  · cases keyword <;> simp [Keyword.key] at hkey
    case property name =>
      obtain ⟨f, hf, hchild⟩ := mem_propertiesJson.1 hselects
      exact .inl ⟨name, f, rfl, hf, hchild⟩
  · cases keyword <;> simp [Keyword.key] at hkey
    case definition name => exact .inr ⟨name, rfl, hselects⟩

/-- Where no name is defined twice, these are all the definitions. -/
theorem below_document {spec : Specification} (hnames : spec.definedNames.Nodup) {m : Method}
    {keyword : Keyword} {child : Json} (h : Below (documentJson spec m) keyword child) :
    (∃ name f, keyword = .property name ∧ lastNamed (bodyParameters m) name = some f ∧
      child = Property.toJson ⟨f.description, .ofSignature f.type⟩) ∨
    (∃ st ∈ spec.structs, keyword = .definition st.name ∧ child = (Entry.ofStruct st).toJson) ∨
    (∃ e ∈ spec.enums, keyword = .definition e.name ∧
      child = (Entry.ofEnumeration e).toJson) := by
  rcases below_document_entry h with hparameter | ⟨name, rfl, hentry⟩
  · exact .inl hparameter
  · right
    simp only [entries_definitions hnames, List.mem_append, List.mem_map, Prod.mk.injEq] at hentry
    rcases hentry with ⟨st, hst, rfl, hchild⟩ | ⟨e, he, rfl, hchild⟩
    · exact .inl ⟨st, hst, rfl, hchild.symm⟩
    · exact .inr ⟨e, he, rfl, hchild.symm⟩

theorem below_parameter (spec : Specification) {m : Method} {name : String} {f : Field}
    (h : lastNamed (bodyParameters m) name = some f) :
    Below (documentJson spec m) (.property name)
      (Property.toJson ⟨f.description, .ofSignature f.type⟩) :=
  ⟨propertiesJson (properties (bodyParameters m)),
    by simp [documentJson, MethodDocument.toJson, methodDocument, Json.entries, Keyword.key],
    mem_propertiesJson.2 ⟨f, h, rfl⟩⟩

theorem below_definition_struct {spec : Specification} (hnames : spec.definedNames.Nodup)
    (m : Method) {st : Struct} (h : st ∈ spec.structs) :
    Below (documentJson spec m) (.definition st.name) (Entry.ofStruct st).toJson := by
  refine ⟨(definitions spec).toJson, ?_, ?_⟩
  · simp [documentJson, MethodDocument.toJson, methodDocument, Json.entries, Keyword.key]
  · simp only [Keyword.Selects, entries_definitions hnames]
    exact List.mem_append_left _ (List.mem_map_of_mem h)

theorem below_definition_enum {spec : Specification} (hnames : spec.definedNames.Nodup)
    (m : Method) {e : Enumeration} (h : e ∈ spec.enums) :
    Below (documentJson spec m) (.definition e.name) (Entry.ofEnumeration e).toJson := by
  refine ⟨(definitions spec).toJson, ?_, ?_⟩
  · simp [documentJson, MethodDocument.toJson, methodDocument, Json.entries, Keyword.key]
  · simp only [Keyword.Selects, entries_definitions hnames]
    exact List.mem_append_right _ (List.mem_map_of_mem h)

/-! ## What a reference was written for -/

/-- What a reference is written for. -/
inductive Origin where
  /-- A type inside a parameter or a field. -/
  | type (s : Signature)
  /-- A subtype of a polymorphic struct. -/
  | subtype (s : Signature)
deriving DecidableEq, Repr

namespace Origin

/-- The name that is referred to. -/
def name : Origin → String
  | type s | subtype s => s.name

/-- What the reference takes its target for: a subtype has to be a struct. -/
def kind : Origin → Kind
  | type s => s.kind
  | subtype _ => .struct

/-- Types are written as references only if they name a definition. -/
def isReference : Origin → Bool
  | type s => s.isNamed
  | subtype _ => true

end Origin

/-- What stands at a place of the document of a method was written for this type or
subtype. Of several parameters or fields with one name the last one is written, and a
polymorphic struct shows its subtypes in place of its fields. -/
inductive WrittenFor (spec : Specification) (m : Method) : List Keyword → Origin → Prop
  | parameter {name : String} {f : Field} {place : List Keyword} {s : Signature}
      (written : lastNamed (bodyParameters m) name = some f) (shown : Shows f.type place s) :
      WrittenFor spec m (.property name :: place) (.type s)
  | field {st : Struct} {name : String} {f : Field} {place : List Keyword} {s : Signature}
      (declared : st ∈ spec.structs) (plain : st.union = none)
      (written : lastNamed st.fields name = some f) (shown : Shows f.type place s) :
      WrittenFor spec m (.definition st.name :: .property name :: place) (.type s)
  | subtype {st : Struct} {index : Nat} {s : Signature} (declared : st ∈ spec.structs)
      (listed : st.oneOf[index]? = some s) :
      WrittenFor spec m [.definition st.name, .alternative index] (.subtype s)

variable {spec : Specification} {m : Method}

/-- The entry of a struct without subtypes. -/
theorem ofStruct_plain {st : Struct} (h : st.union = none) :
    Entry.ofStruct st =
      .record st.name st.description (properties st.fields) (requiredNames st.fields) := by
  rw [Entry.ofStruct, h]

/-- The entry of a struct with subtypes. -/
theorem ofStruct_union {st : Struct} {union : Union} (h : st.union = some union) :
    Entry.ofStruct st = .union st.name st.description (st.oneOf.map (·.name))
      union.discriminator.property := by
  rw [Entry.ofStruct, Struct.oneOf, h]

/-- A reference inside the fragment of a field was written for a type that is shown
there. -/
theorem shows_of_ref {f : Field} {place : List Keyword} {node value : Json}
    (hnode : NodeAt (Property.toJson ⟨f.description, .ofSignature f.type⟩) place node)
    (href : ("$ref", value) ∈ node.entries) :
    ∃ s, Shows f.type place s ∧ s.isNamed = true ∧ value = .text (referenceStart ++ s.name) := by
  obtain ⟨description, s, hshows, rfl⟩ := nodeAt_property hnode f.description f.type rfl
  exact ⟨s, hshows, mem_entries_ref_iff.1 href⟩

/-- **Every reference keyword was written for something.** Whatever place of a document
holds one, a type that names a definition or a subtype is at that place, and the text is
its name after the start of all references. -/
theorem writtenFor_of_ref (hnames : spec.definedNames.Nodup) {place : List Keyword}
    {node value : Json} (hnode : NodeAt (documentJson spec m) place node)
    (href : ("$ref", value) ∈ node.entries) :
    ∃ origin, WrittenFor spec m place origin ∧ origin.isReference = true ∧
      value = .text (referenceStart ++ origin.name) := by
  cases hnode with
  -- the document itself is no reference
  | here =>
    rcases mem_entries_document href with hkey | ⟨hkey, -⟩ | ⟨hkey, -⟩ <;>
      exact absurd hkey (by decide)
  | down step rest =>
    rcases below_document hnames step with ⟨name, f, rfl, hf, rfl⟩ | ⟨st, hst, rfl, rfl⟩ |
      ⟨e, he, rfl, rfl⟩
    · obtain ⟨s, hshows, hs⟩ := shows_of_ref rest href
      exact ⟨.type s, .parameter hf hshows, hs⟩
    -- inside the entry of a struct: below a field, or one of its subtypes
    · cases rest with
      | here => exact absurd href not_ref_entry
      | down step' rest' =>
        cases hunion : st.union with
        | none =>
          rw [ofStruct_plain hunion] at step'
          obtain ⟨name, f, rfl, hf, rfl⟩ := below_record step'
          obtain ⟨s, hshows, hs⟩ := shows_of_ref rest' href
          exact ⟨.type s, .field hst hunion hf hshows, hs⟩
        | some union =>
          rw [ofStruct_union hunion] at step'
          obtain ⟨index, name, rfl, hname, rfl⟩ := below_union step'
          rw [List.getElem?_map, Option.map_eq_some_iff] at hname
          obtain ⟨s, hs, rfl⟩ := hname
          cases rest' with
          | here =>
            simp only [Json.entries, reference, List.mem_singleton, Prod.mk.injEq] at href
            exact ⟨.subtype s, .subtype hst hs, rfl, href.2⟩
          | down step'' rest'' => exact absurd step'' not_below_reference
    -- inside the entry of an enum there is nothing
    · cases rest with
      | here => exact absurd href not_ref_entry
      | down step' rest' => exact absurd step' not_below_enumeration

/-- Every type that names a definition, and every subtype, is written as the reference
to its name. -/
theorem ref_of_writtenFor (hnames : spec.definedNames.Nodup) {place : List Keyword}
    {origin : Origin} (h : WrittenFor spec m place origin) (href : origin.isReference = true) :
    ∃ node, NodeAt (documentJson spec m) place node ∧
      ("$ref", .text (referenceStart ++ origin.name)) ∈ node.entries := by
  cases h with
  | @parameter name f place s written shown =>
    obtain ⟨description, hnode⟩ := nodeAt_of_shows shown f.description
    exact ⟨_, .down (below_parameter spec written) hnode, mem_entries_ref_iff.2 ⟨href, rfl⟩⟩
  | @field st name f place s declared plain written shown =>
    obtain ⟨description, hnode⟩ := nodeAt_of_shows shown f.description
    have hproperty : Below (Entry.ofStruct st).toJson (.property name)
        (Property.toJson ⟨f.description, .ofSignature f.type⟩) := by
      refine ⟨propertiesJson (properties st.fields), ?_, mem_propertiesJson.2 ⟨f, written, rfl⟩⟩
      have hmem := mem_properties.2 ⟨f, written, rfl⟩
      have hne : (properties st.fields).entries ≠ [] := List.ne_nil_of_mem hmem
      simp [ofStruct_plain plain, Entry.toJson, Json.entries, Keyword.key, hne]
    exact ⟨_, .down (below_definition_struct hnames m declared) (.down hproperty hnode),
      mem_entries_ref_iff.2 ⟨href, rfl⟩⟩
  | @subtype st index s declared listed =>
    have halternative : Below (Entry.ofStruct st).toJson (.alternative index)
        (.object [reference s.name]) := by
      cases hunion : st.union with
      | none => simp [Struct.oneOf, hunion] at listed
      | some union =>
        refine ⟨.list ((st.oneOf.map (·.name)).map fun s => .object [reference s]), ?_, ?_⟩
        · simp [ofStruct_union hunion, Entry.toJson, Json.entries, Keyword.key]
        · simp [Keyword.Selects, listed]
    exact ⟨_, .down (below_definition_struct hnames m declared) (.down halternative (.here _)),
      List.mem_singleton_self _⟩

theorem struct_eq_of_name_eq (hnames : spec.definedNames.Nodup) {st st' : Struct}
    (h : st ∈ spec.structs) (h' : st' ∈ spec.structs) (hname : st.name = st'.name) : st = st' :=
  List.inj_on_of_nodup_map (List.nodup_append.1 hnames).1 h h' hname

/-- What stands at a place was written for one thing only. -/
theorem WrittenFor.functional (hnames : spec.definedNames.Nodup) {place place' : List Keyword}
    {origin origin' : Origin} (h : WrittenFor spec m place origin)
    (h' : WrittenFor spec m place' origin') (hplace : place = place') : origin = origin' := by
  cases h with
  | parameter written shown =>
    cases h' with
    | parameter written' shown' =>
      -- one field is the last one of its name, and its type shows one thing at a place
      simp only [List.cons.injEq, Keyword.property.injEq] at hplace
      obtain ⟨rfl, rfl⟩ := hplace
      rw [written] at written'
      cases written'
      rw [shown.functional shown']
    | field => simp at hplace
    | subtype => simp at hplace
  | field declared plain written shown =>
    cases h' with
    | parameter => simp at hplace
    | field declared' plain' written' shown' =>
      simp only [List.cons.injEq, Keyword.definition.injEq, Keyword.property.injEq] at hplace
      obtain ⟨hname, rfl, rfl⟩ := hplace
      cases struct_eq_of_name_eq hnames declared declared' hname
      rw [written] at written'
      cases written'
      rw [shown.functional shown']
    | subtype => simp at hplace
  | subtype declared listed =>
    cases h' with
    | parameter => simp at hplace
    | field => simp at hplace
    | subtype declared' listed' =>
      simp only [List.cons.injEq, Keyword.definition.injEq, Keyword.alternative.injEq,
        and_true] at hplace
      obtain ⟨hname, rfl⟩ := hplace
      cases struct_eq_of_name_eq hnames declared declared' hname
      rw [listed] at listed'
      cases listed'
      rfl

/-! ## Where references lead -/

/-- The node is the definition of a name as a struct, which is an object, or as an enum,
which is a text with a list of values; either is titled by the name. -/
def Defines (node : Json) (name : String) : Kind → Prop
  | .struct => node.get? "type" = some (.text "object") ∧ node.get? "title" = some (.text name)
  | .enum => node.get? "type" = some (.text "string") ∧ node.get? "title" = some (.text name) ∧
      ∃ values, node.get? "enum" = some (.list values)
  | _ => False

theorem defines_struct (st : Struct) : Defines (Entry.ofStruct st).toJson st.name .struct := by
  cases hunion : st.union with
  | none =>
    rw [ofStruct_plain hunion]
    simp only [Defines, Entry.toJson, Json.get?, Json.entries, headEntries, textUnlessEmpty,
      requiredEntry, Primitive.word]
    split <;> split <;> split <;> simp [List.lookup_cons]
  | some union =>
    rw [ofStruct_union hunion]
    simp only [Defines, Entry.toJson, Json.get?, Json.entries, headEntries, textUnlessEmpty,
      Primitive.word]
    split <;> simp [List.lookup_cons]

theorem defines_enum (e : Enumeration) :
    Defines (Entry.ofEnumeration e).toJson e.name .enum := by
  simp only [Defines, Entry.ofEnumeration, Entry.toJson, Json.get?, Json.entries, headEntries,
    textUnlessEmpty, Primitive.word, Json.texts]
  split <;> simp [List.lookup_cons]

/-- In a specification without defects, whatever a reference was written for is defined
as the kind that it is taken for. -/
theorem kindOf?_of_writtenFor (hresolved : spec.unresolvedReferences = [])
    (hm : m ∈ spec.methods) {place : List Keyword} {origin : Origin}
    (h : WrittenFor spec m place origin) (href : origin.isReference = true) :
    spec.kindOf? origin.name = some origin.kind := by
  have hnone : ∀ r, r ∉ spec.unresolvedReferences := by
    intro r
    rw [hresolved]
    exact List.not_mem_nil
  cases h with
  | @parameter name f place s written shown =>
    -- the check goes through all parameters, also through those that are not written
    have hf : f ∈ m.parameters := (List.mem_filter.1 (mem_of_lastNamed written)).1
    have hnoneIn : ∀ r, r ∉ spec.unresolvedIn m.id m.parameters := by
      intro r hr
      exact hnone r (Specification.mem_unresolvedReferences.2 (.inr (.inr (.inr ⟨m, hm, hr⟩))))
    exact Specification.kindOf?_of_unresolvedIn_eq_nil hnoneIn hf
      (Signature.mem_references.2 ⟨shown.mem_nodes, href⟩)
  | @field st name f place s declared plain written shown =>
    have hnoneIn : ∀ r, r ∉ spec.unresolvedIn st.name st.fields := by
      intro r hr
      exact hnone r (Specification.mem_unresolvedReferences.2 (.inl ⟨st, declared, hr⟩))
    exact Specification.kindOf?_of_unresolvedIn_eq_nil hnoneIn (mem_of_lastNamed written)
      (Signature.mem_references.2 ⟨shown.mem_nodes, href⟩)
  | @subtype st index s declared listed =>
    refine Specification.kindOf?_of_unresolvedSubtypes_eq_nil ?_ listed
    intro r hr
    exact hnone r (Specification.mem_unresolvedReferences.2 (.inr (.inl ⟨st, declared, hr⟩)))

/-- What a name is defined as is found under the name in every document. -/
theorem exists_definition (hnames : spec.definedNames.Nodup) (m : Method) {name : String}
    {kind : Kind} (h : spec.kindOf? name = some kind) :
    ∃ entry, NodeAt (documentJson spec m) [.definition name] entry ∧ Defines entry name kind := by
  rcases Specification.kindOf?_struct_or_enum h with rfl | rfl
  · obtain ⟨st, hst, rfl⟩ := Specification.kindOf?_eq_struct.1 h
    exact ⟨_, .down (below_definition_struct hnames m hst) (.here _), defines_struct st⟩
  · obtain ⟨-, e, he, rfl⟩ := Specification.kindOf?_eq_enum.1 h
    exact ⟨_, .down (below_definition_enum hnames m he) (.here _), defines_enum e⟩

/-- The definitions of a document are listed under their key, which occurs once. -/
theorem get?_definitions (spec : Specification) (m : Method) :
    (documentJson spec m).get? "definitions" = some (definitions spec).toJson := by
  simp [documentJson, MethodDocument.toJson, methodDocument, Json.get?, Json.entries]

/-! ## The guarantee -/

/-- The references of a document are sound: wherever a reference keyword stands, it was
written for a type or a subtype, its text names the target and the target is defined in
the same document as the kind that is expected; every type that names a definition and
every subtype is written as such a reference; and the definitions are one entry for each
declared struct and enum, in their order. -/
structure SoundReferences (spec : Specification) (m : Method) (document : Json) : Prop where
  leads : ∀ (place : List Keyword) (node value : Json), NodeAt document place node →
    ("$ref", value) ∈ node.entries →
    (∃ origin, WrittenFor spec m place origin) ∧
    ∀ origin, WrittenFor spec m place origin →
      value = .text ("#/definitions/" ++ origin.name) ∧
      ∃ entry, NodeAt document [.definition origin.name] entry ∧
        Defines entry origin.name origin.kind
  written : ∀ (place : List Keyword) (origin : Origin), WrittenFor spec m place origin →
    origin.isReference = true →
    ∃ node, NodeAt document place node ∧
      ("$ref", .text ("#/definitions/" ++ origin.name)) ∈ node.entries
  definitions : ∃ all, document.get? "definitions" = some (.object all) ∧
    all.map Prod.fst = spec.definedNames ∧ (all.map Prod.fst).Nodup ∧
    (∀ st ∈ spec.structs, ∃ entry, (st.name, entry) ∈ all ∧ Defines entry st.name .struct) ∧
    (∀ e ∈ spec.enums, ∃ entry, (e.name, entry) ∈ all ∧ Defines entry e.name .enum)

/-- Without defects in the specification the references of every document are sound. -/
theorem soundReferences_of_no_defects (hresolved : spec.unresolvedReferences = [])
    (hnames : spec.definedNames.Nodup) (hm : m ∈ spec.methods) :
    SoundReferences spec m (documentJson spec m) where
  leads := by
    intro place node value hnode href
    obtain ⟨origin, hwritten, hreference, hvalue⟩ := writtenFor_of_ref hnames hnode href
    refine ⟨⟨origin, hwritten⟩, ?_⟩
    -- whatever else was written there is the same thing
    intro origin' hwritten'
    cases hwritten.functional hnames hwritten' rfl
    exact ⟨hvalue, exists_definition hnames m
      (kindOf?_of_writtenFor hresolved hm hwritten hreference)⟩
  written := by
    intro place origin hwritten href
    exact ref_of_writtenFor hnames hwritten href
  definitions := by
    refine ⟨(Schema.definitions spec).toJson.entries, get?_definitions spec m, ?_⟩
    have hentries := entries_definitions hnames
    have hkeys : (Schema.definitions spec).toJson.entries.map Prod.fst = spec.definedNames := by
      simp [hentries, Specification.definedNames, Function.comp_def]
    refine ⟨hkeys, hkeys ▸ hnames, ?_, ?_⟩
    · intro st hst
      refine ⟨_, ?_, defines_struct st⟩
      rw [hentries]
      exact List.mem_append_left _ (List.mem_map_of_mem hst)
    · intro e he
      refine ⟨_, ?_, defines_enum e⟩
      rw [hentries]
      exact List.mem_append_right _ (List.mem_map_of_mem he)

/-- **Strict generation yields closed documents.** Whenever it yields documents at all,
there is one for each method, in order, and the references of each are sound. -/
theorem generateStrict_soundReferences (spec : Specification)
    (docs : List (MethodDocument Definitions)) (h : generateStrict spec = .ok docs) :
    List.Forall₂ (fun m (doc : MethodDocument Definitions) =>
      SoundReferences spec m (doc.toJson Definitions.toJson)) spec.methods docs := by
  obtain ⟨hvalid, rfl⟩ := generateStrict_eq_ok.1 h
  obtain ⟨hresolved, hduplicates⟩ := Specification.validate_eq_ok.1 hvalid
  have hnames := Specification.duplicateNames_eq_nil.1 hduplicates
  rw [generate, List.forall₂_map_right_iff, List.forall₂_same]
  intro m hm
  exact soundReferences_of_no_defects hresolved hnames hm

/-- A union of two structs, one of which mentions an enum inside a map of lists. -/
def zoo : Specification where
  services := [
    { name := "Zoo"
      methods := [
        { service := "Zoo", name := "add", returnType := some (.base "void")
          parameters := [
            { name := "animals", type := .listOf (.struct "Animal" none) },
            { name := "token", type := .base "string", location := .header }] }] }]
  structs := [
    { name := "Animal"
      union := some
        { subtypes := [.struct "Cat" none, .struct "Dog" none]
          discriminator := ⟨"species", by decide⟩
          subtypes_ne_nil := by decide } },
    { name := "Cat"
      fields := [
        { name := "colors", type := .mapOf (.base "string") (.listOf (.enum "Color" none)) }] },
    { name := "Dog", fields := [{ name := "$ref", type := .struct "Animal" none }] }]
  enums := [{ name := "Color", values := [{ name := "BLACK" }, { name := "WHITE" }] }]

/-- The references in the one document of `zoo` are sound. -/
theorem zoo_soundReferences :
    generateStrict zoo = .ok (generate zoo) ∧
    List.Forall₂ (fun m (doc : MethodDocument Definitions) =>
      SoundReferences zoo m (doc.toJson Definitions.toJson)) zoo.methods (generate zoo) := by
  have hstrict : generateStrict zoo = .ok (generate zoo) :=
    generateStrict_eq_ok.2 ⟨Specification.validate_eq_ok.2 ⟨by decide, by decide⟩, rfl⟩
  exact ⟨hstrict, generateStrict_soundReferences zoo (generate zoo) hstrict⟩

end ServiceSchema.Schema

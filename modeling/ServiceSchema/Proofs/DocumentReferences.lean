/-
Which references of a converted document dangle.

Conversion and the referential checks look names up in different tables. In a type text,
structs and exceptions count and win over enums; among the definitions, structs win over
enums and exceptions are absent. What is left between the tables are the names that only
an exception has: the leaves of type texts that dangle are exactly these, always as
structs. A subtype is taken for a struct unseen, so it dangles unless a struct has its name.
-/
import ServiceSchema.Proofs.Conversion
import ServiceSchema.Proofs.References
import ServiceSchema.Proofs.TypeGrammar

set_option autoImplicit false

namespace ServiceSchema

/-! ## Leaves of a type text -/

namespace TypeText

/-- The names among the tokens that no bracket opens after, left to right. The others are the
keywords of containers. -/
def leaves : List Token → List String
  | [] => []
  | .name word :: rest => if startsOpening rest then leaves rest else word :: leaves rest
  | _ :: rest => leaves rest

/-- The leaves of a text; one that is not made of tokens has none. -/
def leafNames (text : String) : List String :=
  match tokens text with
  | .error _ => []
  | .ok ts => leaves ts

theorem startsOpening_append (ts : List Token) {us : List Token}
    (hus : startsOpening us = false) : startsOpening (ts ++ us) = startsOpening ts := by
  cases ts with
  | nil => exact hus
  | cons t ts => cases t <;> rfl

/-- What is a leaf does not change with what follows, unless that starts with an opening
bracket. -/
theorem leaves_append (ts us : List Token) (hus : startsOpening us = false) :
    leaves (ts ++ us) = leaves ts ++ leaves us := by
  induction ts with
  | nil => rfl
  | cons t ts ih =>
    cases t with
    | name word =>
      simp only [List.cons_append, leaves, startsOpening_append ts hus, ih]
      split <;> rfl
    | opening | closing | comma => exact ih

theorem leaves_closed (ts : List Token) (bracket : Bracket) :
    leaves (ts ++ [.closing bracket]) = leaves ts := by
  rw [leaves_append ts [.closing bracket] rfl]
  exact List.append_nil _

variable {names : Names}

/-- The types that a signature refers to by name are what its leaves mean, in their order. -/
theorem references_of_denotes {ts : List Token} {s : Signature} (h : Denotes names ts s) :
    s.references = ((leaves ts).map names.leaf).filter Signature.isNamed := by
  induction h with
  | @struct name declared =>
    change _ = [names.leaf name].filter Signature.isNamed
    rw [Names.leaf, if_pos declared]
    rfl
  | @enum name undeclared declared =>
    change _ = [names.leaf name].filter Signature.isNamed
    rw [Names.leaf, if_neg undeclared, if_pos declared]
    rfl
  | @base name noStruct noEnum =>
    change _ = [names.leaf name].filter Signature.isNamed
    rw [Names.leaf, if_neg noStruct, if_neg noEnum]
    rfl
  | @iterable name bracket ts s keyword element ih =>
    have hleaves : leaves (.name name :: .opening bracket :: (ts ++ [.closing bracket]))
        = leaves ts :=
      leaves_closed ts bracket
    rw [hleaves, ← ih]
    rfl
  | @map name bracket ks vs k v keyword key value ihKey ihValue =>
    have hleaves : leaves (.name name :: .opening bracket ::
        (ks ++ .comma :: (vs ++ [.closing bracket]))) = leaves ks ++ leaves vs :=
      (leaves_append ks _ rfl).trans (congrArg (leaves ks ++ ·) (leaves_closed vs bracket))
    rw [hleaves, List.map_append, List.filter_append, ← ihKey, ← ihValue]
    exact List.filter_append _ _

end TypeText

namespace Document

open TypeText (leafNames)

variable {d : Document} {spec : Specification}

/-! ## The names of a document -/

/-- The names of the structs. -/
def structNames (d : Document) : List String := d.structs.map (·.name)

/-- The names of the exceptions. -/
def exceptionNames (d : Document) : List String := d.exceptions.map (·.name)

/-- The names of the enums. -/
def enumNames (d : Document) : List String := d.enums.map (·.name)

/-- An exception has the name, and no struct. -/
def ExceptionOnly (d : Document) (name : String) : Prop :=
  name ∈ d.exceptionNames ∧ name ∉ d.structNames

instance (d : Document) : DecidablePred d.ExceptionOnly :=
  fun name => inferInstanceAs (Decidable (name ∈ d.exceptionNames ∧ name ∉ d.structNames))

theorem mem_structs_names {name : String} :
    name ∈ d.names.structs ↔ name ∈ d.structNames ∨ name ∈ d.exceptionNames :=
  List.mem_append

theorem Describes.structNames_eq (h : d.Describes spec) :
    d.structNames = spec.structs.map (·.name) :=
  map_eq_map_of_forall₂ h.structs fun _ _ hs => hs.name.symm

theorem Describes.enumNames_eq (h : d.Describes spec) :
    d.enumNames = spec.enums.map (·.name) :=
  map_eq_map_of_forall₂ h.enums fun _ _ he => he.name.symm

theorem Describes.kindOf?_eq_struct (h : d.Describes spec) {name : String} :
    spec.kindOf? name = some .struct ↔ name ∈ d.structNames := by
  rw [Specification.kindOf?_eq_struct, h.structNames_eq, List.mem_map]

theorem Describes.kindOf?_eq_enum (h : d.Describes spec) {name : String} :
    spec.kindOf? name = some .enum ↔ name ∉ d.structNames ∧ name ∈ d.enumNames := by
  rw [Specification.kindOf?_eq_enum, h.structNames_eq, h.enumNames_eq, List.mem_map, List.mem_map]
  simp

/-! ## Leaves that dangle -/

theorem leaf_eq_struct {name : String} (h : d.ExceptionOnly name) :
    d.names.leaf name = .struct name none :=
  if_pos (mem_structs_names.2 (.inr h.1))

/-- A leaf dangles exactly if its name is that of an exception only. The names of structs are
found; what is taken for an enum is no struct, so it is found as an enum; every other name is
no reference. -/
theorem Describes.leaf_dangles_iff (h : d.Describes spec) {name : String} :
    ((d.names.leaf name).isNamed = true ∧
      spec.kindOf? (d.names.leaf name).name ≠ some (d.names.leaf name).kind) ↔
      d.ExceptionOnly name := by
  unfold TypeText.Names.leaf
  split
  · next hdeclared =>
    change (true = true ∧ spec.kindOf? name ≠ some .struct) ↔ _
    rw [ne_eq, h.kindOf?_eq_struct]
    constructor
    · rintro ⟨-, hstruct⟩
      exact ⟨(mem_structs_names.1 hdeclared).resolve_left hstruct, hstruct⟩
    · rintro ⟨-, hstruct⟩
      exact ⟨rfl, hstruct⟩
  next hundeclared =>
  have hnot : ¬ d.ExceptionOnly name := fun hname =>
    hundeclared (mem_structs_names.2 (.inr hname.1))
  split
  · next henum =>
    have hstruct : name ∉ d.structNames := fun hname =>
      hundeclared (mem_structs_names.2 (.inl hname))
    change (true = true ∧ spec.kindOf? name ≠ some .enum) ↔ _
    rw [ne_eq, h.kindOf?_eq_enum]
    exact ⟨fun hdangles => absurd ⟨hstruct, henum⟩ hdangles.2, fun hname => absurd hname hnot⟩
  · exact ⟨fun hdangles => absurd hdangles.1 Bool.false_ne_true, fun hname => absurd hname hnot⟩

/-- What dangles in a type that was read is a struct for each leaf of its text that is the name
of an exception only. -/
theorem Describes.dangling_of_parse (h : d.Describes spec) {text : String} {s : Signature}
    (hparse : TypeText.parse d.names text = .ok s) :
    (s.references.filter fun r => spec.kindOf? r.name != some r.kind) =
      ((leafNames text).filter (d.ExceptionOnly ·)).map fun name => .struct name none := by
  obtain ⟨ts, htokens, hdenotes⟩ := TypeText.parse_eq_ok_iff.1 hparse
  have hleaves : leafNames text = TypeText.leaves ts := by simp only [leafNames, htokens]
  rw [TypeText.references_of_denotes hdenotes, hleaves, List.filter_filter, List.filter_map]
  have hfilter : ((fun r => (spec.kindOf? r.name != some r.kind) && r.isNamed) ∘ d.names.leaf) =
      fun name => decide (d.ExceptionOnly name) := by
    funext name
    rw [Bool.eq_iff_iff, decide_eq_true_iff, ← h.leaf_dangles_iff]
    simp [and_comm]
  rw [hfilter]
  refine List.map_congr_left fun name hname => leaf_eq_struct ?_
  simpa using (List.mem_filter.1 hname).2

/-! ## The references of a document that dangle -/

/-- The leaves that dangle in the type texts of fields or parameters. -/
def danglingIn (d : Document) (owner : String) (fields : List FieldEntry) :
    List UnresolvedReference :=
  fields.flatMap fun f =>
    ((leafNames f.type).filter (d.ExceptionOnly ·)).map fun name => ⟨owner, f.name, name, .struct⟩

/-- The subtypes of a struct that are no structs. -/
def danglingSubtypes (d : Document) (s : StructEntry) : List UnresolvedReference :=
  (s.oneOf.zipIdx.filter fun (name, _) => name ∉ d.structNames).map fun (name, index) =>
    ⟨s.name, "oneOf[" ++ Nat.repr index ++ "]", name, .struct⟩

/-- The identifier of a method of the service. -/
def MethodEntry.id (service : String) (m : MethodEntry) : String :=
  service ++ "/" ++ (if m.overload = 0 then m.name else m.name ++ "-" ++ Nat.repr m.overload)
    ++ "/" ++ Text.upper m.httpMethod

/-- All references of a document that dangle. -/
def danglingReferences (d : Document) : List UnresolvedReference :=
  d.structs.flatMap (fun s => d.danglingIn s.name s.fields ++ d.danglingSubtypes s)
    ++ d.exceptions.flatMap (fun s => d.danglingIn s.name s.fields)
    ++ d.services.flatMap fun s =>
        s.methods.flatMap fun m => d.danglingIn (m.id s.name) m.parameters

theorem Describes.danglingIn_eq (h : d.Describes spec) (owner : String) {entries : List FieldEntry}
    {fields : List Field} (hfields : List.Forall₂ (FieldEntry.Describes d.names) entries fields) :
    d.danglingIn owner entries = spec.unresolvedIn owner fields := by
  refine flatMap_eq_flatMap_of_forall₂ hfields fun entry field hfield => ?_
  rw [h.dangling_of_parse hfield.type, List.map_map, hfield.name]
  rfl

theorem Describes.danglingSubtypes_eq (h : d.Describes spec) {entry : StructEntry}
    {struct : Struct} (hstruct : entry.Describes d.names struct) :
    d.danglingSubtypes entry = spec.unresolvedSubtypes struct := by
  unfold danglingSubtypes Specification.unresolvedSubtypes
  rw [hstruct.subtypes, List.zipIdx_map, List.filter_map, List.map_map, hstruct.name]
  have hfilter : ((fun x : Signature × Nat => spec.kindOf? x.1.name != some .struct) ∘
      Prod.map (fun name => Signature.struct name none) id) =
      fun x => decide (x.1 ∉ d.structNames) := by
    funext x
    rw [Bool.eq_iff_iff, decide_eq_true_iff, ← h.kindOf?_eq_struct, Function.comp_apply, bne_iff_ne]
    rfl
  rw [hfilter]
  rfl

theorem MethodEntry.Describes.id_eq {names : TypeText.Names} {service : String}
    {entry : MethodEntry} {method : Method} (h : entry.Describes names service method) :
    entry.id service = method.id := by
  rw [Method.id, Method.overloadName, h.service, h.name, h.overload, h.httpMethod]
  rfl

/-- The checks find what dangles in the document, in the same order and as often. -/
theorem Describes.danglingReferences_eq (h : d.Describes spec) :
    d.danglingReferences = spec.unresolvedReferences := by
  unfold danglingReferences Specification.unresolvedReferences Specification.methods
  rw [List.flatMap_assoc]
  refine congrArg₂ (· ++ ·) (congrArg₂ (· ++ ·) ?_ ?_) ?_
  · refine flatMap_eq_flatMap_of_forall₂ h.structs fun entry struct hstruct => ?_
    rw [h.danglingIn_eq entry.name hstruct.fields, h.danglingSubtypes_eq hstruct, hstruct.name]
  · refine flatMap_eq_flatMap_of_forall₂ h.exceptions fun entry struct hstruct => ?_
    rw [h.danglingIn_eq entry.name hstruct.fields, hstruct.name]
  · refine flatMap_eq_flatMap_of_forall₂ h.services fun entry service hservice => ?_
    refine flatMap_eq_flatMap_of_forall₂ hservice.methods fun method _ hmethod => ?_
    rw [h.danglingIn_eq (method.id entry.name) hmethod.parameters, hmethod.id_eq]

/-! ## Documents without dangling references -/

/-- No leaf is an exception only, every subtype is a struct and no name is used twice. -/
structure Closed (d : Document) : Prop where
  fields : ∀ s ∈ d.structs ++ d.exceptions, ∀ f ∈ s.fields,
    ∀ name ∈ leafNames f.type, ¬ d.ExceptionOnly name
  parameters : ∀ s ∈ d.services, ∀ m ∈ s.methods, ∀ f ∈ m.parameters,
    ∀ name ∈ leafNames f.type, ¬ d.ExceptionOnly name
  subtypes : ∀ s ∈ d.structs, ∀ name ∈ s.oneOf, name ∈ d.structNames
  distinct : (d.structNames ++ d.enumNames).Nodup

theorem danglingIn_eq_nil {owner : String} {fields : List FieldEntry} :
    d.danglingIn owner fields = [] ↔
      ∀ f ∈ fields, ∀ name ∈ leafNames f.type, ¬ d.ExceptionOnly name := by
  simp [danglingIn, List.flatMap_eq_nil_iff, List.filter_eq_nil_iff]

theorem danglingSubtypes_eq_nil {s : StructEntry} :
    d.danglingSubtypes s = [] ↔ ∀ name ∈ s.oneOf, name ∈ d.structNames := by
  unfold danglingSubtypes
  rw [List.map_eq_nil_iff, List.filter_eq_nil_iff]
  simp only [decide_eq_true_eq, not_not, Prod.forall]
  constructor
  · intro h name hname
    obtain ⟨index, hindex⟩ := List.getElem?_of_mem hname
    exact h name index (List.mem_zipIdx_iff_getElem?.2 hindex)
  · intro h name index hpair
    exact h name (List.mem_of_getElem? (List.mem_zipIdx_iff_getElem?.1 hpair))

theorem closed_iff :
    d.Closed ↔ d.danglingReferences = [] ∧ (d.structNames ++ d.enumNames).Nodup := by
  simp only [danglingReferences, List.append_eq_nil_iff, List.flatMap_eq_nil_iff,
    danglingIn_eq_nil, danglingSubtypes_eq_nil]
  constructor
  · intro h
    refine ⟨⟨⟨fun s hs => ⟨?_, h.subtypes s hs⟩, fun s hs => ?_⟩, h.parameters⟩, h.distinct⟩
    · exact h.fields s (List.mem_append_left _ hs)
    · exact h.fields s (List.mem_append_right _ hs)
  · rintro ⟨⟨⟨hstructs, hexceptions⟩, hparameters⟩, hdistinct⟩
    refine ⟨fun s hs => ?_, hparameters, fun s hs => (hstructs s hs).2, hdistinct⟩
    rcases List.mem_append.1 hs with hs | hs
    · exact (hstructs s hs).1
    · exact hexceptions s hs

/-- Strict generation accepts exactly what is closed. -/
theorem Describes.generateStrict_iff (h : d.Describes spec) :
    (∃ docs, Schema.generateStrict spec = .ok docs) ↔ d.Closed := by
  have hnames : d.structNames ++ d.enumNames = spec.definedNames := by
    rw [h.structNames_eq, h.enumNames_eq, Specification.definedNames]
  simp only [Schema.generateStrict_eq_ok, Specification.validate_eq_ok,
    Specification.duplicateNames_eq_nil]
  rw [closed_iff, h.danglingReferences_eq, hnames]
  constructor
  · rintro ⟨docs, hvalid, -⟩
    exact hvalid
  · intro hvalid
    exact ⟨Schema.generate spec, hvalid, rfl⟩

end Document

/-! ## References to enums -/

/-- The types that a specification is written with: of a field, of a parameter or of a result. -/
inductive Specification.Uses (spec : Specification) : Signature → Prop
  | field {s : Struct} {f : Field} (declared : s ∈ spec.structs ++ spec.exceptions)
      (listed : f ∈ s.fields) : Uses spec f.type
  | parameter {m : Method} {f : Field} (declared : m ∈ spec.methods) (listed : f ∈ m.parameters) :
      Uses spec f.type
  | result {m : Method} {s : Signature} (declared : m ∈ spec.methods)
      (returned : m.returnType = some s) : Uses spec s

namespace Document

variable {d : Document} {spec : Specification}

theorem exists_parse_of_fields {names : TypeText.Names} {entries : List FieldEntry}
    {fields : List Field} (h : List.Forall₂ (FieldEntry.Describes names) entries fields)
    {f : Field} (hf : f ∈ fields) : ∃ text, TypeText.parse names text = .ok f.type := by
  obtain ⟨entry, -, hentry⟩ := exists_left_of_forall₂ h hf
  exact ⟨entry.type, hentry.type⟩

theorem Describes.exists_method (h : d.Describes spec) {m : Method} (hm : m ∈ spec.methods) :
    ∃ service entry, MethodEntry.Describes d.names service entry m := by
  obtain ⟨service, hservice, hm⟩ := List.mem_flatMap.1 hm
  obtain ⟨entry, -, hentry⟩ := exists_left_of_forall₂ h.services hservice
  obtain ⟨method, -, hmethod⟩ := exists_left_of_forall₂ hentry.methods hm
  exact ⟨entry.name, method, hmethod⟩

/-- Every type of the specification was read off a text. -/
theorem Describes.exists_parse (h : d.Describes spec) {s : Signature} (hs : spec.Uses s) :
    ∃ text, TypeText.parse d.names text = .ok s := by
  cases hs with
  | field declared listed =>
    rcases List.mem_append.1 declared with declared | declared
    · obtain ⟨entry, -, hentry⟩ := exists_left_of_forall₂ h.structs declared
      exact exists_parse_of_fields hentry.fields listed
    · obtain ⟨entry, -, hentry⟩ := exists_left_of_forall₂ h.exceptions declared
      exact exists_parse_of_fields hentry.fields listed
  | parameter declared listed =>
    obtain ⟨service, entry, hentry⟩ := h.exists_method declared
    exact exists_parse_of_fields hentry.parameters listed
  | result declared returned =>
    obtain ⟨service, entry, hentry⟩ := h.exists_method declared
    obtain ⟨s', hparse, hreturned⟩ := hentry.returnType
    obtain rfl : s' = s := Option.some.inj (hreturned.symm.trans returned)
    exact ⟨entry.returnType, hparse⟩

/-- What a type that was read takes for an enum is one. -/
theorem Describes.kindOf?_of_enum (h : d.Describes spec) {text : String} {s : Signature}
    (hparse : TypeText.parse d.names text = .ok s) {r : Signature} (hr : r ∈ s.references)
    (henum : r.kind = .enum) : spec.kindOf? r.name = some .enum := by
  by_contra hkind
  have hdangles : r ∈ s.references.filter fun r => spec.kindOf? r.name != some r.kind :=
    List.mem_filter.2 ⟨hr, by simpa [henum] using hkind⟩
  rw [h.dangling_of_parse hparse] at hdangles
  obtain ⟨name, -, rfl⟩ := List.mem_map.1 hdangles
  cases henum

/-- **The unresolved references of a converted document are the leaves that only an exception
has the name of, and the subtypes that are no structs.** There is one for each occurrence, in
the order of the document and always as a struct. Strict generation therefore accepts exactly
the documents that are closed, and a type that is taken for an enum is always found. -/
theorem convert_unresolvedReferences (converted : d.convert = .ok spec) :
    spec.unresolvedReferences = d.danglingReferences ∧
    ((∃ docs, Schema.generateStrict spec = .ok docs) ↔ d.Closed) ∧
    (∀ s, spec.Uses s → ∀ r ∈ s.references, r.kind = .enum → spec.kindOf? r.name = some .enum) := by
  have hdescribes := (convert_eq_ok converted).2
  refine ⟨hdescribes.danglingReferences_eq.symm, hdescribes.generateStrict_iff, ?_⟩
  intro s hs r hr henum
  obtain ⟨text, hparse⟩ := hdescribes.exists_parse hs
  exact hdescribes.kindOf?_of_enum hparse hr henum

/-- In the kennel, `Closed` dangles in a field, as a subtype and in a parameter. -/
theorem kennel_unresolvedReferences :
    kennel.convert = .ok kennelSpecification ∧
    kennelSpecification.unresolvedReferences =
      [⟨"Animal", "oneOf[1]", "Closed", .struct⟩, ⟨"Dog", "stays", "Closed", .struct⟩,
        ⟨"Kennel/admit-1/PUT", "unless", "Closed", .struct⟩] ∧
    ¬ ∃ docs, Schema.generateStrict kennelSpecification = .ok docs := by
  obtain ⟨hreferences, hstrict, -⟩ := convert_unresolvedReferences convert_kennel
  have hdangling : kennel.danglingReferences =
      [⟨"Animal", "oneOf[1]", "Closed", .struct⟩, ⟨"Dog", "stays", "Closed", .struct⟩,
        ⟨"Kennel/admit-1/PUT", "unless", "Closed", .struct⟩] := by
    decide +kernel
  refine ⟨convert_kennel, hreferences.trans hdangling, fun hdocs => ?_⟩
  have hsubtype := (hstrict.1 hdocs).subtypes _ List.mem_cons_self "Closed" (by decide)
  exact absurd hsubtype (by decide)

end Document

end ServiceSchema

/-
What the specification of a document is, and when there is none.

Two layers check a document. Reading it establishes that subtypes and discriminator are
given together and that overload numbers are natural. Conversion reads the type texts and
checks the names. The layers fit: whatever conversion refuses it refuses for a defect of
its own (`Defect`), the checks of the model that repeat those of reading never fail, and a
document without such defects always has a specification. `Describes` says what that
specification is, entry by entry: nothing is lost, added or put into another order.
-/
import ServiceSchema.Document.Load
import ServiceSchema.Proofs.Constructors
import ServiceSchema.Proofs.Outcomes

set_option autoImplicit false

namespace ServiceSchema

/-! ## Checked input

A check of several parts is passed exactly if each part passes. -/

namespace Validation.Checked

variable {α β γ : Type}

theorem both_eq_valid {f : α → β → γ} {x : Checked α} {y : Checked β} {c : γ} :
    both f x y = .valid c ↔ ∃ a b, x = .valid a ∧ y = .valid b ∧ f a b = c := by
  cases x <;> cases y <;> simp [both]

theorem seq_eq_valid {f : Checked (α → β)} {x : Checked α} {b : β} :
    f <*> x = .valid b ↔ ∃ g a, f = .valid g ∧ x = .valid a ∧ g a = b :=
  both_eq_valid

theorem map_eq_valid {f : α → β} {x : Checked α} {b : β} :
    f <$> x = .valid b ↔ ∃ a, x = .valid a ∧ f a = b := by
  cases x <;> simp [Functor.map, both]

theorem under_eq_valid {x : Checked α} {step : Step} {a : α} :
    x.under step = .valid a ↔ x = .valid a := by
  cases x <;> simp [under]

theorem andThen_eq_valid {x : Checked α} {f : α → Checked β} {b : β} :
    x.andThen f = .valid b ↔ ∃ a, x = .valid a ∧ f a = .valid b := by
  cases x <;> simp [andThen]

/-- Whatever is in a list that passed has passed itself. -/
theorem exists_of_items_eq_valid {check : α → Checked β} {xs : List α} {position : Nat}
    {ys : List β} (h : items check position xs = .valid ys) {y : β} (hy : y ∈ ys) :
    ∃ x ∈ xs, check x = .valid y := by
  induction xs generalizing position ys with
  | nil =>
    cases h
    cases hy
  | cons x xs ih =>
    obtain ⟨y', ys', hx, hxs, rfl⟩ := both_eq_valid.1 h
    rcases List.mem_cons.1 hy with rfl | hy
    · exact ⟨x, List.mem_cons_self, under_eq_valid.1 hx⟩
    · obtain ⟨x', hx', hcheck⟩ := ih hxs hy
      exact ⟨x', List.mem_cons_of_mem x hx', hcheck⟩

end Validation.Checked

namespace Document

open Validation.Checked

/-! ## What reading establishes -/

theorem isConsistent_of_readStruct {e : Entries} {s : StructEntry} (h : readStruct e = .valid s) :
    s.isConsistent = true := by
  obtain ⟨s', -, h⟩ := andThen_eq_valid.1 h
  unfold checkUnion at h
  split at h
  · next hconsistent =>
    cases h
    exact hconsistent
  · cases h

theorem isConsistent_of_readStructs {v : Yaml.Value} {structs : List StructEntry}
    (h : readStructs v = .valid structs) {s : StructEntry} (hs : s ∈ structs) :
    s.isConsistent = true := by
  have hlist : ∃ items, Validation.Checked.items (readRecord "StructDoc" readStruct) 0 items
      = .valid structs := by
    unfold readStructs readList at h
    split at h
    · exact ⟨_, h⟩
    · exact ⟨_, h⟩
    · cases h
  obtain ⟨items, hitems⟩ := hlist
  obtain ⟨item, -, hitem⟩ := exists_of_items_eq_valid hitems hs
  unfold readRecord at hitem
  split at hitem
  · exact isConsistent_of_readStruct hitem
  · cases hitem

theorem isConsistent_of_optional {key : String} {e : Entries} {structs : List StructEntry}
    (h : optional key readStructs [] e = .valid structs) :
    ∀ s ∈ structs, s.isConsistent = true := by
  intro s hs
  unfold optional at h
  split at h
  · exact isConsistent_of_readStructs (under_eq_valid.1 h) hs
  · cases h
    cases hs

/-- In a document that was read, subtypes and discriminator are given together. -/
theorem isConsistent_of_readEntries {e : Entries} {d : Document} (h : readEntries e = .valid d) :
    ∀ s ∈ d.structs ++ d.exceptions, s.isConsistent = true := by
  unfold readEntries at h
  simp only [seq_eq_valid, map_eq_valid] at h
  obtain ⟨_, exceptions, ⟨_, enums, ⟨_, structs, ⟨services, -, rfl⟩, hstructs, rfl⟩, -, rfl⟩,
    hexceptions, rfl⟩ := h
  intro s hs
  rcases List.mem_append.1 hs with hs | hs
  · exact isConsistent_of_optional hstructs s hs
  · exact isConsistent_of_optional hexceptions s hs

/-! ## Defects

What can be wrong with an entry that was read, and what conversion says of it. -/

/-- What is wrong with a field or parameter. -/
inductive FieldEntry.Defect (names : TypeText.Names) (entry : FieldEntry) : ConversionError → Prop
  | type {error : TypeText.ParseError} (refused : TypeText.parse names entry.type = .error error) :
      Defect names entry (.type entry.type error)
  | name (empty : entry.name = "") : Defect names entry (.model .emptyFieldName)

/-- What is wrong with a struct or exception. -/
inductive StructEntry.Defect (names : TypeText.Names) (entry : StructEntry) :
    ConversionError → Prop
  | field {f : FieldEntry} {error : ConversionError} (listed : f ∈ entry.fields)
      (defect : f.Defect names error) : Defect names entry error
  | subtype (empty : "" ∈ entry.oneOf) : Defect names entry (.model (.signature .emptyName))
  | name (empty : entry.name = "") : Defect names entry (.model .emptyStructName)

/-- What is wrong with a method. -/
inductive MethodEntry.Defect (names : TypeText.Names) (entry : MethodEntry) :
    ConversionError → Prop
  | returnType {error : TypeText.ParseError}
      (refused : TypeText.parse names entry.returnType = .error error) :
      Defect names entry (.type entry.returnType error)
  | parameter {f : FieldEntry} {error : ConversionError} (listed : f ∈ entry.parameters)
      (defect : f.Defect names error) : Defect names entry error
  | name (empty : entry.name = "") : Defect names entry (.model .emptyMethodName)

/-- What is wrong with a document. -/
inductive Defect (d : Document) : ConversionError → Prop
  | method {s : ServiceEntry} {m : MethodEntry} {error : ConversionError}
      (declared : s ∈ d.services) (listed : m ∈ s.methods) (defect : m.Defect d.names error) :
      Defect d error
  | enum {e : EnumEntry} (declared : e ∈ d.enums) (empty : e.name = "") :
      Defect d (.model .emptyEnumName)
  | struct {s : StructEntry} {error : ConversionError} (declared : s ∈ d.structs ++ d.exceptions)
      (defect : s.Defect d.names error) : Defect d error

/-! ## Entries that can be converted -/

/-- A field or parameter with a name, whose text is a type. -/
structure FieldEntry.Convertible (names : TypeText.Names) (entry : FieldEntry) : Prop where
  name : entry.name ≠ ""
  type : ∃ s, TypeText.parse names entry.type = .ok s

/-- A struct or exception with a name, whose subtypes have names. -/
structure StructEntry.Convertible (names : TypeText.Names) (entry : StructEntry) : Prop where
  name : entry.name ≠ ""
  fields : ∀ f ∈ entry.fields, f.Convertible names
  subtypes : ∀ subtype ∈ entry.oneOf, subtype ≠ ""

/-- A method with a name, whose result is a type. -/
structure MethodEntry.Convertible (names : TypeText.Names) (entry : MethodEntry) : Prop where
  name : entry.name ≠ ""
  returnType : ∃ s, TypeText.parse names entry.returnType = .ok s
  parameters : ∀ f ∈ entry.parameters, f.Convertible names

/-- A document in which everything but the services has a name and every type text is a
type, given the names that the document declares. -/
structure Convertible (d : Document) : Prop where
  methods : ∀ s ∈ d.services, ∀ m ∈ s.methods, m.Convertible d.names
  enums : ∀ e ∈ d.enums, e.name ≠ ""
  structs : ∀ s ∈ d.structs ++ d.exceptions, s.Convertible d.names

theorem FieldEntry.Convertible.not_defect {names : TypeText.Names} {entry : FieldEntry}
    (h : entry.Convertible names) {error : ConversionError} : ¬ entry.Defect names error := by
  intro hdefect
  cases hdefect with
  | type refused =>
    obtain ⟨s, hs⟩ := h.type
    rw [hs] at refused
    cases refused
  | name empty => exact h.name empty

theorem StructEntry.Convertible.not_defect {names : TypeText.Names} {entry : StructEntry}
    (h : entry.Convertible names) {error : ConversionError} : ¬ entry.Defect names error := by
  intro hdefect
  cases hdefect with
  | field listed defect => exact (h.fields _ listed).not_defect defect
  | subtype empty => exact h.subtypes "" empty rfl
  | name empty => exact h.name empty

theorem MethodEntry.Convertible.not_defect {names : TypeText.Names} {entry : MethodEntry}
    (h : entry.Convertible names) {error : ConversionError} : ¬ entry.Defect names error := by
  intro hdefect
  cases hdefect with
  | returnType refused =>
    obtain ⟨s, hs⟩ := h.returnType
    rw [hs] at refused
    cases refused
  | parameter listed defect => exact (h.parameters _ listed).not_defect defect
  | name empty => exact h.name empty

theorem Convertible.not_defect {d : Document} (h : d.Convertible) {error : ConversionError} :
    ¬ d.Defect error := by
  intro hdefect
  cases hdefect with
  | method declared listed defect => exact (h.methods _ declared _ listed).not_defect defect
  | enum declared empty => exact h.enums _ declared empty
  | struct declared defect => exact (h.structs _ declared).not_defect defect

/-! ## What an entry describes -/

/-- The field has the name of the entry and the type that its text means, it is required
exactly if the entry says so, and a missing description is empty. -/
structure FieldEntry.Describes (names : TypeText.Names) (entry : FieldEntry) (field : Field) :
    Prop where
  name : field.name = entry.name
  type : TypeText.parse names entry.type = .ok field.type
  required : field.isRequired = entry.required
  location : field.location = entry.location
  description : field.description = entry.description.getD ""

/-- The struct has the fields and subtypes of the entry, in their order. It is polymorphic
exactly if the entry lists subtypes. -/
structure StructEntry.Describes (names : TypeText.Names) (entry : StructEntry) (struct : Struct) :
    Prop where
  name : struct.name = entry.name
  description : struct.description = entry.description.getD ""
  fields : List.Forall₂ (FieldEntry.Describes names) entry.fields struct.fields
  subtypes : struct.oneOf = entry.oneOf.map fun name => .struct name none
  polymorphic : struct.isPolymorphic = true ↔ entry.oneOf ≠ []
  discriminator : struct.discriminator.getD "" = entry.discriminator.getD ""
  secondName : struct.secondName = none

/-- The enum has the values of the entry, in their order. -/
structure EnumEntry.Describes (entry : EnumEntry) (enum : Enumeration) : Prop where
  name : enum.name = entry.name
  description : enum.description = entry.description.getD ""
  values : enum.values = entry.values.map fun name => { name }

/-- The endpoint is at the address of the entry. -/
structure EndpointEntry.Describes (entry : EndpointEntry) (endpoint : Endpoint) : Prop where
  host : endpoint.host = entry.host
  path : endpoint.path = entry.path
  mimeTypes : endpoint.mimeTypes = entry.mimeTypes

/-- The method has the parameters and endpoints of the entry, in their order, and the type
that the text of its result means. -/
structure MethodEntry.Describes (names : TypeText.Names) (service : String) (entry : MethodEntry)
    (method : Method) : Prop where
  service : method.service = service
  name : method.name = entry.name
  description : method.description = entry.description.getD ""
  returnType : ∃ s, TypeText.parse names entry.returnType = .ok s ∧ method.returnType = some s
  parameters : List.Forall₂ (FieldEntry.Describes names) entry.parameters method.parameters
  overload : method.overload = entry.overload
  endpoints : List.Forall₂ EndpointEntry.Describes entry.endpoints method.endpoints
  httpMethod : method.httpMethod = Text.upper entry.httpMethod

/-- The service has the methods of the entry, in their order. -/
structure ServiceEntry.Describes (names : TypeText.Names) (entry : ServiceEntry)
    (service : Service) : Prop where
  name : service.name = entry.name
  description : service.description = entry.description.getD ""
  methods : List.Forall₂ (MethodEntry.Describes names entry.name) entry.methods service.methods

/-- The specification has one part for each entry of the document, in the same order. -/
structure Describes (d : Document) (spec : Specification) : Prop where
  services : List.Forall₂ (ServiceEntry.Describes d.names) d.services spec.services
  enums : List.Forall₂ EnumEntry.Describes d.enums spec.enums
  structs : List.Forall₂ (StructEntry.Describes d.names) d.structs spec.structs
  exceptions : List.Forall₂ (StructEntry.Describes d.names) d.exceptions spec.exceptions

/-! ## Converting one entry

Each kind of entry has two lemmas: what a conversion that succeeds says of the entry and
of the result, and that one that fails names a defect. -/

variable {names : TypeText.Names}

theorem ofModel_eq_ok {α : Type} {x : Except ModelError α} {a : α} :
    ofModel x = .ok a ↔ x = .ok a :=
  Except.mapError_eq_ok

theorem ofModel_eq_error {α : Type} {x : Except ModelError α} {error : ConversionError} :
    ofModel x = .error error ↔ ∃ cause, x = .error cause ∧ .model cause = error :=
  Except.mapError_eq_error

theorem readType_eq_ok {text : String} {s : Signature} :
    readType names text = .ok s ↔ TypeText.parse names text = .ok s :=
  Except.mapError_eq_ok

theorem readType_eq_error {text : String} {error : ConversionError} :
    readType names text = .error error ↔
      ∃ cause, TypeText.parse names text = .error cause ∧ .type text cause = error :=
  Except.mapError_eq_error

theorem readSubtype_eq_ok {name : String} {s : Signature} :
    readSubtype name = .ok s ↔ name ≠ "" ∧ s = .struct name none := by
  rw [readSubtype, ofModel_eq_ok, Except.mapError_eq_ok, Signature.make?_struct_eq_ok]

theorem readSubtype_eq_error {name : String} {error : ConversionError}
    (h : readSubtype name = .error error) : name = "" ∧ error = .model (.signature .emptyName) := by
  obtain ⟨_, hmade, rfl⟩ := ofModel_eq_error.1 h
  obtain ⟨_, hcause, rfl⟩ := Except.mapError_eq_error.1 hmade
  obtain ⟨hempty, rfl⟩ := Signature.make?_struct_eq_error.1 hcause
  exact ⟨hempty, rfl⟩

theorem FieldEntry.convert_eq_ok {entry : FieldEntry} {field : Field}
    (h : entry.convert names = .ok field) :
    entry.Convertible names ∧ entry.Describes names field := by
  obtain ⟨type, hread, hmade⟩ := Except.bind_eq_ok.1 h
  have htype := readType_eq_ok.1 hread
  obtain ⟨hname, rfl⟩ := Field.make?_eq_ok.1 (ofModel_eq_ok.1 hmade)
  refine ⟨⟨hname, type, htype⟩, rfl, htype, ?_, rfl, rfl⟩
  cases entry.required <;> rfl

theorem FieldEntry.convert_eq_error {entry : FieldEntry} {error : ConversionError}
    (h : entry.convert names = .error error) : entry.Defect names error := by
  rcases Except.bind_eq_error.1 h with hread | ⟨type, -, hmade⟩
  · obtain ⟨cause, hcause, rfl⟩ := readType_eq_error.1 hread
    exact .type hcause
  · obtain ⟨cause, hcause, rfl⟩ := ofModel_eq_error.1 hmade
    obtain ⟨hempty, rfl⟩ := Field.make?_eq_error.1 hcause
    exact .name hempty

theorem FieldEntry.mapM_convert_eq_ok {entries : List FieldEntry} {fields : List Field}
    (h : entries.mapM (·.convert names) = .ok fields) :
    (∀ entry ∈ entries, entry.Convertible names) ∧
      List.Forall₂ (FieldEntry.Describes names) entries fields := by
  have hpointwise := (Except.mapM_eq_ok.1 h).imp fun _ _ => FieldEntry.convert_eq_ok
  refine ⟨fun entry hentry => ?_, hpointwise.imp fun _ _ hfield => hfield.2⟩
  obtain ⟨field, -, hfield⟩ := exists_right_of_forall₂ hpointwise hentry
  exact hfield.1

theorem FieldEntry.mapM_convert_eq_error {entries : List FieldEntry} {error : ConversionError}
    (h : entries.mapM (·.convert names) = .error error) :
    ∃ entry ∈ entries, entry.Defect names error := by
  obtain ⟨entry, hentry, hconvert⟩ := Except.exists_of_mapM_eq_error h
  exact ⟨entry, hentry, FieldEntry.convert_eq_error hconvert⟩

/-- The discriminator that an entry gives; an empty text gives none. -/
def StructEntry.discriminator? (entry : StructEntry) : Option Discriminator :=
  if h : entry.discriminator.getD "" = "" then none else some ⟨entry.discriminator.getD "", h⟩

/-- Nothing can be wrong with a discriminator that is given. -/
theorem StructEntry.convert_eq (entry : StructEntry) :
    entry.convert names = (do
      let fields ← entry.fields.mapM (·.convert names)
      let subtypes ← entry.oneOf.mapM readSubtype
      ofModel (Struct.make? entry.name fields (entry.description.getD "") subtypes
        entry.discriminator? none)) := by
  unfold StructEntry.convert StructEntry.discriminator?
  cases hgiven : entry.discriminator with
  | none => simp
  | some property =>
    by_cases hempty : property = ""
    · simp [hempty]
    · simp only [Option.getD_some, if_neg hempty, dif_neg hempty, Discriminator.make?]
      rfl

theorem mapM_readSubtype_eq_ok {subtypes : List String} {signatures : List Signature}
    (h : subtypes.mapM readSubtype = .ok signatures) :
    (∀ subtype ∈ subtypes, subtype ≠ "") ∧
      signatures = subtypes.map fun name => .struct name none := by
  have hpointwise := Except.mapM_eq_ok.1 h
  simp only [readSubtype_eq_ok] at hpointwise
  constructor
  · intro subtype hsubtype
    obtain ⟨s, -, hs, -⟩ := exists_right_of_forall₂ hpointwise hsubtype
    exact hs
  · have hmapped : subtypes.map (fun name => Signature.struct name none) = signatures.map id :=
      map_eq_map_of_forall₂ hpointwise fun name s hs => hs.2.symm
    rw [hmapped, List.map_id]

theorem StructEntry.isConsistent_iff {entry : StructEntry} :
    entry.isConsistent = true ↔ (entry.oneOf = [] ↔ entry.discriminator? = none) := by
  rw [isConsistent, beq_iff_eq, Bool.eq_iff_iff, List.isEmpty_iff, String.isEmpty_iff,
    discriminator?]
  split <;> simp [*]

theorem StructEntry.convert_eq_ok {entry : StructEntry} {struct : Struct}
    (h : entry.convert names = .ok struct) :
    entry.Convertible names ∧ entry.Describes names struct := by
  rw [StructEntry.convert_eq] at h
  obtain ⟨fields, hfields, hrest⟩ := Except.bind_eq_ok.1 h
  obtain ⟨signatures, hsignatures, hmade⟩ := Except.bind_eq_ok.1 hrest
  obtain ⟨hconvertible, hdescribes⟩ := FieldEntry.mapM_convert_eq_ok hfields
  obtain ⟨hsubtypes, rfl⟩ := mapM_readSubtype_eq_ok hsignatures
  obtain ⟨hname, name, rfl, description, subtypes, discriminator, second⟩ :=
    Struct.make?_eq_ok (ofModel_eq_ok.1 hmade)
  refine ⟨⟨hname, hconvertible, hsubtypes⟩, name, description, hdescribes, subtypes, ?_, ?_, second⟩
  · rw [Struct.isPolymorphic_iff, subtypes, ne_eq, List.map_eq_nil_iff]
  · rw [discriminator, StructEntry.discriminator?]
    split
    · next hempty => simp [hempty]
    · rfl

/-- Where subtypes and discriminator are given together, only a missing name is left for
the model to refuse. -/
theorem StructEntry.convert_eq_error {entry : StructEntry} (hconsistent : entry.isConsistent = true)
    {error : ConversionError} (h : entry.convert names = .error error) :
    entry.Defect names error := by
  rw [StructEntry.convert_eq] at h
  rcases Except.bind_eq_error.1 h with hfields | ⟨fields, -, hrest⟩
  · obtain ⟨f, hf, hdefect⟩ := FieldEntry.mapM_convert_eq_error hfields
    exact .field hf hdefect
  rcases Except.bind_eq_error.1 hrest with hsubtypes | ⟨signatures, hsignatures, hmade⟩
  · obtain ⟨subtype, hsubtype, hread⟩ := Except.exists_of_mapM_eq_error hsubtypes
    obtain ⟨rfl, rfl⟩ := readSubtype_eq_error hread
    exact .subtype hsubtype
  obtain ⟨-, rfl⟩ := mapM_readSubtype_eq_ok hsignatures
  obtain ⟨cause, hcause, rfl⟩ := ofModel_eq_error.1 hmade
  rcases Struct.make?_eq_error hcause with ⟨hempty, rfl⟩ | hapart
  · exact .name hempty
  · rw [List.map_eq_nil_iff] at hapart
    exact absurd (StructEntry.isConsistent_iff.1 hconsistent) hapart

theorem EnumEntry.convert_eq_ok {entry : EnumEntry} {enum : Enumeration}
    (h : entry.convert = .ok enum) : entry.name ≠ "" ∧ entry.Describes enum := by
  obtain ⟨hname, rfl⟩ := Enumeration.make?_eq_ok.1 (ofModel_eq_ok.1 h)
  exact ⟨hname, rfl, rfl, rfl⟩

theorem EnumEntry.convert_eq_error {entry : EnumEntry} {error : ConversionError}
    (h : entry.convert = .error error) : entry.name = "" ∧ error = .model .emptyEnumName := by
  obtain ⟨cause, hcause, rfl⟩ := ofModel_eq_error.1 h
  obtain ⟨hempty, rfl⟩ := Enumeration.make?_eq_error.1 hcause
  exact ⟨hempty, rfl⟩

theorem MethodEntry.convert_eq_ok {service : String} {entry : MethodEntry} {method : Method}
    (h : entry.convert names service = .ok method) :
    entry.Convertible names ∧ entry.Describes names service method := by
  obtain ⟨returnType, hread, hrest⟩ := Except.bind_eq_ok.1 h
  obtain ⟨parameters, hparameters, hmade⟩ := Except.bind_eq_ok.1 hrest
  have hreturn := readType_eq_ok.1 hread
  obtain ⟨hconvertible, hdescribes⟩ := FieldEntry.mapM_convert_eq_ok hparameters
  obtain ⟨hname, -, rfl⟩ := Method.make?_eq_ok.1 (ofModel_eq_ok.1 hmade)
  have hendpoints : List.Forall₂ EndpointEntry.Describes entry.endpoints
      (entry.endpoints.map EndpointEntry.convert) := by
    rw [List.forall₂_map_right_iff, List.forall₂_same]
    exact fun endpoint _ => ⟨rfl, rfl, rfl⟩
  exact ⟨⟨hname, ⟨returnType, hreturn⟩, hconvertible⟩,
    rfl, rfl, rfl, ⟨returnType, hreturn, rfl⟩, hdescribes, rfl, hendpoints, rfl⟩

/-- The overload number of an entry is natural, so only a missing name is left for the model
to refuse. -/
theorem MethodEntry.convert_eq_error {service : String} {entry : MethodEntry}
    {error : ConversionError} (h : entry.convert names service = .error error) :
    entry.Defect names error := by
  rcases Except.bind_eq_error.1 h with hread | ⟨returnType, -, hrest⟩
  · obtain ⟨cause, hcause, rfl⟩ := readType_eq_error.1 hread
    exact .returnType hcause
  rcases Except.bind_eq_error.1 hrest with hparameters | ⟨parameters, -, hmade⟩
  · obtain ⟨f, hf, hdefect⟩ := FieldEntry.mapM_convert_eq_error hparameters
    exact .parameter hf hdefect
  obtain ⟨cause, hcause, rfl⟩ := ofModel_eq_error.1 hmade
  rcases Method.make?_eq_error hcause with ⟨hempty, rfl⟩ | hnegative
  · exact .name hempty
  · exact absurd hnegative (Int.not_lt.2 (Int.natCast_nonneg entry.overload))

theorem ServiceEntry.convert_eq_ok {entry : ServiceEntry} {service : Service}
    (h : entry.convert names = .ok service) :
    (∀ m ∈ entry.methods, m.Convertible names) ∧ entry.Describes names service := by
  obtain ⟨methods, hmethods, hservice⟩ := Except.bind_eq_ok.1 h
  cases hservice
  have hpointwise := (Except.mapM_eq_ok.1 hmethods).imp fun _ _ => MethodEntry.convert_eq_ok
  refine ⟨fun m hm => ?_, rfl, rfl, hpointwise.imp fun _ _ hmethod => hmethod.2⟩
  obtain ⟨method, -, hmethod⟩ := exists_right_of_forall₂ hpointwise hm
  exact hmethod.1

theorem ServiceEntry.convert_eq_error {entry : ServiceEntry} {error : ConversionError}
    (h : entry.convert names = .error error) : ∃ m ∈ entry.methods, m.Defect names error := by
  rcases Except.bind_eq_error.1 h with hmethods | ⟨methods, -, hservice⟩
  · obtain ⟨m, hm, hconvert⟩ := Except.exists_of_mapM_eq_error hmethods
    exact ⟨m, hm, MethodEntry.convert_eq_error hconvert⟩
  · cases hservice

/-! ## Converting a document -/

variable {d : Document}

/-- A text describes what its document is converted to, so all that follows holds of whatever is
loaded. -/
theorem ofText_eq_ok {text : String} {spec : Specification} :
    Specification.ofText text = .ok spec ↔ ∃ d, ofText text = .ok d ∧ d.convert = .ok spec := by
  simp only [Specification.ofText, Except.bind_eq_ok, Except.mapError_eq_ok]

theorem convert_eq_ok {spec : Specification} (h : d.convert = .ok spec) :
    d.Convertible ∧ d.Describes spec := by
  obtain ⟨services, hservices, hrest⟩ := Except.bind_eq_ok.1 h
  obtain ⟨enums, henums, hrest⟩ := Except.bind_eq_ok.1 hrest
  obtain ⟨structs, hstructs, hrest⟩ := Except.bind_eq_ok.1 hrest
  obtain ⟨exceptions, hexceptions, hspec⟩ := Except.bind_eq_ok.1 hrest
  cases hspec
  have hservices := (Except.mapM_eq_ok.1 hservices).imp fun _ _ => ServiceEntry.convert_eq_ok
  have henums := (Except.mapM_eq_ok.1 henums).imp fun _ _ => EnumEntry.convert_eq_ok
  have hstructs := (Except.mapM_eq_ok.1 hstructs).imp fun _ _ => StructEntry.convert_eq_ok
  have hexceptions := (Except.mapM_eq_ok.1 hexceptions).imp fun _ _ => StructEntry.convert_eq_ok
  refine ⟨⟨?_, ?_, ?_⟩, hservices.imp fun _ _ hs => hs.2, henums.imp fun _ _ he => he.2,
    hstructs.imp fun _ _ hs => hs.2, hexceptions.imp fun _ _ hs => hs.2⟩
  · intro s hs
    obtain ⟨service, -, hservice⟩ := exists_right_of_forall₂ hservices hs
    exact hservice.1
  · intro e he
    obtain ⟨enum, -, henum⟩ := exists_right_of_forall₂ henums he
    exact henum.1
  · intro s hs
    rcases List.mem_append.1 hs with hs | hs
    · obtain ⟨struct, -, hstruct⟩ := exists_right_of_forall₂ hstructs hs
      exact hstruct.1
    · obtain ⟨struct, -, hstruct⟩ := exists_right_of_forall₂ hexceptions hs
      exact hstruct.1

theorem convert_eq_error (hconsistent : ∀ s ∈ d.structs ++ d.exceptions, s.isConsistent = true)
    {error : ConversionError} (h : d.convert = .error error) : d.Defect error := by
  rcases Except.bind_eq_error.1 h with hservices | ⟨services, -, hrest⟩
  · obtain ⟨s, hs, hconvert⟩ := Except.exists_of_mapM_eq_error hservices
    obtain ⟨m, hm, hdefect⟩ := ServiceEntry.convert_eq_error hconvert
    exact .method hs hm hdefect
  rcases Except.bind_eq_error.1 hrest with henums | ⟨enums, -, hrest⟩
  · obtain ⟨e, he, hconvert⟩ := Except.exists_of_mapM_eq_error henums
    obtain ⟨hempty, rfl⟩ := EnumEntry.convert_eq_error hconvert
    exact .enum he hempty
  rcases Except.bind_eq_error.1 hrest with hstructs | ⟨structs, -, hrest⟩
  · obtain ⟨s, hs, hconvert⟩ := Except.exists_of_mapM_eq_error hstructs
    have hs := List.mem_append_left d.exceptions hs
    exact .struct hs (StructEntry.convert_eq_error (hconsistent s hs) hconvert)
  rcases Except.bind_eq_error.1 hrest with hexceptions | ⟨exceptions, -, hspec⟩
  · obtain ⟨s, hs, hconvert⟩ := Except.exists_of_mapM_eq_error hexceptions
    have hs := List.mem_append_right d.structs hs
    exact .struct hs (StructEntry.convert_eq_error (hconsistent s hs) hconvert)
  · cases hspec

/-- The checks of subtypes, discriminator and overload number, which are made when a
document is read and again when its parts are built. -/
inductive MadeTwice : ModelError → Prop
  | discriminatorName : MadeTwice .emptyDiscriminator
  | subtypesOnly (struct : String) : MadeTwice (.missingDiscriminator struct)
  | discriminatorOnly (struct : String) : MadeTwice (.missingSubtypes struct)
  | overload (number : Int) : MadeTwice (.negativeOverload number)

theorem FieldEntry.Defect.not_madeTwice {entry : FieldEntry} {cause : ModelError}
    (h : entry.Defect names (.model cause)) : ¬ MadeTwice cause := by
  cases h
  nofun

theorem Defect.not_madeTwice {cause : ModelError} (h : d.Defect (.model cause)) :
    ¬ MadeTwice cause := by
  cases h with
  | method _ _ defect =>
    cases defect with
    | parameter _ defect => exact defect.not_madeTwice
    | name => nofun
  | enum => nofun
  | struct _ defect =>
    cases defect with
    | field _ defect => exact defect.not_madeTwice
    | subtype => nofun
    | name => nofun

/-- **A document that was read has a specification exactly if its names are there and its
type texts are types.** The specification is then the one that the document describes.
Otherwise conversion names a defect of the document, which is never one that reading has
checked for already. -/
theorem convert_succeeds_iff {entries : Entries} (valid : readEntries entries = .valid d) :
    ((∃ spec, d.convert = .ok spec) ↔ d.Convertible) ∧
    (∀ spec, d.convert = .ok spec → d.Describes spec) ∧
    (∀ error, d.convert = .error error →
      d.Defect error ∧ ∀ cause, error = .model cause → ¬ MadeTwice cause) := by
  have hdefect : ∀ error, d.convert = .error error → d.Defect error :=
    fun error => convert_eq_error (isConsistent_of_readEntries valid)
  refine ⟨⟨?_, fun hconvertible => ?_⟩, fun spec h => (convert_eq_ok h).2, fun error h => ?_⟩
  · rintro ⟨spec, h⟩
    exact (convert_eq_ok h).1
  · cases hresult : d.convert with
    | ok spec => exact ⟨spec, rfl⟩
    | error error => exact absurd (hdefect error hresult) hconvertible.not_defect
  · refine ⟨hdefect error h, ?_⟩
    rintro cause rfl
    exact (hdefect _ h).not_madeTwice

/-! ## A kennel

The mapping and the document that it describes. `Closed` is an exception and nothing else,
and it is listed as a subtype and used as a type. -/

/-- A mapping with these texts under these keys. -/
def textEntries (entries : List (String × String)) : Entries :=
  entries.map fun (key, value) => (.text key, .text value)

/-- The mapping of a kennel. -/
def kennelEntries : Entries :=
  [(.text "services", .list [.mapping (textEntries [("name", "Kennel")] ++
      [(.text "methods", .list [.mapping (textEntries
          [("name", "admit"), ("http_method", "put"), ("return_type", "list<Dog>")] ++
        [(.text "parameters", .list [.mapping (textEntries [("name", "dog"), ("type", "Dog")]),
            .mapping (textEntries [("name", "unless"), ("type", "Closed")])]),
          (.text "overload_id", .int 1)])])])]),
    (.text "structs", .list [.mapping (textEntries [("name", "Animal"), ("discriminator", "kind")]
        ++ [(.text "oneOf", .list [.text "Dog", .text "Closed"])]),
      .mapping (textEntries [("name", "Dog")] ++
        [(.text "fields", .list [
            .mapping (textEntries [("name", "size"), ("type", "Size")] ++
              [(.text "required", .bool true)]),
            .mapping (textEntries [("name", "stays"), ("type", "map<string, list[Closed]>")])])])]),
    (.text "enums", .list [.mapping (textEntries [("name", "Size")] ++
        [(.text "values", .list [.text "SMALL", .text "LARGE"])])]),
    (.text "exceptions", .list [.mapping (textEntries [("name", "Closed")])])]

/-- The document of a kennel. -/
def kennel : Document where
  services :=
    [{ name := "Kennel"
       methods := [{ name := "admit", httpMethod := "put", returnType := "list<Dog>", overload := 1
                     parameters := [{ name := "dog", type := "Dog" },
                                    { name := "unless", type := "Closed" }] }] }]
  structs :=
    [{ name := "Animal", oneOf := ["Dog", "Closed"], discriminator := some "kind" },
     { name := "Dog"
       fields := [{ name := "size", type := "Size", required := true },
                  { name := "stays", type := "map<string, list[Closed]>" }] }]
  enums := [{ name := "Size", values := ["SMALL", "LARGE"] }]
  exceptions := [{ name := "Closed" }]

/-- Animals are dogs, or what `Closed` stands for. -/
def kennelSubtypes : List Signature := [.struct "Dog" none, .struct "Closed" none]

theorem kennelSubtypes_ne_nil : kennelSubtypes ≠ [] := List.cons_ne_nil _ _

theorem kind_ne_empty : "kind" ≠ "" := by decide

/-- The specification of a kennel. -/
def kennelSpecification : Specification where
  services :=
    [{ name := "Kennel"
       methods := [{ service := "Kennel", name := "admit", httpMethod := "PUT", overload := 1
                     returnType := some (.iterable "list" (.struct "Dog" none))
                     parameters := [{ name := "dog", type := .struct "Dog" none },
                                    { name := "unless", type := .struct "Closed" none }] }] }]
  structs :=
    [{ name := "Animal"
       union := some ⟨kennelSubtypes, ⟨"kind", kind_ne_empty⟩, kennelSubtypes_ne_nil⟩ },
     { name := "Dog"
       fields := [{ name := "size", type := .enum "Size" none, requirement := .required },
                  { name := "stays"
                    type := .map "map" (.base "string")
                      (.iterable "list" (.struct "Closed" none)) }] }]
  enums := [{ name := "Size", values := [{ name := "SMALL" }, { name := "LARGE" }] }]
  exceptions := [{ name := "Closed" }]

theorem readEntries_kennelEntries : readEntries kennelEntries = .valid kennel := by rfl

theorem convert_kennel : kennel.convert = .ok kennelSpecification := by decide +kernel

/-- The kennel has nothing that conversion could refuse, and is described as it is. -/
theorem kennel_convertible :
    readEntries kennelEntries = .valid kennel ∧ kennel.convert = .ok kennelSpecification ∧
    kennel.Convertible ∧ kennel.Describes kennelSpecification := by
  obtain ⟨hiff, hdescribes, -⟩ := convert_succeeds_iff readEntries_kennelEntries
  exact ⟨readEntries_kennelEntries, convert_kennel, hiff.1 ⟨kennelSpecification, convert_kennel⟩,
    hdescribes kennelSpecification convert_kennel⟩

end Document
end ServiceSchema

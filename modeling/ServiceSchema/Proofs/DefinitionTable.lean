/-
The table of definitions against the list of them.

A specification may define a name more than once, as a struct and as an enum or twice as
one of them. The table keeps the place where a name was defined first and the definition
that came last, the check of names reports every name that occurs again, and the look-ups
find the first struct and the first enum. These four agree exactly where no name is
defined twice.
-/
import Mathlib.Data.List.Perm.Subperm
import ServiceSchema.Proofs.ClassReferences
import ServiceSchema.Proofs.Tables
import ServiceSchema.Schema.Json

set_option autoImplicit false

namespace ServiceSchema

/-! ## First occurrences -/

/-- The names of a list of which `p` holds, each once and in the order in which they first occur. -/
structure ListsFirst (names : List String) (p : String → Prop) (listed : List String) : Prop where
  once : listed.Nodup
  mem_iff : ∀ name, name ∈ listed ↔ name ∈ names ∧ p name
  ordered : listed.Pairwise fun a b => names.idxOf a < names.idxOf b

namespace ListsFirst

variable {names listed : List String} {p : String → Prop}

theorem nil : ListsFirst [] p [] where
  once := .nil
  mem_iff := by simp
  ordered := .nil

/-- A further name leaves the order of those that occur already as it is. -/
theorem ordered_concat (h : ListsFirst names p listed) (name : String) :
    listed.Pairwise fun a b => (names ++ [name]).idxOf a < (names ++ [name]).idxOf b := by
  refine h.ordered.imp_of_mem fun {a b} ha hb hlt => ?_
  rwa [List.idxOf_append_of_mem ((h.mem_iff a).1 ha).1,
    List.idxOf_append_of_mem ((h.mem_iff b).1 hb).1]

/-- A name that occurs already is not listed again. -/
theorem concat_old (h : ListsFirst names (fun _ => True) listed) {name : String}
    (hname : name ∈ names) : ListsFirst (names ++ [name]) (fun _ => True) listed where
  once := h.once
  mem_iff := by
    intro other
    rw [h.mem_iff, List.mem_append, List.mem_singleton, and_true, and_true]
    exact ⟨.inl, fun hmem => hmem.elim id fun heq => heq ▸ hname⟩
  ordered := h.ordered_concat name

/-- A name that did not occur yet comes after all others. -/
theorem concat_new (h : ListsFirst names (fun _ => True) listed) {name : String}
    (hname : name ∉ names) :
    ListsFirst (names ++ [name]) (fun _ => True) (listed ++ [name]) where
  once := by
    refine h.once.append (List.nodup_singleton name) ?_
    rw [List.disjoint_singleton]
    exact fun hmem => hname ((h.mem_iff name).1 hmem).1
  mem_iff := by
    intro other
    rw [List.mem_append, List.mem_append, h.mem_iff, and_true, and_true]
  ordered := by
    refine List.pairwise_append.2 ⟨h.ordered_concat name, List.pairwise_singleton _ _, ?_⟩
    intro a ha b hb
    have hmem := ((h.mem_iff a).1 ha).1
    rw [List.mem_singleton.1 hb, List.idxOf_append_of_mem hmem, List.idxOf_append_of_notMem hname]
    exact Nat.lt_add_right _ (List.idxOf_lt_length_iff.2 hmem)

/-- Of the listed names those of which `p` holds stay in their order. -/
theorem filter (h : ListsFirst names (fun _ => True) listed) (p : String → Prop)
    [DecidablePred p] : ListsFirst names p (listed.filter p) where
  once := h.once.filter _
  mem_iff := by
    intro name
    rw [List.mem_filter, h.mem_iff, and_true, decide_eq_true_iff]
  ordered := h.ordered.filter _

/-- As many names are listed as there are exactly if none of them occurs twice. -/
theorem length_eq_iff (h : ListsFirst names (fun _ => True) listed) :
    listed.length = names.length ↔ names.Nodup := by
  have hsubset : listed ⊆ names := fun name hname => ((h.mem_iff name).1 hname).1
  constructor
  · intro hlength
    have hperm : listed.Perm names :=
      (h.once.subperm hsubset).perm_of_length_le (Nat.le_of_eq hlength.symm)
    exact hperm.nodup_iff.1 h.once
  · intro hnames
    refine List.Perm.length_eq ((List.perm_ext_iff_of_nodup h.once hnames).2 fun name => ?_)
    rw [h.mem_iff, and_true]

end ListsFirst

theorem eraseDups_concat (names : List String) (name : String) :
    (names ++ [name]).eraseDups =
      if name ∈ names then names.eraseDups else names.eraseDups ++ [name] := by
  rw [List.eraseDups_append]
  split
  · next h => simp [List.removeAll, h]
  · next h => simp [List.removeAll, h, List.eraseDups_cons]

theorem listsFirst_eraseDups (names : List String) :
    ListsFirst names (fun _ => True) names.eraseDups := by
  induction names using List.reverseRecOn with
  | nil => exact .nil
  | append_singleton names name ih =>
    rw [eraseDups_concat]
    split
    · next h => exact ih.concat_old h
    · next h => exact ih.concat_new h

/-! ## Keys of a table -/

/-- Setting a key that is there keeps all keys where they are. -/
theorem keys_setEntry {α : Type} {key : String} {entries : List (String × α)}
    (h : key ∈ entries.map Prod.fst) (value : α) :
    (setEntry key value entries).map Prod.fst = entries.map Prod.fst := by
  induction entries with
  | nil => cases h
  | cons entry rest ih =>
    obtain ⟨k, v⟩ := entry
    by_cases hk : k = key
    · subst hk
      rw [setEntry, if_pos rfl, List.map_cons, List.map_cons]
    · rw [List.map_cons, List.mem_cons] at h
      rw [setEntry, if_neg hk, List.map_cons, List.map_cons, ih (h.resolve_left (Ne.symm hk))]

namespace Table

variable {α : Type}

/-- Setting a key adds it behind the others, unless it is one of them. -/
theorem keys_set (t : Table α) (key : String) (value : α) :
    (t.set key value).keys = if key ∈ t.keys then t.keys else t.keys ++ [key] := by
  split
  · next h => exact keys_setEntry h value
  · next h => rw [keys, entries_set, setEntry_new h, List.map_append, List.map_singleton, keys]

/-- The keys of a table are those of the entries that it is built from, where they first occur. -/
theorem keys_ofList (entries : List (String × α)) :
    (ofList entries).keys = (entries.map Prod.fst).eraseDups := by
  induction entries using List.reverseRecOn with
  | nil => rfl
  | append_singleton entries e ih =>
    rw [ofList_concat, keys_set, ih, List.map_append, List.map_singleton, eraseDups_concat]
    simp only [List.mem_eraseDups]

theorem mem_map_entries {β : Type} {f : α → β} {t : Table α} {key : String} {y : β} :
    (key, y) ∈ (t.map f).entries ↔ ∃ x, (key, x) ∈ t.entries ∧ y = f x := by
  simp only [map, List.mem_map, Prod.exists, Prod.mk.injEq]
  constructor
  · rintro ⟨key, x, hx, rfl, rfl⟩
    exact ⟨x, hx, rfl⟩
  · rintro ⟨x, hx, rfl⟩
    exact ⟨key, x, hx, rfl, rfl⟩

@[simp] theorem keys_map {β : Type} (f : α → β) (t : Table α) : (t.map f).keys = t.keys := by
  simp [keys, map, Function.comp_def]

theorem size_eq_length_keys (t : Table α) : t.size = t.keys.length := by
  rw [size, keys, List.length_map]

end Table

/-! ## Definitions of a name -/

/-- The entry that a definition is written as. -/
def Schema.Entry.ofDefinition : Definition → Schema.Entry
  | .struct s => .ofStruct s
  | .enum e => .ofEnumeration e

namespace Specification

variable {spec : Specification} {name : String}

/-- The last definition of a name, where structs come before enums. -/
inductive DefinesLast (spec : Specification) (name : String) : Definition → Prop
  | intro {before after : List Definition} {d : Definition}
      (listed : spec.definitions = before ++ d :: after) (named : d.name = name)
      (last : ∀ d' ∈ after, d'.name ≠ name) : DefinesLast spec name d

/-- The last definition of a name is the first one that is found from the end. -/
theorem definesLast_iff {d : Definition} :
    spec.DefinesLast name d ↔ spec.definitions.reverse.find? (·.name == name) = some d := by
  rw [find?_reverse_eq_some_iff]
  simp only [beq_iff_eq, beq_eq_false_iff_ne]
  constructor
  · rintro @⟨before, after, _, listed, named, last⟩
    exact ⟨before, after, listed, named, last⟩
  · rintro ⟨before, after, listed, named, last⟩
    exact .intro listed named last

/-- Where names are different, whatever is defined is the last definition of its name. -/
theorem definesLast_of_mem (hnames : spec.definedNames.Nodup) {d : Definition}
    (hd : d ∈ spec.definitions) : spec.DefinesLast d.name d := by
  obtain ⟨before, after, listed⟩ := List.append_of_mem hd
  refine .intro listed rfl fun d' hd' hname => ?_
  rw [definedNames_eq, listed, List.map_append, List.map_cons, List.nodup_append,
    List.nodup_cons] at hnames
  exact hnames.2.1.1 (hname ▸ List.mem_map_of_mem hd')

/-! ## First structs and enums -/

/-- Where names are different, a member is the first one of its name. -/
theorem find?_keyed {α : Type} {key : α → String} {xs : List α} (h : (xs.map key).Nodup) {x : α}
    (hx : x ∈ xs) : xs.find? (key · == key x) = some x := by
  obtain ⟨before, after, rfl⟩ := List.append_of_mem hx
  rw [List.find?_eq_some_iff_append]
  refine ⟨beq_self_eq_true _, before, after, rfl, fun y hy => ?_⟩
  rw [List.map_append, List.nodup_append] at h
  have hne : key y ≠ key x := h.2.2 _ (List.mem_map_of_mem hy) _ (by simp)
  simpa using hne

theorem exists_findStruct? (hnames : spec.definedNames.Nodup)
    (hname : name ∈ spec.structs.map (·.name)) :
    ∃ s, spec.findStruct? name = some s ∧ spec.DefinesLast name (.struct s) := by
  obtain ⟨s, hs, rfl⟩ := List.mem_map.1 hname
  exact ⟨s, find?_keyed (List.nodup_append.1 hnames).1 hs,
    definesLast_of_mem hnames (mem_structs.1 hs)⟩

theorem exists_findEnum? (hnames : spec.definedNames.Nodup)
    (hname : name ∈ spec.enums.map (·.name)) :
    ∃ e, spec.findEnum? name = some e ∧ spec.DefinesLast name (.enum e) := by
  obtain ⟨e, he, rfl⟩ := List.mem_map.1 hname
  exact ⟨e, find?_keyed (List.nodup_append.1 hnames).2.1 he,
    definesLast_of_mem hnames (mem_enums.1 he)⟩

theorem listsFirst_duplicateNames (spec : Specification) :
    ListsFirst spec.definedNames (2 ≤ spec.definedNames.count ·) spec.duplicateNames :=
  (listsFirst_eraseDups spec.definedNames).filter (2 ≤ spec.definedNames.count ·)

end Specification

namespace Schema

variable {spec : Specification}

theorem definitions_eq (spec : Specification) :
    definitions spec = .ofList (spec.definitions.map fun d => (d.name, .ofDefinition d)) := by
  simp [definitions, Specification.definitions, Definition.name, Entry.ofDefinition,
    Function.comp_def]

theorem keys_definitions (spec : Specification) :
    (definitions spec).keys = spec.definedNames.eraseDups := by
  rw [definitions_eq, Table.keys_ofList, List.map_map, Specification.definedNames_eq]
  rfl

/-- The entry of a name is that of its last definition. -/
theorem mem_definitions {name : String} {entry : Entry} :
    (name, entry) ∈ (definitions spec).entries ↔
      ∃ d, spec.DefinesLast name d ∧ entry = .ofDefinition d := by
  rw [definitions_eq, Table.mem_entries_ofList, ← List.map_reverse, lookup_map_keyed,
    Option.map_eq_some_iff]
  simp only [Specification.definesLast_iff, eq_comm]

/-! ## The table, the check and the look-ups -/

/-- How a table of definitions, the names that are reported as duplicates and the look-ups of a
specification fit together. -/
structure Tabulated (spec : Specification) (table : Table Json) (duplicates : List String) :
    Prop where
  /-- The keys are the names of the structs and then of the enums, where they first occur. -/
  keys : ListsFirst spec.definedNames (fun _ => True) table.keys
  /-- Under a name stands its last definition. -/
  entries : ∀ name json, (name, json) ∈ table.entries ↔
    ∃ d, spec.DefinesLast name d ∧ json = (Entry.ofDefinition d).toJson
  /-- What is reported are the names that are defined at least twice, where they first occur. -/
  repeated : ListsFirst spec.definedNames (2 ≤ spec.definedNames.count ·) duplicates
  /-- No definition is lost exactly if nothing is reported. -/
  size : table.size = spec.structs.length + spec.enums.length ↔ duplicates = []
  /-- If nothing is reported, the struct that is found under a name is the one that is written. -/
  structs : duplicates = [] → ∀ name ∈ spec.structs.map (·.name),
    ∃ s, spec.findStruct? name = some s ∧ spec.DefinesLast name (.struct s)
  /-- Likewise for the enum that is found under a name. -/
  enums : duplicates = [] → ∀ name ∈ spec.enums.map (·.name),
    ∃ e, spec.findEnum? name = some e ∧ spec.DefinesLast name (.enum e)

/-- **The table of definitions fits the definitions, the check of names and the look-ups**, for
every specification. -/
theorem requestDefinitions_tabulated (spec : Specification) :
    ∃ table, requestDefinitions (some spec) = .ok table ∧
      Tabulated spec (table.map Entry.toJson) spec.duplicateNames := by
  refine ⟨definitions spec, rfl, ?_⟩
  have hkeys : ListsFirst spec.definedNames (fun _ => True)
      ((definitions spec).map Entry.toJson).keys := by
    rw [Table.keys_map, keys_definitions]
    exact listsFirst_eraseDups spec.definedNames
  constructor
  case keys => exact hkeys
  case entries =>
    intro name json
    simp only [Table.mem_map_entries, mem_definitions]
    constructor
    · rintro ⟨_, ⟨d, hd, rfl⟩, rfl⟩
      exact ⟨d, hd, rfl⟩
    · rintro ⟨d, hd, rfl⟩
      exact ⟨_, ⟨d, hd, rfl⟩, rfl⟩
  case repeated => exact spec.listsFirst_duplicateNames
  case size =>
    have hlength : spec.definedNames.length = spec.structs.length + spec.enums.length := by
      simp [Specification.definedNames]
    rw [Table.size_eq_length_keys, ← hlength, hkeys.length_eq_iff,
      Specification.duplicateNames_eq_nil]
  case structs =>
    intro hnone name hname
    exact Specification.exists_findStruct? (Specification.duplicateNames_eq_nil.1 hnone) hname
  case enums =>
    intro hnone name hname
    exact Specification.exists_findEnum? (Specification.duplicateNames_eq_nil.1 hnone) hname

/-- A name that is a struct twice, and one that is a struct and an enum. -/
example :
    let spec : Specification :=
      { structs := [{ name := "Cat" }, { name := "Dog" }, { name := "Cat" }, { name := "Fish" }]
        enums := [{ name := "Dog" }] }
    (definitions spec).keys = ["Cat", "Dog", "Fish"] ∧ spec.duplicateNames = ["Cat", "Dog"] := by
  decide

end Schema

end ServiceSchema

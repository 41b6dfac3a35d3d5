/-
References as pointers.

Whoever reads a document takes what follows the hash sign of a reference for a pointer. A pointer
is a list of tokens with a slash in front of each, and a token leads from a value to one of its
entries, by key, or to one of its items, by position. Since a slash cannot stand for itself in a
token it is written as an escape, and so is the tilde that escapes start with.

References are written without escapes. So a reference leads to the definition that it was
written for exactly if the name of the definition holds neither a slash nor a tilde. With a
slash in the name the pointer goes on inside the entry of some other name, and nothing there is
the entry of a definition, because entries have a title and nothing inside them has one. With a
tilde it reads another name, or none.
-/
import ServiceSchema.Proofs.DefinitionTable
import ServiceSchema.Proofs.StrictDocuments

set_option autoImplicit false

namespace ServiceSchema

/-! ## Reading pointers -/

namespace Pointer

/-- What a token means: `~0` is a tilde and `~1` a slash. Any other tilde is out of place. -/
def unescape? : List Char → Option (List Char)
  | [] => some []
  | '~' :: '0' :: rest => (unescape? rest).map ('~' :: ·)
  | '~' :: '1' :: rest => (unescape? rest).map ('/' :: ·)
  | c :: rest => if c = '~' then none else (unescape? rest).map (c :: ·)

/-- The tokens of a pointer, each of which follows a slash. -/
def tokens? : List Char → Option (List (List Char))
  | [] => some []
  | c :: rest => if c = '/' then (rest.splitOn '/').mapM unescape? else none

/-- The position that a token means. It is written without leading zeros. -/
def position? (token : List Char) : Option Nat :=
  (String.ofList token).toNat?.filter fun n => Nat.repr n == String.ofList token

/-- What a token leads to from a value. -/
def step? (value : Json) (token : List Char) : Option Json :=
  match value with
  | .object entries => (Json.object entries).get? (.ofList token)
  | .list items => (position? token).bind (items[·]?)
  | _ => none

/-- What a pointer leads to from a value. -/
def follow? (value : Json) (pointer : List Char) : Option Json :=
  (tokens? pointer).bind fun tokens => tokens.foldlM step? value

end Pointer

/-- What a reference leads to inside the document that holds it. -/
def Json.referent? (document : Json) : Json → Option Json
  | .text s =>
    match s.toList with
    | '#' :: pointer => Pointer.follow? document pointer
    | _ => none
  | _ => none

/-! ## Escapes -/

namespace Pointer

/-- Every tilde of a token belongs to an escape, and an escape is one character longer than what it
stands for. -/
theorem length_add_count_of_unescape? {token plain : List Char}
    (h : unescape? token = some plain) : plain.length + token.count '~' = token.length := by
  induction token using unescape?.induct generalizing plain with
  | case1 =>
    obtain rfl := Option.some.inj h
    rfl
  | case2 rest ih | case3 rest ih =>
    rw [unescape?, Option.map_eq_some_iff] at h
    obtain ⟨plain, hplain, rfl⟩ := h
    have hrest := ih hplain
    have hescape : ('0' == '~') = false ∧ ('1' == '~') = false := by decide
    simp only [List.length_cons, List.count_cons, beq_self_eq_true, hescape, if_true,
      Bool.false_eq_true, if_false]
    omega
  | case4 rest hzero hone =>
    -- a tilde that starts no escape has no meaning
    rw [unescape?, if_pos rfl] at h
    · cases h
    all_goals simp_all
  | case5 c rest hzero hone hc ih =>
    rw [unescape?, if_neg hc, Option.map_eq_some_iff] at h
    · obtain ⟨plain, hplain, rfl⟩ := h
      have hrest := ih hplain
      rw [List.length_cons, List.length_cons, List.count_cons_of_ne hc]
      omega
    all_goals simp_all

/-- A token means itself exactly if it holds no tilde. -/
theorem unescape?_eq_self_iff {token : List Char} : unescape? token = some token ↔ '~' ∉ token := by
  constructor
  · intro h htilde
    -- what a tilde belongs to is shorter once it is read
    have hlength := length_add_count_of_unescape? h
    have hcount : 0 < token.count '~' := List.count_pos_iff.2 htilde
    omega
  · intro h
    induction token with
    | nil => rfl
    | cons c rest ih =>
      rw [List.mem_cons, not_or] at h
      obtain ⟨hc, hrest⟩ := h
      rw [unescape?, if_neg (Ne.symm hc), ih hrest, Option.map_some]
      all_goals
        rintro rest rfl
        exact absurd rfl hc

/-- No token is lost and none comes in when escapes are read. -/
theorem length_of_mapM_unescape? {tokens plain : List (List Char)}
    (h : tokens.mapM unescape? = some plain) : plain.length = tokens.length := by
  induction tokens generalizing plain with
  | nil =>
    obtain rfl := Option.some.inj h
    rfl
  | cons token rest ih =>
    rw [List.mapM_cons] at h
    obtain ⟨first, -, h⟩ := Option.bind_eq_some_iff.1 h
    obtain ⟨others, hothers, h⟩ := Option.bind_eq_some_iff.1 h
    obtain rfl := Option.some.inj h
    rw [List.length_cons, List.length_cons, ih hothers]

theorem mapM_unescape?_singleton {token plain : List Char} :
    [token].mapM unescape? = some [plain] ↔ unescape? token = some plain := by
  rw [List.mapM_cons, List.mapM_nil]
  cases unescape? token <;> simp

/-- A slash makes for at least two tokens. -/
theorem two_le_length_splitOn {name : List Char} (h : '/' ∈ name) :
    2 ≤ (name.splitOn '/').length := by
  obtain ⟨before, after, rfl⟩ := List.append_of_mem h
  have hbefore : 0 < (before.splitOn '/').length :=
    List.length_pos_of_ne_nil (List.splitOn_ne_nil '/' before)
  have hafter : 0 < (after.splitOn '/').length :=
    List.length_pos_of_ne_nil (List.splitOn_ne_nil '/' after)
  rw [List.splitOn_append_cons_self, List.length_append]
  omega

/-! ## Steps -/

/-- What stands directly inside a value. -/
def children : Json → List Json
  | .object entries => entries.map Prod.snd
  | .list items => items
  | _ => []

theorem mem_entries_of_get? {value child : Json} {key : String} (h : value.get? key = some child) :
    (key, child) ∈ value.entries := by
  have hmem : (key, child) ∈ value.entries.reverse := mem_of_lookup h
  exact List.mem_reverse.1 hmem

theorem mem_children_of_step? {value child : Json} {token : List Char}
    (h : step? value token = some child) : child ∈ children value := by
  cases value with
  | object entries => exact List.mem_map_of_mem (mem_entries_of_get? h)
  | list items =>
    obtain ⟨n, -, hn⟩ := Option.bind_eq_some_iff.1 h
    exact List.mem_of_getElem? hn
  | _ => cases h

/-- A table leads from every key to its value. -/
theorem step?_ofTable {t : Table Json} {token : List Char} {child : Json} :
    step? (.ofTable t) token = some child ↔ (String.ofList token, child) ∈ t.entries := by
  have hrebuilt := Table.mem_entries_ofList t.entries (String.ofList token) child
  rw [Table.entries_ofList t.nodup] at hrebuilt
  exact hrebuilt.symm

end Pointer

/-! ## Inside entries -/

namespace Schema

open Pointer

/-- The values that stand inside the entries of a table of definitions, at any depth. -/
inductive Inside : Json → Prop
  | text (s : String) : Inside (.text s)
  | texts (items : List String) : Inside (.texts items)
  | properties (fields : List Field) : Inside (propertiesJson (Schema.properties fields))
  | fragment (description : String) (s : Signature) :
      Inside (Property.toJson ⟨description, .ofSignature s⟩)
  | subtypes (names : List String) : Inside (.list (names.map fun s => .object [reference s]))
  | subtype (name : String) : Inside (.object [reference name])
  | discriminator (property : String) : Inside (.object [("propertyName", .text property)])

theorem inside_of_mem_textUnlessEmpty {key key' text : String} {value : Json}
    (h : (key, value) ∈ textUnlessEmpty key' text) : Inside value := by
  unfold textUnlessEmpty at h
  split at h
  · cases h
  · rw [(Prod.mk.inj (List.mem_singleton.1 h)).2]
    exact .text text

theorem inside_of_mem_headEntries {key title description : String} {type : Primitive} {value : Json}
    (h : (key, value) ∈ headEntries type title description) : Inside value := by
  simp only [headEntries, List.cons_append, List.nil_append, List.mem_cons, Prod.mk.injEq] at h
  rcases h with ⟨-, rfl⟩ | ⟨-, rfl⟩ | h
  · exact .text _
  · exact .text _
  · exact inside_of_mem_textUnlessEmpty h

/-- What an entry of a fragment holds is a text or a fragment. -/
theorem inside_of_mem_fragment {description key : String} {s : Signature} {value : Json}
    (h : (key, value) ∈ (Property.toJson ⟨description, .ofSignature s⟩).entries) : Inside value := by
  rw [Property.toJson, Json.entries, List.mem_append] at h
  rcases h with h | h
  · exact inside_of_mem_textUnlessEmpty h
  · cases s with
    | iterable _ element | map _ _ element =>
      simp only [Fragment.ofSignature, Fragment.entries, List.mem_cons, Prod.mk.injEq,
        List.not_mem_nil, or_false] at h
      rcases h with ⟨-, rfl⟩ | ⟨-, rfl⟩
      · exact .text _
      · exact .fragment "" element
    | _ =>
      rw [(Prod.mk.inj (List.mem_singleton.1 h)).2]
      exact .text _

/-- A step does not lead out of an entry. -/
theorem Inside.step {value child : Json} {token : List Char} (h : Inside value)
    (hstep : step? value token = some child) : Inside child := by
  have hchild : child ∈ children value := mem_children_of_step? hstep
  cases h with
  | text s => cases hchild
  | texts items =>
    obtain ⟨s, -, rfl⟩ := List.mem_map.1 hchild
    exact .text s
  | properties fields =>
    obtain ⟨⟨key, child⟩, hmem, rfl⟩ := List.mem_map.1 hchild
    obtain ⟨f, -, rfl⟩ := mem_propertiesJson.1 hmem
    exact .fragment f.description f.type
  | fragment description s =>
    obtain ⟨⟨key, child⟩, hmem, rfl⟩ := List.mem_map.1 hchild
    exact inside_of_mem_fragment hmem
  | subtypes names =>
    obtain ⟨name, -, rfl⟩ := List.mem_map.1 hchild
    exact .subtype name
  | subtype name =>
    obtain rfl := List.mem_singleton.1 hchild
    exact .text _
  | discriminator property =>
    obtain rfl := List.mem_singleton.1 hchild
    exact .text property

theorem Inside.follow {value target : Json} {tokens : List (List Char)} (h : Inside value)
    (hfollow : tokens.foldlM step? value = some target) : Inside target := by
  induction tokens generalizing value with
  | nil =>
    obtain rfl := Option.some.inj hfollow
    exact h
  | cons token rest ih =>
    rw [List.foldlM_cons] at hfollow
    obtain ⟨child, hchild, hrest⟩ := Option.bind_eq_some_iff.1 hfollow
    exact ih (h.step hchild) hrest

/-- Nothing inside an entry has a title. A property can be called so, but it is no text. -/
theorem Inside.untitled {value : Json} (h : Inside value) (s : String) :
    ("title", .text s) ∉ value.entries := by
  intro hmem
  cases h with
  | properties fields =>
    obtain ⟨f, -, hf⟩ := mem_propertiesJson.1 hmem
    cases hf
  | fragment description t =>
    rw [mem_entries_property (by decide)] at hmem
    cases t <;> simp [Fragment.ofSignature, Fragment.entries, reference] at hmem
  | _ => simp [Json.entries, Json.texts, reference] at hmem

/-- Whatever an entry of the table holds stands inside of it. -/
theorem inside_of_mem_entry {d : Definition} {key : String} {value : Json}
    (h : (key, value) ∈ (Entry.ofDefinition d).toJson.entries) : Inside value := by
  cases d with
  | enum e =>
    rw [Entry.ofDefinition, Entry.ofEnumeration, Entry.toJson, Json.entries, List.mem_append] at h
    rcases h with h | h
    · exact inside_of_mem_headEntries h
    · rw [(Prod.mk.inj (List.mem_singleton.1 h)).2]
      exact .texts _
  | struct st =>
    rw [Entry.ofDefinition] at h
    cases hunion : st.union with
    | none =>
      rw [ofStruct_plain hunion, Entry.toJson, Json.entries, List.mem_append, List.mem_append] at h
      rcases h with (h | h) | h
      · exact inside_of_mem_headEntries h
      · split at h
        · cases h
        · rw [(Prod.mk.inj (List.mem_singleton.1 h)).2]
          exact .properties st.fields
      · unfold requiredEntry at h
        split at h
        · cases h
        · rw [(Prod.mk.inj (List.mem_singleton.1 h)).2]
          exact .texts _
    | some union =>
      rw [ofStruct_union hunion, Entry.toJson, Json.entries, List.mem_append] at h
      simp only [List.mem_cons, Prod.mk.injEq, List.not_mem_nil, or_false] at h
      rcases h with h | ⟨-, rfl⟩ | ⟨-, rfl⟩
      · exact inside_of_mem_headEntries h
      · exact .subtypes _
      · exact .discriminator _

/-! ## References to definitions -/

variable {spec : Specification} {m : Method}

/-- What the table of definitions holds under a name. -/
theorem mem_definitionsJson {name : String} {entry : Json} :
    (name, entry) ∈ (definitions spec).toJson.entries ↔
      ∃ d, spec.DefinesLast name d ∧ entry = (Entry.ofDefinition d).toJson := by
  show (name, entry) ∈ ((definitions spec).map Entry.toJson).entries ↔ _
  rw [Table.mem_map_entries]
  constructor
  · rintro ⟨written, hwritten, rfl⟩
    obtain ⟨d, hd, rfl⟩ := mem_definitions.1 hwritten
    exact ⟨d, hd, rfl⟩
  · rintro ⟨d, hd, rfl⟩
    exact ⟨_, mem_definitions.2 ⟨d, hd, rfl⟩, rfl⟩

/-- Every entry of the table is titled by its name. -/
theorem title_of_listed {name : String} {entry : Json}
    (h : (name, entry) ∈ (definitions spec).toJson.entries) :
    entry.get? "title" = some (.text name) := by
  obtain ⟨d, hd, rfl⟩ := mem_definitionsJson.1 h
  have hname : d.name = name := by
    cases hd with
    | intro listed named last => exact named
  rw [← hname]
  cases d with
  | struct st => exact (defines_struct st).2
  | enum e => exact (defines_enum e).2.1

/-- A step from an entry of the table leads inside of it. -/
theorem inside_of_listed {name : String} {entry child : Json} {token : List Char}
    (h : (name, entry) ∈ (definitions spec).toJson.entries)
    (hstep : step? entry token = some child) : Inside child := by
  obtain ⟨d, -, rfl⟩ := mem_definitionsJson.1 h
  have hobject : children (Entry.ofDefinition d).toJson
      = (Entry.ofDefinition d).toJson.entries.map Prod.snd := by
    cases (Entry.ofDefinition d) <;> rfl
  have hchild := mem_children_of_step? hstep
  rw [hobject] at hchild
  obtain ⟨⟨key, child⟩, hmem, rfl⟩ := List.mem_map.1 hchild
  exact inside_of_mem_entry hmem

/-- What a document defines under a name is what its table holds. -/
theorem nodeAt_definition_iff {name : String} {entry : Json} :
    NodeAt (documentJson spec m) [.definition name] entry ↔
      (name, entry) ∈ (definitions spec).toJson.entries := by
  constructor
  · intro h
    obtain _ | ⟨step, _ | _⟩ := h
    rcases below_document_entry step with ⟨name', f, hname, -⟩ | ⟨name', hname, hentry⟩
    · cases hname
    · cases hname
      exact hentry
  · intro h
    refine .down ⟨(definitions spec).toJson, ?_, h⟩ (.here _)
    simp [documentJson, MethodDocument.toJson, methodDocument, Json.entries, Keyword.key]

/-- A reference to a name is followed from the table of definitions, along the parts of the name. -/
theorem referent?_reference (spec : Specification) (m : Method) (name : String) :
    (documentJson spec m).referent? (.text (referenceStart ++ name)) =
      ((name.toList.splitOn '/').mapM unescape?).bind
        fun tokens => tokens.foldlM step? (definitions spec).toJson := by
  have hpointer : (referenceStart ++ name).toList =
      '#' :: '/' :: ("definitions".toList ++ '/' :: name.toList) := by
    rw [String.toList_append]
    rfl
  have hsplit : ("definitions".toList ++ '/' :: name.toList).splitOn '/' =
      "definitions".toList :: name.toList.splitOn '/' := by
    rw [List.splitOn_append_cons_self, List.splitOn_eq_singleton (by decide)]
    rfl
  have htable : step? (documentJson spec m) "definitions".toList =
      some (definitions spec).toJson := by
    have hget := get?_definitions spec m
    exact hget
  have hfirst : unescape? "definitions".toList = some "definitions".toList := by decide
  simp only [Json.referent?, hpointer, Pointer.follow?, tokens?, if_pos, hsplit, List.mapM_cons,
    hfirst]
  cases hrest : (name.toList.splitOn '/').mapM unescape? with
  | none => rfl
  | some tokens =>
    show List.foldlM step? (documentJson spec m) ("definitions".toList :: tokens) = _
    rw [List.foldlM_cons, htable]
    rfl

/-- The path along the parts of a name ends at the entry of the name only if there is one part, which
means the name. The first part leads to the entry that it titles, and all further ones inside. -/
theorem eq_of_follow_parts {name : String} {entry : Json} {parts : List (List Char)}
    (hentry : (name, entry) ∈ (definitions spec).toJson.entries)
    (h : parts.foldlM step? (definitions spec).toJson = some entry) :
    parts = [] ∨ parts = [name.toList] := by
  cases parts with
  | nil => exact .inl rfl
  | cons part rest =>
    right
    rw [List.foldlM_cons] at h
    obtain ⟨first, hfirst, hrest⟩ := Option.bind_eq_some_iff.1 h
    have hlisted : (String.ofList part, first) ∈ (definitions spec).toJson.entries :=
      step?_ofTable.1 hfirst
    have htitle := title_of_listed hentry
    cases rest with
    | nil =>
      -- the entry that is reached has one title, which is the part and the name
      obtain rfl := Option.some.inj hrest
      rw [title_of_listed hlisted] at htitle
      have hname : String.ofList part = name := by simpa using htitle
      rw [← hname, String.toList_ofList]
    | cons next others =>
      -- from here on the path stays inside an entry, where nothing has a title
      rw [List.foldlM_cons] at hrest
      obtain ⟨second, hsecond, hrest⟩ := Option.bind_eq_some_iff.1 hrest
      have hinside : Inside entry := (inside_of_listed hlisted hsecond).follow hrest
      exact absurd (mem_entries_of_get? htitle) (hinside.untitled name)

/-- **A reference leads to the definition of its name exactly if the name holds neither a slash nor
a tilde.** -/
theorem referent?_eq_entry_iff {name : String} {entry : Json}
    (hentry : NodeAt (documentJson spec m) [.definition name] entry) :
    (documentJson spec m).referent? (.text (referenceStart ++ name)) = some entry ↔
      '/' ∉ name.toList ∧ '~' ∉ name.toList := by
  have hlisted := nodeAt_definition_iff.1 hentry
  rw [referent?_reference]
  constructor
  · intro h
    obtain ⟨parts, hparts, hfollow⟩ := Option.bind_eq_some_iff.1 h
    have hlength := length_of_mapM_unescape? hparts
    rcases eq_of_follow_parts hlisted hfollow with rfl | rfl
    · have hnone : name.toList.splitOn '/' = [] := List.eq_nil_of_length_eq_zero hlength.symm
      exact absurd hnone (List.splitOn_ne_nil '/' _)
    · have hslash : '/' ∉ name.toList := by
        intro hslash
        have htwo := two_le_length_splitOn hslash
        rw [List.length_singleton] at hlength
        omega
      rw [List.splitOn_eq_singleton hslash, mapM_unescape?_singleton] at hparts
      exact ⟨hslash, unescape?_eq_self_iff.1 hparts⟩
  · rintro ⟨hslash, htilde⟩
    have hparts : (name.toList.splitOn '/').mapM unescape? = some [name.toList] := by
      rw [List.splitOn_eq_singleton hslash, mapM_unescape?_singleton]
      exact unescape?_eq_self_iff.2 htilde
    have hstep : step? (definitions spec).toJson name.toList = some entry :=
      step?_ofTable.2 (by rwa [String.ofList_toList])
    rw [hparts, Option.bind_some, List.foldlM_cons, hstep]
    rfl

/-! ## Strict generation -/

/-- How the references of a document read as pointers: each was written for a type or a subtype
that is defined in the document, and leads to the definition exactly if its name holds neither a
slash nor a tilde. -/
def PointsAtDefinitions (spec : Specification) (m : Method) (document : Json) : Prop :=
  ∀ (place : List Keyword) (node value : Json), NodeAt document place node →
    ("$ref", value) ∈ node.entries →
    ∃ origin entry, WrittenFor spec m place origin ∧
      value = .text ("#/definitions/" ++ origin.name) ∧
      NodeAt document [.definition origin.name] entry ∧ Defines entry origin.name origin.kind ∧
      (document.referent? value = some entry ↔
        '/' ∉ origin.name.toList ∧ '~' ∉ origin.name.toList)

/-- **References of strictly generated documents are pointers to definitions whose names hold
neither a slash nor a tilde**, and to no others. -/
theorem references_point_at_definitions {spec : Specification}
    {docs : List (MethodDocument Definitions)} (h : generateStrict spec = .ok docs) :
    List.Forall₂ (fun m (doc : MethodDocument Definitions) =>
      PointsAtDefinitions spec m (doc.toJson Definitions.toJson)) spec.methods docs := by
  obtain ⟨hvalid, rfl⟩ := generateStrict_eq_ok.1 h
  obtain ⟨hresolved, hduplicates⟩ := Specification.validate_eq_ok.1 hvalid
  have hnames := Specification.duplicateNames_eq_nil.1 hduplicates
  rw [generate, List.forall₂_map_right_iff, List.forall₂_same]
  intro m hm place node value hnode href
  obtain ⟨origin, hwritten, hreference, rfl⟩ := writtenFor_of_ref hnames hnode href
  have hkind := kindOf?_of_writtenFor hresolved hm hwritten hreference
  obtain ⟨entry, hentry, hdefines⟩ := exists_definition hnames m hkind
  exact ⟨origin, entry, hwritten, rfl, hentry, hdefines, referent?_eq_entry_iff hentry⟩

/-! ## A harbour

Ships are tugs or barges. The name of barges holds a slash, and that of flags a tilde. -/

/-- The sorts of ships. -/
def shipSubtypes : List Signature := [.struct "Tug" none, .struct "cargo/Barge" none]

theorem shipSubtypes_ne_nil : shipSubtypes ≠ [] := List.cons_ne_nil _ _

theorem shipProperty_ne_empty : "kind" ≠ "" := by decide

/-- A method that takes ships. -/
def mooring : Method where
  service := "Harbour"
  name := "moor"
  returnType := some (.base "void")
  parameters := [{ name := "ships", type := .listOf (.struct "Ship" none) }]

/-- A harbour to which the strict checks have no objection. -/
def harbour : Specification where
  services := [{ name := "Harbour", methods := [mooring] }]
  structs := [
    { name := "Ship"
      union := some ⟨shipSubtypes, ⟨"kind", shipProperty_ne_empty⟩, shipSubtypes_ne_nil⟩ },
    { name := "Tug", fields := [{ name := "flag", type := .enum "Flag~0" none }] },
    { name := "cargo/Barge", fields := [{ name := "load", type := .base "int" }] }]
  enums := [{ name := "Flag~0", values := [{ name := "RED" }] }]

theorem harbour_strict : generateStrict harbour = .ok (generate harbour) :=
  generateStrict_eq_ok.2 ⟨Specification.validate_eq_ok.2 ⟨by decide, by decide⟩, rfl⟩

/-- How the references of the harbour read as pointers. -/
theorem harbour_points_at_definitions :
    generateStrict harbour = .ok (generate harbour) ∧
    List.Forall₂ (fun m (doc : MethodDocument Definitions) =>
      PointsAtDefinitions harbour m (doc.toJson Definitions.toJson))
      harbour.methods (generate harbour) :=
  ⟨harbour_strict, references_point_at_definitions harbour_strict⟩

/-- Two references of the harbour lead nowhere: that of ships to barges, where the slash parts the
name in two, and that of tugs to flags, where the tilde and the zero stand for a tilde. -/
theorem harbour_references_astray :
    generateStrict harbour = .ok (generate harbour) ∧
    ∃ document ∈ generate harbour, document.toJson Definitions.toJson = documentJson harbour mooring ∧
      WrittenFor harbour mooring [.definition "Ship", .alternative 1]
        (.subtype (.struct "cargo/Barge" none)) ∧
      (∃ node, NodeAt (documentJson harbour mooring) [.definition "Ship", .alternative 1] node ∧
        ("$ref", .text "#/definitions/cargo/Barge") ∈ node.entries) ∧
      (∃ entry, NodeAt (documentJson harbour mooring) [.definition "cargo/Barge"] entry ∧
        Defines entry "cargo/Barge" .struct) ∧
      ((documentJson harbour mooring).referent? (.text "#/definitions/cargo/Barge")).isNone = true ∧
      (∃ node, NodeAt (documentJson harbour mooring) [.definition "Tug", .property "flag"] node ∧
        ("$ref", .text "#/definitions/Flag~0") ∈ node.entries) ∧
      (∃ entry, NodeAt (documentJson harbour mooring) [.definition "Flag~0"] entry ∧
        Defines entry "Flag~0" .enum) ∧
      ((documentJson harbour mooring).referent? (.text "#/definitions/Flag~0")).isNone = true := by
  have hnames : harbour.definedNames.Nodup := by decide
  have hship : harbour.structs[0] ∈ harbour.structs := List.getElem_mem _
  have htug : harbour.structs[1] ∈ harbour.structs := List.getElem_mem _
  have hbarge : WrittenFor harbour mooring [.definition "Ship", .alternative 1]
      (.subtype (.struct "cargo/Barge" none)) :=
    .subtype hship rfl
  have hflag : WrittenFor harbour mooring [.definition "Tug", .property "flag"]
      (.type (.enum "Flag~0" none)) :=
    .field htug rfl rfl (.here _)
  exact ⟨harbour_strict, methodDocument mooring (definitions harbour), List.mem_singleton_self _,
    rfl, hbarge, ref_of_writtenFor hnames hbarge rfl, exists_definition hnames mooring (by decide),
    by decide +kernel, ref_of_writtenFor hnames hflag rfl,
    exists_definition hnames mooring (by decide), by decide +kernel⟩

end Schema

end ServiceSchema

/-
What a fragment says of a type, and what it leaves out.

Two types are `Alike` when they differ only in what no fragment shows: which kind a name is
defined as, what an iterable is called, the keys of a map and the name of a leaf beyond its
primitive. The claim is that this is all that is lost. One direction is a congruence. For the
other a fragment is taken as a reader has it, who looks keys up and does not see their order:
what can be looked up tells any two fragments apart, because each kind of fragment has a key
that no other has, or the same key with another word. A leaf never has the word of an array.

The nodes of a fragment are a chain, since elements and values are all that is below a node.
-/
import ServiceSchema.Proofs.SchemaNodes
import ServiceSchema.Schema.Generate

set_option autoImplicit false

namespace ServiceSchema

/-- Two types that no fragment tells apart: the names of definitions agree, whatever they are
defined as, and so do the elements of iterables, the values of maps and the primitives of
leaves. -/
inductive Signature.Alike : Signature → Signature → Prop
  | named {s t : Signature} (left : s.isNamed = true) (right : t.isNamed = true)
      (name : s.name = t.name) : Alike s t
  | iterable (name₁ name₂ : String) {element₁ element₂ : Signature}
      (element : Alike element₁ element₂) :
      Alike (.iterable name₁ element₁) (.iterable name₂ element₂)
  | map (name₁ name₂ : String) (key₁ key₂ : Signature) {value₁ value₂ : Signature}
      (value : Alike value₁ value₂) : Alike (.map name₁ key₁ value₁) (.map name₂ key₂ value₂)
  | leaf {s t : Signature} (left : s.kind = .base ∨ s.kind = .unresolved)
      (right : t.kind = .base ∨ t.kind = .unresolved)
      (primitive : Schema.primitive s = Schema.primitive t) : Alike s t

/-- The text that is found from a value on by looking up one key after another. -/
def Json.textAt : List String → Json → Option String
  | [], .text t => some t
  | [], _ => none
  | key :: path, value => (value.get? key).bind (textAt path)

namespace Schema

/-! ## Fragments of types -/

/-- Types that are alike have one fragment. -/
theorem ofSignature_eq_of_alike {s t : Signature} (h : s.Alike t) :
    Fragment.ofSignature s = Fragment.ofSignature t := by
  induction h with
  | @named s t left right name =>
    cases s <;> cases t <;>
      simp_all [Signature.isNamed, Signature.name, Fragment.ofSignature]
  | iterable name₁ name₂ element ih => rw [Fragment.ofSignature, Fragment.ofSignature, ih]
  | map name₁ name₂ key₁ key₂ value ih => rw [Fragment.ofSignature, Fragment.ofSignature, ih]
  | @leaf s t left right primitive =>
    cases s <;> cases t <;> simp_all [Signature.kind, Fragment.ofSignature]

/-- Types with one fragment are alike. The induction is on the first type; the second has to be
of a kind with the same form of fragment. -/
theorem alike_of_ofSignature_eq {s t : Signature}
    (h : Fragment.ofSignature s = Fragment.ofSignature t) : s.Alike t := by
  induction s generalizing t with
  | struct name descriptor =>
    cases t <;> simp only [Fragment.ofSignature, Fragment.ref.injEq, reduceCtorEq] at h
    all_goals exact .named rfl rfl h
  | enum name descriptor =>
    cases t <;> simp only [Fragment.ofSignature, Fragment.ref.injEq, reduceCtorEq] at h
    all_goals exact .named rfl rfl h
  | iterable name element ih =>
    cases t <;> simp only [Fragment.ofSignature, Fragment.array.injEq, reduceCtorEq] at h
    exact .iterable _ _ (ih h)
  | map name key value _ ih =>
    cases t <;> simp only [Fragment.ofSignature, Fragment.values.injEq, reduceCtorEq] at h
    exact .map _ _ _ _ (ih h)
  | base name =>
    cases t <;> simp only [Fragment.ofSignature, Fragment.primitive.injEq, reduceCtorEq] at h
    all_goals exact .leaf (by simp [Signature.kind]) (by simp [Signature.kind]) h
  | unresolved name =>
    cases t <;> simp only [Fragment.ofSignature, Fragment.primitive.injEq, reduceCtorEq] at h
    all_goals exact .leaf (by simp [Signature.kind]) (by simp [Signature.kind]) h

/-! ## Looking up

A fragment has no text of its own, so that every path into it starts with a key. -/

/-- A lookup in a property passes over the description. -/
theorem textAt_property {key : String} (hkey : key ≠ "description") (path : List String)
    (description : String) (f : Fragment) :
    (Property.toJson ⟨description, f⟩).textAt (key :: path) =
      (Json.object f.entries).textAt (key :: path) := by
  have hskip : (key == "description") = false := by simpa using hkey
  simp only [Json.textAt, Json.get?, Property.toJson, Json.entries, textUnlessEmpty,
    List.reverse_append, List.lookup_append]
  split <;> simp [List.lookup_cons, hskip]

/-- A fragment alone has no description. -/
theorem textAt_description (path : List String) (f : Fragment) :
    (Json.object f.entries).textAt ("description" :: path) = none := by
  cases f <;> simp [Json.textAt, Json.get?, Json.entries, Fragment.entries, reference, List.lookup_cons]

/-- Every fragment has a text under one of its keys. -/
theorem exists_textAt (f : Fragment) :
    ∃ key t, (Json.object f.entries).textAt [key] = some t := by
  cases f with
  | ref target => exact ⟨"$ref", _, rfl⟩
  | primitive type => exact ⟨"type", _, rfl⟩
  | array items => exact ⟨"type", _, rfl⟩
  | values of => exact ⟨"type", _, rfl⟩

/-- The words for the primitives are different. -/
theorem Primitive.word_injective : Function.Injective Primitive.word := by
  intro p q h
  cases p <;> cases q <;> first | rfl | simp [Primitive.word] at h

section Lookups

attribute [local simp] Json.textAt Json.get? Json.entries Fragment.entries reference List.lookup_cons

theorem textAt_items (path : List String) (items : Fragment) :
    (Json.object (Fragment.array items).entries).textAt ("items" :: path) =
      (Json.object items.entries).textAt path := by
  simp

theorem textAt_values (path : List String) (of : Fragment) :
    (Json.object (Fragment.values of).entries).textAt ("additionalProperties" :: path) =
      (Json.object of.entries).textAt path := by
  simp

/-- A reference leads to the name of a definition, and nothing else does. -/
theorem textAt_ref (f : Fragment) :
    (Json.object f.entries).textAt ["$ref"] =
      match f with
      | .ref target => some (referenceStart ++ target)
      | _ => none := by
  cases f <;> simp

/-- Every other fragment has the word for its primitive. -/
theorem textAt_type (f : Fragment) :
    (Json.object f.entries).textAt ["type"] =
      match f with
      | .ref _ => none
      | .primitive type => some type.word
      | .array _ => some Primitive.array.word
      | .values _ => some Primitive.object.word := by
  cases f <;> simp

/-- Nothing is found under a key of containers in a fragment of a leaf. -/
theorem textAt_primitive {key : String} (hkey : key ≠ "type") (path : List String)
    (type : Primitive) :
    (Json.object (Fragment.primitive type).entries).textAt (key :: path) = none := by
  have hskip : (key == "type") = false := by simpa using hkey
  simp [hskip]

end Lookups

/-- A leaf is told from an array, also from one with its word: nothing is found under the key
for the items of a leaf, where an array has a fragment with a text. -/
theorem array_told_from_primitive (type : Primitive) (items : Fragment) :
    ∃ path, (Json.object (Fragment.primitive type).entries).textAt path ≠
      (Json.object (Fragment.array items).entries).textAt path := by
  obtain ⟨key, t, ht⟩ := exists_textAt items
  refine ⟨["items", key], ?_⟩
  rw [textAt_items, textAt_primitive (by decide), ht]
  exact nofun

/-- A leaf is told from a map in the same way, also the leaf of an unknown base type. -/
theorem values_told_from_primitive (type : Primitive) (of : Fragment) :
    ∃ path, (Json.object (Fragment.primitive type).entries).textAt path ≠
      (Json.object (Fragment.values of).entries).textAt path := by
  obtain ⟨key, t, ht⟩ := exists_textAt of
  refine ⟨["additionalProperties", key], ?_⟩
  rw [textAt_values, textAt_primitive (by decide), ht]
  exact nofun

/-- What can be looked up tells all fragments apart. A reference is the only one under its key,
containers have different words, and inside of them the fragments are told apart again. -/
theorem eq_of_textAt_eq {f g : Fragment}
    (h : ∀ path, (Json.object f.entries).textAt path = (Json.object g.entries).textAt path) :
    f = g := by
  induction f generalizing g with
  | ref target =>
    have href := h ["$ref"]
    rw [textAt_ref, textAt_ref] at href
    cases g <;> simp at href
    rw [href]
  | primitive type =>
    have htype := h ["type"]
    rw [textAt_type, textAt_type] at htype
    cases g with
    | ref target => cases htype
    | primitive type' => rw [Primitive.word_injective (Option.some.inj htype)]
    | array items =>
      obtain ⟨path, hpath⟩ := array_told_from_primitive type items
      exact absurd (h path) hpath
    | values of =>
      obtain ⟨path, hpath⟩ := values_told_from_primitive type of
      exact absurd (h path) hpath
  | array items ih =>
    have htype := h ["type"]
    rw [textAt_type, textAt_type] at htype
    cases g with
    | ref target => cases htype
    | primitive type =>
      obtain ⟨path, hpath⟩ := array_told_from_primitive type items
      exact absurd (h path).symm hpath
    | array items' =>
      rw [ih fun path => ?_]
      rw [← textAt_items path items, ← textAt_items path items', h]
    | values of => simp [Primitive.word] at htype
  | values of ih =>
    have htype := h ["type"]
    rw [textAt_type, textAt_type] at htype
    cases g with
    | ref target => cases htype
    | primitive type =>
      obtain ⟨path, hpath⟩ := values_told_from_primitive type of
      exact absurd (h path).symm hpath
    | array items => simp [Primitive.word] at htype
    | values of' =>
      rw [ih fun path => ?_]
      rw [← textAt_values path of, ← textAt_values path of', h]

/-- Properties in which the same texts are found have the same fragment. -/
theorem fragment_eq_of_textAt_eq {p q : Property}
    (h : ∀ path, p.toJson.textAt path = q.toJson.textAt path) : p.fragment = q.fragment := by
  refine eq_of_textAt_eq fun path => ?_
  cases path with
  | nil => rfl
  | cons key path =>
    by_cases hkey : key = "description"
    · rw [hkey, textAt_description, textAt_description]
    · rw [← textAt_property hkey path p.description, ← textAt_property hkey path q.description]
      exact h (key :: path)

/-! ## The nodes of a fragment -/

/-- Below a fragment every node is the fragment of a shown type, without a description. -/
theorem shows_of_nodeAt_plain {node target : Json} {place : List Keyword}
    (h : NodeAt node place target) : ∀ s : Signature,
      node = Property.toJson ⟨"", .ofSignature s⟩ →
      ∃ t, Shows s place t ∧ target = Property.toJson ⟨"", .ofSignature t⟩ := by
  induction h with
  | here node => exact fun s hnode => ⟨s, .here s, hnode⟩
  | down step rest ih =>
    intro s hnode
    rw [hnode] at step
    rcases below_property step with ⟨name, element, rfl, rfl, hchild⟩ |
      ⟨name, key, value, rfl, rfl, hchild⟩
    · obtain ⟨t, ht, htarget⟩ := ih element hchild
      exact ⟨t, .element ht, htarget⟩
    · obtain ⟨t, ht, htarget⟩ := ih value hchild
      exact ⟨t, .value ht, htarget⟩

/-- Every node of a property is the fragment of a shown type, and only the outermost one has
the description of the property. -/
theorem shows_of_nodeAt {description : String} {s : Signature} {target : Json}
    {place : List Keyword}
    (h : NodeAt (Property.toJson ⟨description, .ofSignature s⟩) place target) :
    ∃ t, Shows s place t ∧
      target = Property.toJson ⟨if place = [] then description else "", .ofSignature t⟩ := by
  cases h with
  | here => exact ⟨s, .here s, rfl⟩
  | down step rest =>
    rcases below_property step with ⟨name, element, rfl, rfl, hchild⟩ |
      ⟨name, key, value, rfl, rfl, hchild⟩
    · obtain ⟨t, ht, htarget⟩ := shows_of_nodeAt_plain rest element hchild
      exact ⟨t, .element ht, htarget⟩
    · obtain ⟨t, ht, htarget⟩ := shows_of_nodeAt_plain rest value hchild
      exact ⟨t, .value ht, htarget⟩

/-- A type that names a definition shows nothing but itself. -/
theorem Shows.eq_nil_of_isNamed {s t : Signature} {place : List Keyword} (h : Shows s place t)
    (hs : s.isNamed = true) : place = [] := by
  cases h with
  | here => rfl
  | element => cases hs
  | value => cases hs

/-- A type shows at most one name of a definition, at one place. -/
theorem Shows.place_unique {s t t' : Signature} {place place' : List Keyword}
    (h : Shows s place t) (ht : t.isNamed = true) (h' : Shows s place' t')
    (ht' : t'.isNamed = true) : place = place' := by
  induction h generalizing place' with
  | here s => rw [h'.eq_nil_of_isNamed ht]
  | element inside ih =>
    cases h' with
    | here => cases ht'
    | element inside' => rw [ih ht inside']
  | value inside ih =>
    cases h' with
    | here => cases ht'
    | value inside' => rw [ih ht inside']

/-- What holds at every node of the fragment of a field with this description. -/
structure FieldForm (description : String) (root : Json) : Prop where
  /-- A node is a reference or has a type. -/
  ref_or_type : ∀ {place node}, NodeAt root place node →
    ((∃ value, ("$ref", value) ∈ node.entries) ↔ ¬ ∃ value, ("type", value) ∈ node.entries)
  /-- A key is there once. -/
  keys_once : ∀ {place node}, NodeAt root place node → (node.entries.map (·.1)).Nodup
  /-- What a node has is a text or the node below it. -/
  text_or_below : ∀ {place node}, NodeAt root place node → ∀ key value,
    (key, value) ∈ node.entries →
      (∃ t, value = .text t) ∨ ∃ keyword : Keyword, keyword.key = key ∧ Below node keyword value
  /-- The nodes are a chain. -/
  chain : ∀ {place node keyword keyword' child child'}, NodeAt root place node →
    Below node keyword child → Below node keyword' child' → keyword = keyword' ∧ child = child'
  /-- A reference is the innermost node. -/
  ref_innermost : ∀ {place node value}, NodeAt root place node →
    ("$ref", value) ∈ node.entries → ∀ keyword child, ¬ Below node keyword child
  /-- There is one reference at most. -/
  ref_once : ∀ {place place' node node' value value'},
    NodeAt root place node → ("$ref", value) ∈ node.entries →
    NodeAt root place' node' → ("$ref", value') ∈ node'.entries →
      place = place' ∧ node = node' ∧ value = value'
  /-- The outermost node has the description, if there is one, and no other node has any. -/
  described : ∀ {place node}, NodeAt root place node → ∀ value,
    ("description", value) ∈ node.entries ↔
      place = [] ∧ description ≠ "" ∧ value = .text description

/-! ### One node -/

/-- A fragment has a type exactly if it is no reference. -/
theorem exists_ref_iff (description : String) (f : Fragment) :
    (∃ value, ("$ref", value) ∈ (Property.toJson ⟨description, f⟩).entries) ↔
      ¬ ∃ value, ("type", value) ∈ (Property.toJson ⟨description, f⟩).entries := by
  simp only [mem_entries_property (show "$ref" ≠ "description" by decide),
    mem_entries_property (show "type" ≠ "description" by decide)]
  cases f <;> simp [Fragment.entries, reference]

theorem keys_nodup (description : String) (f : Fragment) :
    ((Property.toJson ⟨description, f⟩).entries.map (·.1)).Nodup := by
  simp only [Property.toJson, Json.entries, textUnlessEmpty]
  cases f <;> split <;> simp [Fragment.entries, reference]

/-- The containers are the fragments with something that is no text, which is the node below. -/
theorem text_or_below (description : String) (f : Fragment) {key : String} {value : Json}
    (h : (key, value) ∈ (Property.toJson ⟨description, f⟩).entries) :
    (∃ t, value = .text t) ∨ ∃ keyword : Keyword, keyword.key = key ∧
      Below (Property.toJson ⟨description, f⟩) keyword value := by
  have hbelow : ∀ keyword : Keyword, keyword.key = key → keyword.Selects value value →
      Below (Property.toJson ⟨description, f⟩) keyword value :=
    fun keyword hkey hselects => ⟨value, hkey ▸ h, hselects⟩
  have hentries : (∃ t, value = .text t) ∨ key = "items" ∨ key = "additionalProperties" := by
    rcases List.mem_append.mp h with hdescription | hfragment
    · rw [textUnlessEmpty] at hdescription
      split at hdescription
      · cases hdescription
      · exact .inl ⟨description, (Prod.mk.inj (List.mem_singleton.mp hdescription)).2⟩
    · cases f <;> simp [Fragment.entries, reference] at hfragment <;> grind
  rcases hentries with ht | rfl | rfl
  · exact .inl ht
  · exact .inr ⟨.items, rfl, hbelow .items rfl rfl⟩
  · exact .inr ⟨.values, rfl, hbelow .values rfl rfl⟩

/-- The description of a property is its own, and there is none where it is empty. -/
theorem mem_entries_description_iff {description : String} {f : Fragment} {value : Json} :
    ("description", value) ∈ (Property.toJson ⟨description, f⟩).entries ↔
      description ≠ "" ∧ value = .text description := by
  have hfragment : ("description", value) ∉ f.entries := by
    cases f <;> simp [Fragment.entries, reference]
  simp only [Property.toJson, Json.entries, List.mem_append, hfragment, or_false, textUnlessEmpty]
  split <;> simp_all

/-- A reference has no node below it. -/
theorem not_below_of_isNamed {description : String} {s : Signature} (hs : s.isNamed = true)
    (keyword : Keyword) (child : Json) :
    ¬ Below (Property.toJson ⟨description, .ofSignature s⟩) keyword child := by
  intro hbelow
  rcases below_property hbelow with ⟨_, _, rfl, -⟩ | ⟨_, _, _, rfl, -⟩ <;> cases hs

/-! ### All nodes -/

/-- Every field is written in this form. -/
theorem fieldForm (field : Field) :
    FieldForm field.description (Property.ofField field).toJson where
  ref_or_type h := by
    obtain ⟨t, -, rfl⟩ := shows_of_nodeAt h
    exact exists_ref_iff _ _
  keys_once h := by
    obtain ⟨t, -, rfl⟩ := shows_of_nodeAt h
    exact keys_nodup _ _
  text_or_below h key value hmem := by
    obtain ⟨t, -, rfl⟩ := shows_of_nodeAt h
    exact text_or_below _ _ hmem
  chain h hbelow hbelow' := by
    obtain ⟨t, -, rfl⟩ := shows_of_nodeAt h
    rcases below_property hbelow with ⟨_, _, rfl, rfl, rfl⟩ | ⟨_, _, _, rfl, rfl, rfl⟩ <;>
      rcases below_property hbelow' with ⟨_, _, heq, rfl, rfl⟩ | ⟨_, _, _, heq, rfl, rfl⟩ <;>
      cases heq <;> exact ⟨rfl, rfl⟩
  ref_innermost h hmem keyword child := by
    obtain ⟨t, -, rfl⟩ := shows_of_nodeAt h
    exact not_below_of_isNamed (mem_entries_ref_iff.mp hmem).1 keyword child
  ref_once h hmem h' hmem' := by
    obtain ⟨t, ht, rfl⟩ := shows_of_nodeAt h
    obtain ⟨t', ht', rfl⟩ := shows_of_nodeAt h'
    obtain ⟨hnamed, rfl⟩ := mem_entries_ref_iff.mp hmem
    obtain ⟨hnamed', rfl⟩ := mem_entries_ref_iff.mp hmem'
    obtain rfl := ht.place_unique hnamed ht' hnamed'
    obtain rfl := ht.functional ht'
    exact ⟨rfl, rfl, rfl⟩
  described h value := by
    rename_i place node
    obtain ⟨t, -, rfl⟩ := shows_of_nodeAt h
    rw [mem_entries_description_iff]
    by_cases hplace : place = []
    · simp [hplace]
    · simp [hplace]

/-! ## What a fragment tells -/

/-- A field's fragment tells its type up to what is alike, and nothing else of it: with one
description two fields have the same fragment, as it is written and also as it is looked up,
exactly if their types are alike. Every fragment is a chain of nodes in the form of a field. -/
theorem fragment_content :
    (∀ f g : Field, f.description = g.description →
      ((Property.ofField f).toJson = (Property.ofField g).toJson ↔ f.type.Alike g.type) ∧
      ((∀ path, (Property.ofField f).toJson.textAt path = (Property.ofField g).toJson.textAt path) ↔
        f.type.Alike g.type)) ∧
    ∀ f : Field, FieldForm f.description (Property.ofField f).toJson := by
  refine ⟨fun f g hdescription => ?_, fieldForm⟩
  have hwritten : f.type.Alike g.type →
      (Property.ofField f).toJson = (Property.ofField g).toJson := fun halike => by
    rw [Property.ofField, Property.ofField, hdescription, ofSignature_eq_of_alike halike]
  have hlooked (htexts : ∀ path, (Property.ofField f).toJson.textAt path =
      (Property.ofField g).toJson.textAt path) : f.type.Alike g.type :=
    alike_of_ofSignature_eq (fragment_eq_of_textAt_eq htexts)
  exact ⟨⟨fun hequal => hlooked fun path => by rw [hequal], hwritten⟩,
    hlooked, fun halike path => by rw [hwritten halike]⟩

/-- A map to sets of an enum and another one to lists of a struct with the same name have one
fragment; a base type that is not known and a map to it have two. -/
theorem fragment_content_of_containers :
    (Property.ofField ⟨"owners", .map "map" (.base "string") (.iterable "set" (.enum "Owner" none)),
        .required, .body, "who"⟩).toJson =
      (Property.ofField ⟨"keepers", .map "dict" (.base "int")
        (.iterable "list" (.struct "Owner" none)), .optional, .path, "who"⟩).toJson ∧
    (Property.ofField ⟨"thing", .base "Thing", .optional, .body, ""⟩).toJson ≠
      (Property.ofField ⟨"thing", .map "map" (.base "string") (.base "Thing"), .optional, .body,
        ""⟩).toJson := by
  constructor
  · refine ((fragment_content.1 _ _ (by rfl)).1).mpr (.map _ _ _ _ (.iterable _ _ ?_))
    exact .named rfl rfl rfl
  · intro hequal
    have halike := ((fragment_content.1 _ _ (by rfl)).1).mp hequal
    cases halike with
    | named left => cases left
    | leaf _ right => rcases right with right | right <;> cases right

end Schema

end ServiceSchema

/-
Places in a schema document, and what was written there.

A document is read here as plain JSON: a keyword leads from a schema node to the nodes
below it, and a list of keywords is a place. What a reference keyword at a place was
written for is said on the other side, on the specification: a type inside a parameter
or a field, or a subtype. The two sides are related fragment by fragment, by an
induction on the signature that goes down the same way as the place does.

Only schema nodes are places. A property that is called like a keyword is reached
through the properties and is a node of its own, never the keyword.
-/
import ServiceSchema.Proofs.References
import ServiceSchema.Proofs.Tables
import ServiceSchema.Schema.Json

set_option autoImplicit false

namespace ServiceSchema.Schema

/-! ## Places -/

/-- A keyword that leads from a schema node to one below it. -/
inductive Keyword where
  | property (name : String)
  | definition (name : String)
  | items
  /-- The values of an object. -/
  | values
  /-- One of the alternatives, counted from zero. -/
  | alternative (index : Nat)
deriving DecidableEq, Repr

namespace Keyword

/-- The key under which a node lists what a keyword leads to. -/
def key : Keyword → String
  | property _ => "properties"
  | definition _ => "definitions"
  | items => "items"
  | values => "additionalProperties"
  | alternative _ => "oneOf"

/-- What a keyword selects from what is listed under its key. -/
def Selects : Keyword → Json → Json → Prop
  | property name, listed, child => (name, child) ∈ listed.entries
  | definition name, listed, child => (name, child) ∈ listed.entries
  | items, listed, child => listed = child
  | values, listed, child => listed = child
  | alternative index, .list all, child => all[index]? = some child
  | alternative _, _, _ => False

end Keyword

/-- A keyword leads from a node to another one. -/
def Below (node : Json) (keyword : Keyword) (child : Json) : Prop :=
  ∃ listed, (keyword.key, listed) ∈ node.entries ∧ keyword.Selects listed child

/-- The schema node at a place, seen from the node where the place starts. -/
inductive NodeAt : Json → List Keyword → Json → Prop
  | here (node : Json) : NodeAt node [] node
  | down {node child target : Json} {keyword : Keyword} {place : List Keyword}
      (step : Below node keyword child) (rest : NodeAt child place target) :
      NodeAt node (keyword :: place) target

/-! ## Types behind the fragments -/

/-- The type that the fragment of a type shows at a place. Elements and values are shown;
the keys of maps are not. -/
inductive Shows : Signature → List Keyword → Signature → Prop
  | here (s : Signature) : Shows s [] s
  | element {name : String} {element s : Signature} {place : List Keyword}
      (inside : Shows element place s) : Shows (.iterable name element) (.items :: place) s
  | value {name : String} {key value s : Signature} {place : List Keyword}
      (inside : Shows value place s) : Shows (.map name key value) (.values :: place) s

theorem Shows.mem_nodes {s t : Signature} {place : List Keyword} (h : Shows s place t) :
    t ∈ s.nodes := by
  induction h with
  | here s => exact s.self_mem_nodes
  | element inside ih => exact List.mem_cons_of_mem _ ih
  | value inside ih => exact List.mem_cons_of_mem _ (List.mem_append_right _ ih)

/-- One place shows one type. -/
theorem Shows.functional {s t t' : Signature} {place : List Keyword} (h : Shows s place t)
    (h' : Shows s place t') : t = t' := by
  induction h with
  | here s =>
    cases h'
    rfl
  | element inside ih =>
    cases h' with
    | element inside' => exact ih inside'
  | value inside ih =>
    cases h' with
    | value inside' => exact ih inside'

/-! ## Fragments -/

theorem Property.toJson_plain (f : Fragment) : Property.toJson ⟨"", f⟩ = .object f.entries := rfl

/-- A description is no keyword that leads anywhere. -/
theorem mem_entries_property {key : String} (hkey : key ≠ "description") {value : Json}
    {description : String} {f : Fragment} :
    (key, value) ∈ (Property.toJson ⟨description, f⟩).entries ↔ (key, value) ∈ f.entries := by
  simp only [Property.toJson, Json.entries, List.mem_append, textUnlessEmpty]
  split <;> simp [hkey]

/-- A fragment has a node below it only where its type has an element or a value. -/
theorem below_property {description : String} {s : Signature} {keyword : Keyword} {child : Json}
    (h : Below (Property.toJson ⟨description, .ofSignature s⟩) keyword child) :
    (∃ name element, s = .iterable name element ∧ keyword = .items ∧
      child = Property.toJson ⟨"", .ofSignature element⟩) ∨
    (∃ name key value, s = .map name key value ∧ keyword = .values ∧
      child = Property.toJson ⟨"", .ofSignature value⟩) := by
  obtain ⟨listed, hlisted, hselects⟩ := h
  rw [mem_entries_property (by cases keyword <;> simp [Keyword.key])] at hlisted
  -- all keys but the one that the type writes are ruled out by the entries of its fragment
  cases s with
  | iterable name element =>
    left
    cases keyword <;> simp [Fragment.ofSignature, Fragment.entries, Keyword.key] at hlisted
    case items => exact ⟨name, element, rfl, rfl, hselects ▸ hlisted⟩
  | map name key value =>
    right
    cases keyword <;> simp [Fragment.ofSignature, Fragment.entries, Keyword.key] at hlisted
    case values => exact ⟨name, key, value, rfl, rfl, hselects ▸ hlisted⟩
  | _ =>
    cases keyword <;>
      simp [Fragment.ofSignature, Fragment.entries, reference, Keyword.key] at hlisted

/-- Every node inside a fragment is the fragment of a type that is shown at its place. The
induction goes down the place; only the outermost fragment can have a description, so the
statement is made for any. -/
theorem nodeAt_property {node target : Json} {place : List Keyword}
    (h : NodeAt node place target) : ∀ (description : String) (s : Signature),
      node = Property.toJson ⟨description, .ofSignature s⟩ →
      ∃ description' t, Shows s place t ∧
        target = Property.toJson ⟨description', .ofSignature t⟩ := by
  induction h with
  | here node =>
    intro description s hnode
    exact ⟨description, s, .here s, hnode⟩
  | down step rest ih =>
    intro description s hnode
    rw [hnode] at step
    rcases below_property step with ⟨name, element, rfl, rfl, hchild⟩ |
      ⟨name, key, value, rfl, rfl, hchild⟩
    · obtain ⟨description', t, ht, htarget⟩ := ih "" element hchild
      exact ⟨description', t, .element ht, htarget⟩
    · obtain ⟨description', t, ht, htarget⟩ := ih "" value hchild
      exact ⟨description', t, .value ht, htarget⟩

/-- Every type that is shown at a place has its fragment there. -/
theorem nodeAt_of_shows {s t : Signature} {place : List Keyword} (h : Shows s place t) :
    ∀ description, ∃ description',
      NodeAt (Property.toJson ⟨description, .ofSignature s⟩) place
        (Property.toJson ⟨description', .ofSignature t⟩) := by
  induction h with
  | here s =>
    intro description
    exact ⟨description, .here _⟩
  | element inside ih =>
    intro description
    obtain ⟨description', hnode⟩ := ih ""
    refine ⟨description', .down ⟨_, ?_, rfl⟩ hnode⟩
    rw [mem_entries_property (by decide)]
    simp [Fragment.ofSignature, Fragment.entries, Property.toJson_plain, Keyword.key]
  | value inside ih =>
    intro description
    obtain ⟨description', hnode⟩ := ih ""
    refine ⟨description', .down ⟨_, ?_, rfl⟩ hnode⟩
    rw [mem_entries_property (by decide)]
    simp [Fragment.ofSignature, Fragment.entries, Property.toJson_plain, Keyword.key]

/-- The fragment of a type is a reference exactly if the type names a definition, and
then it is the reference to that name. -/
theorem mem_entries_ref_iff {description : String} {s : Signature} {value : Json} :
    ("$ref", value) ∈ (Property.toJson ⟨description, .ofSignature s⟩).entries ↔
      s.isNamed = true ∧ value = .text (referenceStart ++ s.name) := by
  rw [mem_entries_property (by decide)]
  cases s <;>
    simp [Fragment.ofSignature, Fragment.entries, reference, Signature.isNamed, Signature.name]

end ServiceSchema.Schema

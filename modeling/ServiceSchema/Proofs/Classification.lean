/-
What the signature of an annotation says about classes.

A signature that was read off an annotation points at a definition only where a class stood,
and then it says which class, under its full name and as the kind that the class is. The
classes that can stand there are those of the universe: what is no class of it has no name,
and without a name there is no signature.
-/
import Mathlib.Data.List.Nodup
import ServiceSchema.Class.Assembly
import ServiceSchema.Proofs.Outcomes

set_option autoImplicit false

namespace ServiceSchema

/-! ## References of composed signatures -/

namespace Signature

@[simp] theorem references_base (name : String) : (base name).references = [] := rfl

@[simp] theorem references_unresolved (name : String) : (unresolved name).references = [] := rfl

@[simp] theorem references_struct (name : String) (descriptor : Option ClassId) :
    (struct name descriptor).references = [struct name descriptor] := rfl

@[simp] theorem references_enum (name : String) (descriptor : Option ClassId) :
    (enum name descriptor).references = [enum name descriptor] := rfl

@[simp] theorem references_iterable (name : String) (element : Signature) :
    (iterable name element).references = element.references := rfl

@[simp] theorem references_map (name : String) (key value : Signature) :
    (map name key value).references = key.references ++ value.references := by
  simp [references, nodes, isNamed]

end Signature

namespace Universe

/-! ## Classes and their names -/

/-- Whatever has a name is a class of the universe. -/
theorem mem_allClasses_of_fullName {u : Universe} {id : ClassId} (h : u.fullName id ≠ "") :
    id ∈ u.allClasses := by
  unfold allClasses
  cases id with
  | standard c =>
    have hc : c ∈ StandardClass.all := by
      by_contra hc
      exact h (by simp [fullName, hc])
    exact List.mem_append_right _ (List.mem_map_of_mem hc)
  | declared index =>
    have hindex : index < u.classes.length := by
      by_contra hindex
      exact h (by simp [fullName, declaration?, List.getElem?_eq_none (Nat.le_of_not_lt hindex)])
    exact List.mem_append_left _ (List.mem_map_of_mem (List.mem_range.2 hindex))

/-- Different classes of a universe have different full names. -/
def DistinctNames (u : Universe) : Prop :=
  ∀ c ∈ u.allClasses, ∀ d ∈ u.allClasses, u.fullName c = u.fullName d → c = d

/-- Different standard classes have different full names. -/
theorem nodup_standardNames :
    (StandardClass.all.map fun c => qualifiedName c.module c.name).Nodup := by
  decide +kernel

/-- Whether names are distinct is up to the declared classes: their names have to differ from
each other and from those of the standard classes. -/
theorem distinctNames_of_declared {u : Universe}
    (hown : (u.classes.map fun c => qualifiedName c.module c.qualname).Nodup)
    (hstandard : ∀ c ∈ u.classes, ∀ s ∈ StandardClass.all,
      qualifiedName c.module c.qualname ≠ qualifiedName s.module s.name) : u.DistinctNames := by
  have hdeclared (index : Nat) (h : index < u.classes.length) :
      u.fullName (.declared index) =
        qualifiedName u.classes[index].module u.classes[index].qualname := by
    simp [fullName, declaration?, h]
  have hknown (c : StandardClass) (h : c ∈ StandardClass.all) :
      u.fullName (.standard c) = qualifiedName c.module c.name := by
    simp [fullName, h]
  have hdiffer (index : Nat) (h : index < u.classes.length) (c : StandardClass)
      (hc : c ∈ StandardClass.all) : u.fullName (.declared index) ≠ u.fullName (.standard c) := by
    rw [hdeclared index h, hknown c hc]
    exact hstandard _ (List.getElem_mem h) c hc
  intro c hc d hd hname
  simp only [allClasses, List.mem_append, List.mem_map, List.mem_range] at hc hd
  -- two declared classes, one of each sort in either order, two standard classes
  rcases hc with ⟨i, hi, rfl⟩ | ⟨c, hc, rfl⟩ <;> rcases hd with ⟨j, hj, rfl⟩ | ⟨d, hd, rfl⟩
  · rw [hdeclared i hi, hdeclared j hj] at hname
    have hindex : i = j :=
      (List.getElem?_inj (by simpa using hi) hown).1 (by simp [hi, hj, hname])
    rw [hindex]
  · exact absurd hname (hdiffer i hi d hd)
  · exact absurd hname.symm (hdiffer j hj c hc)
  · rw [hknown c hc, hknown d hd] at hname
    rw [List.inj_on_of_nodup_map nodup_standardNames hc hd hname]

/-! ## Classified references -/

/-- The references that annotations give rise to: an enumeration is referred to as an enum, and
any other class that is not builtin as a struct. Either goes under the full name of the class. -/
inductive Classified (u : Universe) : Signature → Prop where
  | enum {id : ClassId} (named : u.fullName id ≠ "") (enumeration : u.isEnumeration id = true) :
      Classified u (.enum (u.fullName id) (some id))
  | struct {id : ClassId} (named : u.fullName id ≠ "") (plain : u.isEnumeration id = false)
      (defined : u.isBuiltin id = false) : Classified u (.struct (u.fullName id) (some id))

/-- Every reference inside a signature is classified. -/
def Grounded (u : Universe) (s : Signature) : Prop := ∀ r ∈ s.references, u.Classified r

variable {u : Universe}

theorem grounded_base (name : String) : u.Grounded (.base name) := by
  simp [Grounded]

theorem grounded_unresolved (name : String) : u.Grounded (.unresolved name) := by
  simp [Grounded]

theorem grounded_iterable {name : String} {element : Signature} (h : u.Grounded element) :
    u.Grounded (.iterable name element) := by
  simpa [Grounded] using h

theorem grounded_map {name : String} {key value : Signature} (hkey : u.Grounded key)
    (hvalue : u.Grounded value) : u.Grounded (.map name key value) := by
  intro r hr
  rw [Signature.references_map, List.mem_append] at hr
  rcases hr with hr | hr
  · exact hkey r hr
  · exact hvalue r hr

/-- A container of anything mentions no class. -/
theorem grounded_ofAnything (kind : ContainerKind) : u.Grounded kind.ofAnything := by
  cases kind
  · exact grounded_iterable (grounded_unresolved _)
  · exact grounded_iterable (grounded_unresolved _)
  · exact grounded_map (grounded_base _) (grounded_unresolved _)

/-- A classified reference is grounded. -/
theorem Classified.grounded {r : Signature} (h : u.Classified r) : u.Grounded r := by
  intro r' hr'
  cases h <;>
  · obtain rfl := List.mem_singleton.1 hr'
    constructor <;> assumption

/-! ## Signatures of classes -/

/-- The signature of a class is grounded: where it points at a definition, it is the class. -/
theorem grounded_classSignature {id : ClassId} {s : Signature}
    (h : u.classSignature id = .ok s) : u.Grounded s := by
  cases id with
  | standard c =>
    simp only [classSignature] at h
    split at h
    · exact Except.ok.inj h ▸ grounded_unresolved _
    split at h
    · exact Except.ok.inj h ▸ grounded_base _
    split at h
    · exact Except.ok.inj h ▸ grounded_ofAnything _
    split at h
    · exact Except.ok.inj h ▸ grounded_base _
    · next hbuiltin =>
      split at h
      · cases h
      · next hname =>
        obtain rfl := Except.ok.inj h
        refine Classified.grounded (.struct hname rfl ?_)
        simpa [isBuiltin] using hbuiltin
  | declared index =>
    simp only [classSignature] at h
    split at h
    · next henum =>
      split at h
      · cases h
      · next hname => exact Except.ok.inj h ▸ Classified.grounded (.enum hname henum)
    · next henum =>
      split at h
      · split at h
        · cases h
        · exact Except.ok.inj h ▸ grounded_base _
      · next hbuiltin =>
        split at h
        · cases h
        · next hname =>
          obtain rfl := Except.ok.inj h
          exact Classified.grounded
            (.struct hname (Bool.eq_false_iff.2 henum) (Bool.eq_false_iff.2 hbuiltin))

/-- The signature of literal values is that of their class, or mentions none. -/
theorem grounded_literalSignature {values : List LiteralValue} {s : Signature}
    (h : u.literalSignature values = .ok s) : u.Grounded s := by
  unfold literalSignature at h
  split at h
  · exact Except.ok.inj h ▸ grounded_unresolved _
  · split at h
    · exact grounded_classSignature h
    · exact Except.ok.inj h ▸ grounded_unresolved _

end Universe

namespace Annotation

variable {u : Universe}

/-- What could not be classified mentions no class. -/
theorem grounded_unresolved {a : Annotation} {s : Signature} (h : unresolved u a = .ok s) :
    u.Grounded s := by
  unfold unresolved Signature.make? at h
  split at h
  · cases h
  · exact Except.ok.inj h ▸ Universe.grounded_unresolved _

-- One statement for each of the functions that a signature is computed by. The induction is
-- on the annotation, along their recursion.
mutual

/-- The signature of an annotation is grounded, whether unions are looked through or not. -/
theorem grounded_signatureOf : ∀ (through : Bool) (a : Annotation) (s : Signature),
    signatureOf u through a = .ok s → u.Grounded s
  | through, annotated type _, s, h => by
    rw [signatureOf] at h
    exact grounded_signatureOf through type s h
  | through, union members, s, h => by
    rw [signatureOf] at h
    split at h
    · exact grounded_otherSignature members s h
    · exact grounded_unresolved h
  | through, joined members, s, h => by
    rw [signatureOf] at h
    split at h
    · exact grounded_otherSignature members s h
    · exact grounded_unresolved h
  | _, none, s, h => by
    rw [signatureOf] at h
    exact Except.ok.inj h ▸ Universe.grounded_base _
  | _, cls id, s, h => by
    rw [signatureOf] at h
    exact Universe.grounded_classSignature h
  | _, generic a, s, h => by
    rw [signatureOf] at h
    split at h
    · exact Except.ok.inj h ▸ Universe.grounded_ofAnything _
    · exact grounded_unresolved h
  | _, applied head arguments, s, h => by
    rw [signatureOf] at h
    -- the head decides: lists and other iterables have an element, maps a key and a value
    split at h
    · obtain ⟨element, helement, rfl⟩ := Except.map_eq_ok.1 h
      exact Universe.grounded_iterable (grounded_elementSignature arguments element helement)
    · obtain ⟨element, helement, rfl⟩ := Except.map_eq_ok.1 h
      exact Universe.grounded_iterable (grounded_elementSignature arguments element helement)
    · split at h
      · next k v harguments =>
        have hboth := grounded_argumentSignatures arguments [k, v] harguments
        exact Except.ok.inj h ▸ Universe.grounded_map (hboth k (by simp)) (hboth v (by simp))
      · exact Except.ok.inj h ▸ Universe.grounded_ofAnything .map
      · split at h
        · cases h
        · exact Except.ok.inj h ▸ Universe.grounded_ofAnything .map
    · exact grounded_unresolved h
  | _, literal values, s, h => by
    rw [signatureOf] at h
    exact Universe.grounded_literalSignature h
  | _, form _, s, h | _, typeVariable _, s, h | _, derived _, s, h | _, forward _ _, s, h
  | _, text _, s, h | _, ellipsis, s, h | _, member _ _, s, h | _, function _, s, h
  | _, value _, s, h => by
    simp only [signatureOf] at h
    exact grounded_unresolved h

/-- The signature of the other member of a union is grounded. -/
theorem grounded_otherSignature : ∀ (members : List Annotation) (s : Signature),
    otherSignature u members = .ok s → u.Grounded s
  | [], s, h => by
    rw [otherSignature] at h
    exact Except.ok.inj h ▸ Universe.grounded_unresolved _
  | a :: rest, s, h => by
    rw [otherSignature] at h
    split at h
    · exact grounded_otherSignature rest s h
    · exact grounded_signatureOf false a s h

/-- The signature of the first type argument is grounded. -/
theorem grounded_elementSignature : ∀ (arguments : List Annotation) (s : Signature),
    elementSignature u arguments = .ok s → u.Grounded s
  | [], s, h => by
    rw [elementSignature] at h
    exact Except.ok.inj h ▸ Universe.grounded_unresolved _
  | a :: _, s, h => by
    rw [elementSignature] at h
    exact grounded_signatureOf true a s h

/-- The signatures of all type arguments are grounded. -/
theorem grounded_argumentSignatures : ∀ (arguments : List Annotation) (all : List Signature),
    argumentSignatures u arguments = .ok all → ∀ s ∈ all, u.Grounded s
  | [], all, h, s, hs => by
    rw [argumentSignatures] at h
    rw [← Except.ok.inj h] at hs
    exact absurd hs List.not_mem_nil
  | a :: rest, all, h, s, hs => by
    rw [argumentSignatures] at h
    obtain ⟨first, hfirst, h⟩ := Except.bind_eq_ok.1 h
    obtain ⟨others, hothers, h⟩ := Except.bind_eq_ok.1 h
    rw [← Except.ok.inj h, List.mem_cons] at hs
    rcases hs with rfl | hs
    · exact grounded_signatureOf true a s hfirst
    · exact grounded_argumentSignatures rest others hothers s hs

end

/-- **The signature of an annotation is grounded**: a class stands behind every reference. -/
theorem grounded_toSignature (a : Annotation) (s : Signature) (h : a.toSignature u = .ok s) :
    u.Grounded s :=
  grounded_signatureOf true a s h

end Annotation

end ServiceSchema

/-
Which layers around an annotation leave its signature alone.

An annotation can be wrapped: it may be nothing, or it comes with metadata, in any order and any
number of times. Unions and metadata merge with what is inside them, so most layers leave no
trace, and a signature looks through those that do. But a union with nothing which ends up inside
metadata inside another such union stays, and the signature is no longer that of what is wrapped.
No other stack of layers shows, and none shows deep inside type arguments either.
-/
import Mathlib.Data.List.Forall2
import ServiceSchema.Proofs.Unions

set_option autoImplicit false

namespace ServiceSchema

namespace Annotation

variable {u : Universe} {a m : Annotation}

/-! ## One layer -/

/-- An annotation that layers can be put around: no text, and a union only if it allows a single
annotation besides nothing. -/
structure Plain (a : Annotation) : Prop where
  notText : ∀ s, a ≠ text s
  single : a.isUnion = false ∨ a.other?.isSome = true

/-- As unions are built, those that have fewer than two members besides nothing have one. -/
theorem plain_of_normal (hnormal : a.Normal) (htext : ∀ s, a ≠ text s)
    (hfew : (a.unionMembers.filter (!·.isNoneClass)).length < 2) : a.Plain := by
  refine ⟨htext, ?_⟩
  cases hunion : a.isUnion with
  | false => exact .inl rfl
  | true =>
    refine .inr ?_
    have hseveral := hnormal.several hunion
    have honce := hnormal.length_filter_isNoneClass
    have hsplit : a.unionMembers.length = (a.unionMembers.filter isNoneClass).length
        + (a.unionMembers.filter (!·.isNoneClass)).length := by
      simpa [List.countP_eq_length_filter]
        using a.unionMembers.length_eq_countP_add_countP isNoneClass
    obtain ⟨m, hm⟩ := List.length_eq_one_iff.1
      (show (a.unionMembers.filter (!·.isNoneClass)).length = 1 by omega)
    have hoptional : a.isOptional = true := by
      rw [isOptional, List.any_eq_true]
      obtain ⟨m, hm⟩ := List.exists_mem_of_length_pos
        (show 0 < (a.unionMembers.filter isNoneClass).length by omega)
      exact ⟨m, List.mem_filter.1 hm⟩
    rw [other?_eq_some.2 ⟨hoptional, hm⟩]
    rfl

/-- Whether an annotation is a union of one annotation with nothing that comes with metadata. -/
def hidesOptional : Annotation → Bool
  | annotated type _ => type.strip.other?.isSome
  | _ => false

theorem hidesOptional_asType (a : Annotation) : a.asType.hidesOptional = a.hidesOptional := by
  cases a <;> rfl

theorem toSignature_asType (h : ∀ s, a ≠ text s) : toSignature u a.asType = toSignature u a := by
  cases a with
  | none => rfl
  | text s => exact absurd rfl (h s)
  | _ => rfl

theorem unwrap_annotate (a : Annotation) (metadata : List Marker) :
    (annotate a metadata).unwrap = a.asType.unwrap := by
  rw [annotate]
  split <;> simp [unwrap_eq, *]

theorem isUnion_annotate (a : Annotation) (metadata : List Marker) :
    (annotate a metadata).isUnion = false := by
  rw [annotate]
  split <;> rfl

theorem optionalOf_eq (a : Annotation) : optionalOf a = collapse union [a.asType, noneClass] := rfl

theorem asType_annotate (a : Annotation) (metadata : List Marker) :
    (annotate a metadata).asType = annotate a metadata := by
  rw [annotate]
  split <;> rfl

theorem isNoneClass_annotate (a : Annotation) (metadata : List Marker) :
    (annotate a metadata).isNoneClass = false := by
  rw [annotate]
  split <;> rfl

/-- An annotation is kept beside nothing unless it is nothing itself. -/
theorem dropRepeats_pair (h : a.isNoneClass = false) :
    dropRepeats [a, noneClass] = [a, noneClass] := by
  rw [dropRepeats_eq]
  simp [keep, noneClass_same, h]

/-- Something that is no union may be nothing: a union of two, unless it is nothing itself. -/
theorem optionalOf_of_not_isUnion (h : a.isUnion = false) :
    optionalOf a =
      if a.asType.isNoneClass then noneClass else union [a.asType, noneClass] := by
  have hmembers : [a.asType, noneClass].flatMap members = [a.asType, noneClass] := by
    rw [List.flatMap_cons, members_of_not_isUnion (by rw [isUnion_asType, h])]
    rfl
  rw [optionalOf_eq]
  cases hnone : a.asType.isNoneClass with
  | true =>
    refine collapse_of_single ?_
    rw [hmembers, dropRepeats_eq, isNoneClass_iff.1 hnone]
    simp [keep, noneClass_same]
  | false =>
    rw [collapse_of_pair (hmembers.symm ▸ dropRepeats_pair hnone :
      dropRepeats ([a.asType, noneClass].flatMap members) = [a.asType, noneClass])]
    rfl

/-- A union that allows for nothing already stays a union of the same annotation with nothing. -/
theorem optionalOf_of_other? (h : a.other? = some m) :
    (optionalOf a).isUnion = true ∧ (optionalOf a).other? = some m := by
  have hunion : a.isUnion = true := isUnion_of_other? (by rw [h]; rfl)
  have hmembers : [a.asType, noneClass].flatMap members = a.unionMembers ++ [noneClass] := by
    rw [List.flatMap_cons, asType_of_isUnion hunion, members_of_isUnion hunion]
    rfl
  have hothers : (dropRepeats (a.unionMembers ++ [noneClass])).filter (!·.isNoneClass) = [m] := by
    rw [filter_dropRepeats (fun b c hbc => by rw [isNoneClass_congr hbc]), List.filter_append,
      (other?_eq_some.1 h).2]
    rfl
  have hnothing : (dropRepeats (a.unionMembers ++ [noneClass])).any isNoneClass = true := by
    have hne : (dropRepeats (a.unionMembers ++ [noneClass])).filter isNoneClass ≠ [] := by
      rw [filter_dropRepeats fun b c hbc => isNoneClass_congr hbc, List.filter_append]
      exact dropRepeats_ne_nil (List.append_ne_nil_of_right_ne_nil _ (List.cons_ne_nil _ _))
    obtain ⟨b, hb⟩ := List.exists_mem_of_ne_nil _ hne
    exact List.any_eq_true.2 ⟨b, List.mem_filter.1 hb⟩
  -- a single member cannot be nothing and something else
  have hseveral : ∀ b, dropRepeats ([a.asType, noneClass].flatMap members) ≠ [b] := by
    intro b hone
    rw [← hmembers, hone] at hothers hnothing
    have hb : b.isNoneClass = true := by simpa using hnothing
    simp [hb] at hothers
  rw [optionalOf_eq, collapse_of_several hseveral, hmembers]
  exact ⟨rfl, other?_eq_some.2 ⟨hnothing, hothers⟩⟩

/-- Something else than nothing may be nothing: a union of it. -/
theorem Plain.other?_optionalOf (h : a.Plain) (hnone : a.asType.isNoneClass = false) :
    (optionalOf a).isUnion = true ∧ (optionalOf a).other?.isSome = true := by
  rcases h.single with hunion | hother
  · rw [optionalOf_of_not_isUnion hunion, hnone]
    exact ⟨rfl, by rw [if_neg Bool.false_ne_true, other?_union_noneClass hnone]; rfl⟩
  · obtain ⟨m, hm⟩ := Option.isSome_iff_exists.1 hother
    obtain ⟨hunion, hother⟩ := optionalOf_of_other? hm
    exact ⟨hunion, by rw [hother]; rfl⟩

theorem plain_annotate (a : Annotation) (metadata : List Marker) : (annotate a metadata).Plain where
  notText s := by
    rw [annotate]
    split <;> nofun
  single := .inl (isUnion_annotate a metadata)

theorem Plain.optionalOf (h : a.Plain) : (optionalOf a).Plain := by
  cases hnone : a.asType.isNoneClass with
  | true =>
    have hunion : a.isUnion = false := by
      rw [← isUnion_asType, isNoneClass_iff.1 hnone]
      rfl
    rw [optionalOf_of_not_isUnion hunion, hnone]
    exact ⟨nofun, .inl rfl⟩
  | false =>
    obtain ⟨hunion, hother⟩ := h.other?_optionalOf hnone
    refine ⟨fun s hs => ?_, .inr hother⟩
    rw [hs] at hunion
    cases hunion

theorem hidesOptional_of_isUnion (h : a.isUnion = true) : a.hidesOptional = false := by
  cases a with
  | annotated _ _ => cases h
  | _ => rfl

theorem asType_of_hidesOptional (h : a.hidesOptional = true) : a.asType = a := by
  cases a with
  | annotated type metadata => rfl
  | _ => cases h

theorem isSome_other?_of_hidesOptional (h : a.hidesOptional = true) :
    a.strip.other?.isSome = true := by
  cases a with
  | annotated type metadata => exact h
  | _ => cases h

theorem unwrap_eq_strip (hunion : a.isUnion = false) (h : a.hidesOptional = false) :
    a.unwrap = a.strip := by
  have hother : a.strip.other? = Option.none := by
    cases a with
    | annotated type metadata => simpa [hidesOptional] using h
    | _ => exact other?_of_not_isUnion hunion
  rw [unwrap_eq, hother]

/-- One more union with nothing is looked through, but takes the place of one inside metadata. -/
theorem unwrap_optionalOf (h : a.Plain) :
    (optionalOf a).unwrap = if a.hidesOptional then a.strip else a.asType.unwrap := by
  rcases h.single with hunion | hother
  · rw [optionalOf_of_not_isUnion hunion]
    cases hnone : a.asType.isNoneClass with
    | true =>
      have hhides : a.hidesOptional = false := by
        rw [← hidesOptional_asType, isNoneClass_iff.1 hnone]
        rfl
      rw [hhides, isNoneClass_iff.1 hnone]
      rfl
    | false =>
      rw [if_neg Bool.false_ne_true, unwrap_union_noneClass hnone]
      cases hhides : a.hidesOptional with
      | true => rw [asType_of_hidesOptional hhides]; rfl
      | false =>
        exact (unwrap_eq_strip (isUnion_asType a ▸ hunion) (hidesOptional_asType a ▸ hhides)).symm
  · obtain ⟨m, hm⟩ := Option.isSome_iff_exists.1 hother
    have hunion : a.isUnion = true := isUnion_of_other? hother
    obtain ⟨hunion', hm'⟩ := optionalOf_of_other? hm
    rw [hidesOptional_of_isUnion hunion, asType_of_isUnion hunion, unwrap_eq, unwrap_eq,
      strip_of_isUnion hunion, strip_of_isUnion hunion', hm, hm']
    rfl

/-! ## Stacks of layers -/

/-- What an annotation can be wrapped in. -/
inductive Layer where
  /-- It may be nothing. -/
  | optional
  /-- It comes with metadata. -/
  | metadata (markers : List Marker)

/-- The annotation with one more layer around it. -/
def Layer.around : Layer → Annotation → Annotation
  | optional, a => optionalOf a
  | metadata markers, a => annotate a markers

/-- The annotation with layers around it, the outermost first. -/
def wrap (layers : List Layer) (a : Annotation) : Annotation := layers.foldr Layer.around a

@[simp] theorem wrap_nil (a : Annotation) : wrap [] a = a := rfl

@[simp] theorem wrap_cons (layer : Layer) (layers : List Layer) (a : Annotation) :
    wrap (layer :: layers) a = layer.around (wrap layers a) := rfl

/-- The layers put a union with nothing around metadata that holds such a union already. -/
def Buries (layers : List Layer) (a : Annotation) : Prop :=
  ∃ inner, .optional :: inner <:+ layers ∧ (wrap inner a).hidesOptional = true

theorem not_buries_nil (a : Annotation) : ¬ Buries [] a := by
  rintro ⟨inner, h, -⟩
  exact List.cons_ne_nil _ _ (List.suffix_nil.1 h)

theorem buries_metadata {markers : List Marker} {layers : List Layer} :
    Buries (.metadata markers :: layers) a ↔ Buries layers a := by
  simp [Buries, List.suffix_cons_iff]

theorem buries_optional {layers : List Layer} :
    Buries (.optional :: layers) a ↔ (wrap layers a).hidesOptional = true ∨ Buries layers a := by
  simp only [Buries, List.suffix_cons_iff, List.cons.injEq, true_and, or_and_right, exists_or,
    exists_eq_left]

theorem Plain.wrap (h : a.Plain) (layers : List Layer) : (wrap layers a).Plain := by
  induction layers with
  | nil => exact h
  | cons layer layers ih =>
    cases layer with
    | optional => exact ih.optionalOf
    | metadata markers => exact plain_annotate _ _

theorem toSignature_annotate (h : ∀ s, a ≠ text s) (metadata : List Marker) :
    toSignature u (annotate a metadata) = toSignature u a := by
  rw [toSignature_eq_unwrap, unwrap_annotate, ← toSignature_eq_unwrap, toSignature_asType h]

/-- One more union with nothing leaves the signature alone unless it covers one inside metadata,
which then is all that is known. -/
theorem toSignature_optionalOf (h : a.Plain) :
    toSignature u (optionalOf a) =
      if a.hidesOptional then unresolved u a.strip else toSignature u a := by
  rw [toSignature_eq_unwrap, unwrap_optionalOf h]
  cases hhides : a.hidesOptional with
  | true =>
    obtain ⟨m, hm⟩ := Option.isSome_iff_exists.1 (isSome_other?_of_hidesOptional hhides)
    exact (signatureOf_of_other? hm).2
  | false =>
    rw [if_neg Bool.false_ne_true, if_neg Bool.false_ne_true, ← toSignature_eq_unwrap,
      toSignature_asType h.notText]

/-- Layers leave the signature alone unless they bury a union with nothing. -/
theorem toSignature_wrap (h : a.Plain) {layers : List Layer} (hlayers : ¬ Buries layers a) :
    toSignature u (wrap layers a) = toSignature u a := by
  induction layers with
  | nil => rfl
  | cons layer layers ih =>
    cases layer with
    | optional =>
      rw [buries_optional, not_or, Bool.not_eq_true] at hlayers
      rw [wrap_cons, Layer.around, toSignature_optionalOf (h.wrap layers), hlayers.1,
        if_neg Bool.false_ne_true]
      exact ih hlayers.2
    | metadata markers =>
      rw [buries_metadata] at hlayers
      rw [wrap_cons, Layer.around, toSignature_annotate (h.wrap layers).notText]
      exact ih hlayers

/-- A buried union with nothing is all that a signature knows. -/
theorem toSignature_of_buries (h : a.Plain) {layers : List Layer} (hlayers : Buries layers a) :
    ∃ b, b.other?.isSome = true ∧ toSignature u (wrap layers a) = unresolved u b := by
  induction layers with
  | nil => exact absurd hlayers (not_buries_nil a)
  | cons layer layers ih =>
    cases layer with
    | optional =>
      rw [wrap_cons, Layer.around, toSignature_optionalOf (h.wrap layers)]
      cases hhides : (wrap layers a).hidesOptional with
      | true => exact ⟨_, isSome_other?_of_hidesOptional hhides, rfl⟩
      | false =>
        rw [buries_optional, hhides] at hlayers
        exact ih (hlayers.resolve_left Bool.false_ne_true)
    | metadata markers =>
      rw [wrap_cons, Layer.around, toSignature_annotate (h.wrap layers).notText]
      exact ih (buries_metadata.1 hlayers)

/-! ## Stacks that bury a union with nothing -/

section Buried

variable {layers : List Layer}

theorem strip_annotate (a : Annotation) (metadata : List Marker) :
    (annotate a metadata).strip = a.asType.strip := by
  rw [annotate]
  split <;> simp [*]

theorem hidesOptional_annotate (a : Annotation) (metadata : List Marker) :
    (annotate a metadata).hidesOptional = a.asType.strip.other?.isSome := by
  rw [annotate]
  split <;> simp [hidesOptional, *]

/-- Something else than nothing, not wrapped in any layer that a signature looks through but
metadata. -/
structure Bare (a : Annotation) : Prop where
  notText : ∀ s, a ≠ text s
  notNone : a.asType.isNoneClass = false
  notUnion : a.isUnion = false
  notOptional : a.strip.other? = Option.none

theorem Bare.plain (h : a.Bare) : a.Plain := ⟨h.notText, .inl h.notUnion⟩

theorem Bare.isNoneClass_wrap (h : a.Bare) : (wrap layers a).asType.isNoneClass = false := by
  induction layers with
  | nil => exact h.notNone
  | cons layer layers ih =>
    cases layer with
    | metadata markers => rw [wrap_cons, Layer.around, asType_annotate, isNoneClass_annotate]
    | optional =>
      have hunion := ((h.plain.wrap layers).other?_optionalOf ih).1
      rw [wrap_cons, Layer.around, asType_of_isUnion hunion, isNoneClass_of_isUnion hunion]

theorem other?_strip_asType (a : Annotation) : a.asType.strip.other? = a.strip.other? := by
  cases a <;> rfl

/-- A union with nothing is found under the metadata as soon as there is a layer that adds it. -/
theorem Bare.isSome_other?_wrap (h : a.Bare) :
    (wrap layers a).strip.other?.isSome = true ↔ .optional ∈ layers := by
  induction layers with
  | nil => simp [h.notOptional]
  | cons layer layers ih =>
    cases layer with
    | metadata markers =>
      rw [wrap_cons, Layer.around, strip_annotate, other?_strip_asType, ih]
      simp
    | optional =>
      obtain ⟨hunion, hother⟩ := (h.plain.wrap layers).other?_optionalOf h.isNoneClass_wrap
      rw [wrap_cons, Layer.around, strip_of_isUnion hunion, hother]
      simp

/-- Metadata outside and a union with nothing somewhere inside. -/
theorem Bare.hidesOptional_wrap (h : a.Bare) : (wrap layers a).hidesOptional = true ↔
    ∃ markers inner, layers = .metadata markers :: inner ∧ .optional ∈ inner := by
  cases layers with
  | nil =>
    refine iff_of_false (fun hhides => ?_) nofun
    have hother := isSome_other?_of_hidesOptional hhides
    rw [wrap_nil, h.notOptional] at hother
    cases hother
  | cons layer layers =>
    cases layer with
    | metadata markers =>
      rw [wrap_cons, Layer.around, hidesOptional_annotate, other?_strip_asType,
        h.isSome_other?_wrap]
      simp
    | optional =>
      have hunion := ((h.plain.wrap layers).other?_optionalOf h.isNoneClass_wrap).1
      rw [wrap_cons, Layer.around, hidesOptional_of_isUnion hunion]
      exact iff_of_false Bool.false_ne_true nofun

/-- **What the layers have to hold to bury a union with nothing**: somewhere an Optional layer
inside metadata inside an Optional layer. -/
theorem Bare.buries_iff (h : a.Bare) : Buries layers a ↔
    ∃ markers, [.optional, .metadata markers, .optional].Sublist layers := by
  induction layers with
  | nil => simp [not_buries_nil]
  | cons layer layers ih =>
    cases layer with
    | metadata markers => simp [buries_metadata, ih, List.sublist_cons_iff]
    | optional =>
      rw [buries_optional, h.hidesOptional_wrap, ih]
      constructor
      · rintro (⟨markers, inner, rfl, hinner⟩ | ⟨markers, hlayers⟩)
        · exact ⟨markers, ((List.singleton_sublist.2 hinner).cons_cons _).cons_cons _⟩
        · exact ⟨markers, hlayers.cons _⟩
      · rintro ⟨markers, hlayers⟩
        have hlayers : [.metadata markers, .optional].Sublist layers := hlayers.of_cons_cons
        cases layers with
        | nil => cases hlayers
        | cons layer layers =>
          cases layer with
          | metadata markers' =>
            exact .inl ⟨markers', layers, rfl, hlayers.tail.subset (by simp)⟩
          -- the layer outside the metadata can be taken further inside
          | optional =>
            have hdiffer : Layer.metadata markers ≠ .optional := nofun
            exact .inr ⟨markers, (hlayers.of_cons_of_ne hdiffer).cons_cons _⟩

end Buried

/-! ## Layers deep inside -/

/-- The head applied to type arguments: a standard class keeps them as they are, and everything
else takes types. -/
def apply (head : TypeHead) (arguments : List Annotation) : Annotation :=
  match head with
  | .cls (.standard _) => applied head arguments
  | head => applied head (arguments.map asType)

/-- A place among the type arguments of a head, with layers around the whole. -/
structure Frame where
  layers : List Layer
  head : TypeHead
  before : List Annotation
  after : List Annotation

/-- The annotation with `a` in the place of the frame. -/
def Frame.fill (frame : Frame) (a : Annotation) : Annotation :=
  wrap frame.layers (apply frame.head (frame.before ++ a :: frame.after))

/-- The annotation with `a` inside frames, the outermost first. -/
def fill (frames : List Frame) (a : Annotation) : Annotation := frames.foldr Frame.fill a

/-- Two annotations of one signature where a type is expected and elsewhere. -/
structure Alike (u : Universe) (a b : Annotation) : Prop where
  signature : toSignature u a = toSignature u b
  asType : toSignature u a.asType = toSignature u b.asType

theorem alike_of_notText {a b : Annotation} (ha : ∀ s, a ≠ text s) (hb : ∀ s, b ≠ text s)
    (h : toSignature u a = toSignature u b) : Alike u a b :=
  ⟨h, by rw [toSignature_asType ha, toSignature_asType hb, h]⟩

theorem alike_refl (u : Universe) (a : Annotation) : Alike u a a := ⟨rfl, rfl⟩

theorem argumentSignatures_congr {as bs : List Annotation}
    (h : List.Forall₂ (fun a b => toSignature u a = toSignature u b) as bs) :
    argumentSignatures u as = argumentSignatures u bs := by
  induction h with
  | nil => rfl
  | cons hab _ ih =>
    rw [toSignature, toSignature] at hab
    rw [argumentSignatures, argumentSignatures, hab, ih]

/-- The signature of an application depends on its arguments through their signatures alone. -/
theorem signatureOf_applied_congr (head : TypeHead) {as bs : List Annotation}
    (h : List.Forall₂ (fun a b => toSignature u a = toSignature u b) as bs) (through : Bool) :
    signatureOf u through (applied head as) = signatureOf u through (applied head bs) := by
  have helement : elementSignature u as = elementSignature u bs := by
    cases h with
    | nil => rfl
    | cons hab _ => exact hab
  rw [signatureOf, signatureOf, helement, argumentSignatures_congr h]
  simp only [h.length_eq]
  rfl

theorem signatureOf_apply_congr (head : TypeHead) {as bs : List Annotation}
    (h : List.Forall₂ (Alike u) as bs) (through : Bool) :
    signatureOf u through (apply head as) = signatureOf u through (apply head bs) := by
  have hkept := signatureOf_applied_congr head (h.imp fun _ _ hab => hab.signature) through
  have htypes : List.Forall₂ (fun a b => toSignature u a = toSignature u b)
      (as.map Annotation.asType) (bs.map Annotation.asType) := by
    rw [List.forall₂_map_left_iff, List.forall₂_map_right_iff]
    exact h.imp fun _ _ hab => hab.asType
  unfold apply
  split
  · exact hkept
  · exact signatureOf_applied_congr head htypes through

/-- Two applications of one signature inside the same layers. -/
inductive Parallel (u : Universe) : Annotation → Annotation → Prop where
  | applied {head : TypeHead} {as bs : List Annotation}
      (h : ∀ through, signatureOf u through (applied head as)
        = signatureOf u through (applied head bs)) :
      Parallel u (applied head as) (applied head bs)
  | annotated {a b : Annotation} (h : Parallel u a b) (metadata : List Marker) :
      Parallel u (annotated a metadata) (annotated b metadata)
  | optional {a b : Annotation} (h : Parallel u a b) :
      Parallel u (union [a, noneClass]) (union [b, noneClass])

theorem Parallel.isNoneClass_eq_false {a b : Annotation} (h : Parallel u a b) :
    a.isNoneClass = false ∧ b.isNoneClass = false := by
  cases h <;> exact ⟨rfl, rfl⟩

theorem Parallel.signatureOf_eq {a b : Annotation} (h : Parallel u a b) (through : Bool) :
    signatureOf u through a = signatureOf u through b := by
  induction h generalizing through with
  | applied h => exact h through
  | annotated h metadata ih => rw [signatureOf, signatureOf, ih]
  | @optional a b h ih =>
    obtain ⟨ha, hb⟩ := h.isNoneClass_eq_false
    cases through with
    | true =>
      rw [(signatureOf_of_other? (other?_union_noneClass ha)).1,
        (signatureOf_of_other? (other?_union_noneClass hb)).1, ih]
    | false =>
      rw [(signatureOf_of_other? (other?_union_noneClass ha)).2,
        (signatureOf_of_other? (other?_union_noneClass hb)).2]
      simp [unresolved, displayName]

theorem optionalOf_union_noneClass (h : a.isNoneClass = false) :
    optionalOf (union [a, noneClass]) = union [a, noneClass] := by
  have hdrop : dropRepeats ([union [a, noneClass], noneClass].flatMap members)
      = [a, noneClass] := by
    rw [dropRepeats_eq]
    change [a, noneClass, noneClass].foldl keep [] = [a, noneClass]
    simp [keep, noneClass_same, h]
  have hasType : (union [a, noneClass]).asType = union [a, noneClass] := asType_of_isUnion rfl
  rw [optionalOf_eq, hasType, collapse_of_pair hdrop]

theorem Parallel.around {a b : Annotation} (h : Parallel u a b) (layer : Layer) :
    Parallel u (layer.around a) (layer.around b) := by
  cases layer with
  | metadata markers =>
    cases h with
    | applied h => exact .annotated (.applied h) markers
    | annotated h metadata => exact .annotated h (metadata ++ markers)
    | optional h => exact .annotated (.optional h) markers
  | optional =>
    cases h with
    | applied h =>
      rw [Layer.around, Layer.around, optionalOf_of_not_isUnion rfl, optionalOf_of_not_isUnion rfl]
      exact .optional (.applied h)
    | annotated h metadata =>
      rw [Layer.around, Layer.around, optionalOf_of_not_isUnion rfl, optionalOf_of_not_isUnion rfl]
      exact .optional (.annotated h metadata)
    | optional h =>
      obtain ⟨ha, hb⟩ := h.isNoneClass_eq_false
      rw [Layer.around, Layer.around, optionalOf_union_noneClass ha,
        optionalOf_union_noneClass hb]
      exact .optional h

theorem Parallel.wrap {a b : Annotation} (h : Parallel u a b) (layers : List Layer) :
    Parallel u (wrap layers a) (wrap layers b) := by
  induction layers with
  | nil => exact h
  | cons layer layers ih => exact ih.around layer

theorem exists_apply_eq (head : TypeHead) (arguments : List Annotation) :
    ∃ arguments', apply head arguments = applied head arguments' := by
  unfold apply
  split <;> exact ⟨_, rfl⟩

theorem plain_apply (head : TypeHead) (arguments : List Annotation) :
    (apply head arguments).Plain := by
  obtain ⟨arguments', h⟩ := exists_apply_eq head arguments
  rw [h]
  exact ⟨nofun, .inl rfl⟩

/-- What a frame holds shows through its signature alone. -/
theorem Alike.fillFrame {a b : Annotation} (h : Alike u a b) (frame : Frame) :
    Alike u (frame.fill a) (frame.fill b) := by
  have harguments : List.Forall₂ (Alike u) (frame.before ++ a :: frame.after)
      (frame.before ++ b :: frame.after) :=
    List.rel_append (List.forall₂_same.2 fun c _ => alike_refl u c)
      (.cons h (List.forall₂_same.2 fun c _ => alike_refl u c))
  have hparallel : Parallel u (frame.fill a) (frame.fill b) := by
    have happly := signatureOf_apply_congr frame.head harguments
    obtain ⟨as, has⟩ := exists_apply_eq frame.head (frame.before ++ a :: frame.after)
    obtain ⟨bs, hbs⟩ := exists_apply_eq frame.head (frame.before ++ b :: frame.after)
    rw [has, hbs] at happly
    rw [Frame.fill, Frame.fill, has, hbs]
    exact (Parallel.applied happly).wrap frame.layers
  exact alike_of_notText ((plain_apply _ _).wrap _).notText ((plain_apply _ _).wrap _).notText
    (hparallel.signatureOf_eq true)

theorem Alike.fill {a b : Annotation} (h : Alike u a b) (frames : List Frame) :
    Alike u (fill frames a) (fill frames b) := by
  induction frames with
  | nil => exact h
  | cons frame frames ih => exact ih.fillFrame frame

/-! ## The law -/

/-- **Layers leave no trace in a signature unless they bury a union with nothing**, neither around
the whole annotation nor around a type argument at any depth. A stack that buries one does not show
what is inside it: the signature is the unresolved one of a union with nothing. -/
theorem signature_of_layers {u : Universe} {x : Annotation} {layers : List Layer}
    (hnormal : x.Normal) (htext : ∀ s, x ≠ text s)
    (hfew : (x.unionMembers.filter (!·.isNoneClass)).length < 2) :
    (¬ Buries layers x → ∀ frames,
      toSignature u (fill frames (wrap layers x)) = toSignature u (fill frames x)) ∧
    (Buries layers x → ∃ b, b.other?.isSome = true ∧
      toSignature u (wrap layers x) = unresolved u b) := by
  have hplain : x.Plain := plain_of_normal hnormal htext hfew
  refine ⟨fun hlayers frames => ?_, toSignature_of_buries hplain⟩
  have halike : Alike u (wrap layers x) x :=
    alike_of_notText (hplain.wrap layers).notText htext (toSignature_wrap hplain hlayers)
  exact (halike.fill frames).signature

/-- A whole number. -/
def integer : Annotation := cls (.standard (.builtin "int"))

/-- Lists inside the values of a mapping, with an Optional layer around the lists. -/
def numbersByName : List Frame := [
  { layers := [], head := .cls (.standard (.builtin "dict"))
    before := [cls (.standard (.builtin "str"))], after := [] },
  { layers := [.optional], head := .cls (.standard (.builtin "list")), before := [], after := [] }]

/-- A number or nothing, with brackets and with bars. -/
def numberOrNothing : List Annotation := [union [integer, noneClass], joined [integer, noneClass]]

/-- Both are unions as they are built. -/
theorem normal_numberOrNothing : ∀ x ∈ numberOrNothing, x.Normal := by
  have hinteger : integer.Normal := normal_of_not_isUnion rfl
  have hnone : none.Normal := normal_of_not_isUnion rfl
  have hoptional : unionOf [integer, none] = union [integer, noneClass] :=
    optionalOf_of_not_isUnion rfl
  have hjoined : integer.join? none = .ok (joined [integer, noneClass]) :=
    congrArg Except.ok (collapse_of_pair (dropRepeats_pair rfl))
  have hbrackets : (unionOf [integer, none]).Normal :=
    normal_unionOf (List.cons_ne_nil _ _) (by simp [hinteger, hnone])
  rw [hoptional] at hbrackets
  exact List.forall_mem_cons.2
    ⟨hbrackets, List.forall_mem_singleton.2 (normal_of_join? hinteger hnone hjoined)⟩

/-- Layers that merge around a number, and around a union of a number with nothing, inside a list
inside a mapping, and layers that bury a union with nothing. -/
theorem signature_of_layeredInteger :
    toSignature {} (fill numbersByName
        (wrap [.metadata [.text "m"], .optional, .optional, .metadata [.location .query]] integer))
      = toSignature {} (fill numbersByName integer) ∧
    (∀ x ∈ numberOrNothing,
      toSignature {} (fill numbersByName (wrap [.metadata [.text "m"], .optional] x))
        = toSignature {} (fill numbersByName x)) ∧
    ∃ b, b.other?.isSome = true ∧
      toSignature {} (wrap [.optional, .metadata [.text "m"], .optional] integer)
        = unresolved {} b := by
  have hnormal : integer.Normal := normal_of_not_isUnion rfl
  have hbare : integer.Bare := ⟨nofun, rfl, rfl, rfl⟩
  refine ⟨?_, fun x hx => ?_, ?_⟩
  · refine (signature_of_layers hnormal nofun (by decide)).1 ?_ numbersByName
    rw [hbare.buries_iff]
    rintro ⟨markers, h⟩
    simp [List.sublist_cons_iff] at h
  · have hunion : (∀ s, x ≠ text s) ∧ (x.unionMembers.filter (!·.isNoneClass)).length < 2 ∧
        x.hidesOptional = false := by
      rcases List.mem_cons.1 hx with rfl | hx
      · exact ⟨nofun, by decide, rfl⟩
      · obtain rfl := List.mem_singleton.1 hx
        exact ⟨nofun, by decide, rfl⟩
    obtain ⟨htext, hfew, hhides⟩ := hunion
    refine (signature_of_layers (normal_numberOrNothing x hx) htext hfew).1 ?_ numbersByName
    rw [buries_metadata, buries_optional, not_or, Bool.not_eq_true]
    exact ⟨hhides, not_buries_nil x⟩
  · exact (signature_of_layers hnormal nofun (by decide)).2
      (hbare.buries_iff.2 ⟨_, List.Sublist.refl _⟩)

/-- A number that may be nothing, with metadata that may be nothing: the number is lost. -/
theorem buriedInteger_unresolved :
    integer.Normal ∧ (∀ s, integer ≠ text s) ∧
    (integer.unionMembers.filter (!·.isNoneClass)).length < 2 ∧
    toSignature {} integer = .ok (.base "int") ∧
    toSignature {} (wrap [.optional, .metadata [.text "m"], .optional] integer)
      = .ok (.unresolved "Optional") :=
  ⟨normal_of_not_isUnion rfl, nofun, by decide, rfl, by decide +kernel⟩

end Annotation

end ServiceSchema

/-
Unions of annotations and what signatures see of them.

A union is built by taking in the members of its parts and dropping those that are equal to an
earlier one. What equal annotations have in common is not touched by this, so whether nothing is
among the members, and what else is, can be said before a union is built. A signature looks
through a union of one annotation with nothing: through metadata, then one such union, then
metadata again, and through no more than that.
-/
import ServiceSchema.Annotation.Form
import ServiceSchema.Annotation.Signature

set_option autoImplicit false

namespace ServiceSchema

namespace Annotation

/-! ## Unions without repetitions -/

@[simp] theorem isNoneClass_noneClass : noneClass.isNoneClass = true := rfl

theorem same_noneClass (a : Annotation) : same a noneClass = a.isNoneClass := by
  cases a <;> simp [same, noneClass, isNoneClass]

theorem noneClass_same (a : Annotation) : same noneClass a = a.isNoneClass := by
  cases a <;> simp [same, noneClass, isNoneClass, Bool.beq_comm]

theorem isNoneClass_iff {a : Annotation} : a.isNoneClass = true ↔ a = noneClass := by
  cases a <;> simp [isNoneClass, noneClass]

/-- Equal annotations stand for nothing together. -/
theorem isNoneClass_congr {a b : Annotation} (h : same a b = true) :
    a.isNoneClass = b.isNoneClass := by
  rw [Bool.eq_iff_iff]
  constructor
  · intro ha
    rw [← noneClass_same, ← isNoneClass_iff.1 ha]
    exact h
  · intro hb
    rw [← same_noneClass, ← isNoneClass_iff.1 hb]
    exact h

/-- One more annotation, unless it is equal to one that is kept. -/
def keep (kept : List Annotation) (a : Annotation) : List Annotation :=
  if kept.any (same a) then kept else kept ++ [a]

theorem dropRepeats_eq (as : List Annotation) : dropRepeats as = as.foldl keep [] := rfl

section Repeats

variable {kept as : List Annotation} {a b : Annotation}

theorem mem_keep (h : b ∈ keep kept a) : b ∈ kept ∨ b = a := by
  rw [keep] at h
  split at h
  · exact .inl h
  · exact (List.mem_append.1 h).imp_right List.mem_singleton.1

theorem keep_ne_nil (h : kept ≠ []) : keep kept a ≠ [] := by
  rw [keep]
  split
  · exact h
  · exact List.append_ne_nil_of_left_ne_nil h _

theorem pairwise_keep (h : kept.Pairwise fun b c => same c b = false) :
    (keep kept a).Pairwise fun b c => same c b = false := by
  rw [keep]
  split
  · exact h
  · next hnew =>
    rw [Bool.not_eq_true, List.any_eq_false] at hnew
    refine List.pairwise_append.2 ⟨h, List.pairwise_singleton _ _, fun b hb c hc => ?_⟩
    obtain rfl := List.mem_singleton.1 hc
    exact Bool.not_eq_true _ ▸ hnew b hb

/-- Only what is selected itself can be equal to something that is. -/
theorem filter_keep {p : Annotation → Bool} (hp : ∀ a b, same a b = true → p a = p b)
    (kept : List Annotation) (a : Annotation) :
    (keep kept a).filter p = if p a then keep (kept.filter p) a else kept.filter p := by
  have hany (ha : p a = true) : (kept.filter p).any (same a) = kept.any (same a) := by
    rw [List.any_filter]
    congr 1
    funext b
    cases hb : same a b with
    | false => exact Bool.and_false _
    | true => rw [← hp a b hb, ha, Bool.and_self]
  rw [keep]
  cases ha : p a with
  | true =>
    rw [if_pos rfl, keep, hany ha]
    split
    · rfl
    · rw [List.filter_append, List.filter_cons_of_pos ha, List.filter_nil]
  | false =>
    rw [if_neg Bool.false_ne_true]
    split
    · rfl
    · rw [List.filter_append, List.filter_cons_of_neg (by simp [ha]), List.filter_nil,
        List.append_nil]

/-- What equal annotations have in common can be selected before or after repetitions are
dropped. -/
theorem filter_dropRepeats {p : Annotation → Bool} (hp : ∀ a b, same a b = true → p a = p b)
    (as : List Annotation) : (dropRepeats as).filter p = dropRepeats (as.filter p) := by
  suffices h : ∀ kept : List Annotation,
      (as.foldl keep kept).filter p = (as.filter p).foldl keep (kept.filter p) from h []
  induction as with
  | nil => exact fun _ => rfl
  | cons a as ih =>
    intro kept
    rw [List.foldl_cons, ih, filter_keep hp, List.filter_cons]
    split <;> rfl

/-- No annotation in what is left is equal to an earlier one. -/
theorem pairwise_dropRepeats (as : List Annotation) :
    (dropRepeats as).Pairwise fun a b => same b a = false :=
  List.foldlRecOn as keep .nil fun _ h _ _ => pairwise_keep h

theorem mem_of_mem_dropRepeats (h : a ∈ dropRepeats as) : a ∈ as := by
  have hall : ∀ b ∈ dropRepeats as, b ∈ as := by
    refine List.foldlRecOn (motive := fun kept => ∀ b ∈ kept, b ∈ as) as keep nofun ?_
    intro kept hkept c hc b hb
    rcases mem_keep hb with hb | rfl
    · exact hkept b hb
    · exact hc
  exact hall a h

/-- Whatever there is, something is left of it. -/
theorem dropRepeats_ne_nil (h : as ≠ []) : dropRepeats as ≠ [] := by
  cases as with
  | nil => exact absurd rfl h
  | cons a as =>
    exact List.foldlRecOn (motive := (· ≠ [])) as keep (List.cons_ne_nil a [])
      fun _ hkept _ _ => keep_ne_nil hkept

end Repeats

/-! ## Unions as they are built -/

/-- Whether an annotation is a union. -/
def isUnion : Annotation → Bool
  | union _ | joined _ => true
  | _ => false

/-- An annotation as it is built: a union holds at least two members, no unions among them and no
two that are equal. -/
structure Normal (a : Annotation) : Prop where
  several : a.isUnion = true → 2 ≤ a.unionMembers.length
  flat : ∀ m ∈ a.unionMembers, m.isUnion = false
  distinct : a.unionMembers.Pairwise fun m m' => same m' m = false

theorem isNoneClass_of_isUnion {a : Annotation} (h : a.isUnion = true) :
    a.isNoneClass = false := by
  cases a with
  | union _ | joined _ => rfl
  | _ => cases h

theorem unionMembers_of_not_isUnion {a : Annotation} (h : a.isUnion = false) :
    a.unionMembers = [] := by
  cases a with
  | union _ | joined _ => cases h
  | _ => rfl

theorem members_of_not_isUnion {a : Annotation} (h : a.isUnion = false) : a.members = [a] := by
  cases a with
  | union _ | joined _ => cases h
  | _ => rfl

theorem members_of_isUnion {a : Annotation} (h : a.isUnion = true) :
    a.members = a.unionMembers := by
  cases a with
  | union _ | joined _ => rfl
  | _ => cases h

theorem asType_of_isUnion {a : Annotation} (h : a.isUnion = true) : a.asType = a := by
  cases a with
  | union _ | joined _ => rfl
  | _ => cases h

theorem isUnion_asType (a : Annotation) : a.asType.isUnion = a.isUnion := by
  cases a <;> rfl

theorem normal_of_not_isUnion {a : Annotation} (h : a.isUnion = false) : a.Normal where
  several := fun h' => by rw [h] at h'; cases h'
  flat := by simp [unionMembers_of_not_isUnion h]
  distinct := by simp [unionMembers_of_not_isUnion h]

/-- Nothing is a member of a union at most once, as equal members do not occur twice. -/
theorem Normal.length_filter_isNoneClass {a : Annotation} (h : a.Normal) :
    (a.unionMembers.filter isNoneClass).length ≤ 1 := by
  have hdistinct := h.distinct.filter isNoneClass
  have hnone : ∀ m ∈ a.unionMembers.filter isNoneClass, m = noneClass :=
    fun m hm => isNoneClass_iff.1 (List.mem_filter.1 hm).2
  match a.unionMembers.filter isNoneClass, hdistinct, hnone with
  | [], _, _ | [_], _, _ => simp
  | m :: m' :: _, hdistinct, hnone =>
    have hdiffer := List.rel_of_pairwise_cons hdistinct List.mem_cons_self
    rw [hnone m List.mem_cons_self, same_noneClass,
      hnone m' (List.mem_cons_of_mem _ List.mem_cons_self)] at hdiffer
    cases hdiffer

section Collapse

variable {form : List Annotation → Annotation} {as : List Annotation}

theorem collapse_of_single {a : Annotation} (h : dropRepeats (as.flatMap members) = [a]) :
    collapse form as = a := by
  rw [collapse, h]

theorem collapse_of_several (h : ∀ a, dropRepeats (as.flatMap members) ≠ [a]) :
    collapse form as = form (dropRepeats (as.flatMap members)) := by
  rw [collapse]
  split
  · next a heq => exact absurd heq (h a)
  · rfl

theorem collapse_of_pair {a b : Annotation} (h : dropRepeats (as.flatMap members) = [a, b]) :
    collapse form as = form [a, b] := by
  rw [collapse_of_several (fun c => by simp [h]), h]

/-- Unions of what is built as it should be are built as they should be. -/
theorem normal_collapse (hform : form = union ∨ form = joined) (hne : as ≠ [])
    (has : ∀ a ∈ as, a.Normal) : (collapse form as).Normal := by
  have hflat : ∀ m ∈ dropRepeats (as.flatMap members), m.isUnion = false := by
    intro m hm
    obtain ⟨a, ha, hm⟩ := List.mem_flatMap.1 (mem_of_mem_dropRepeats hm)
    cases hunion : a.isUnion with
    | false =>
      rw [members_of_not_isUnion hunion, List.mem_singleton] at hm
      exact hm ▸ hunion
    | true =>
      rw [members_of_isUnion hunion] at hm
      exact (has a ha).flat m hm
  have hsome : dropRepeats (as.flatMap members) ≠ [] := by
    obtain ⟨a, rest, rfl⟩ := List.exists_cons_of_ne_nil hne
    refine dropRepeats_ne_nil fun h => ?_
    have hmembers : a.members = [] := (List.append_eq_nil_iff.1 h).1
    cases hunion : a.isUnion with
    | false =>
      rw [members_of_not_isUnion hunion] at hmembers
      cases hmembers
    | true =>
      have hseveral := (has a List.mem_cons_self).several hunion
      rw [← members_of_isUnion hunion, hmembers] at hseveral
      cases hseveral
  by_cases hone : ∃ a, dropRepeats (as.flatMap members) = [a]
  · obtain ⟨a, ha⟩ := hone
    rw [collapse_of_single ha]
    exact normal_of_not_isUnion (hflat a (ha ▸ List.mem_cons_self))
  · rw [not_exists] at hone
    have hmembers : (form (dropRepeats (as.flatMap members))).unionMembers
        = dropRepeats (as.flatMap members) := by
      rcases hform with rfl | rfl <;> rfl
    rw [collapse_of_several hone]
    refine ⟨fun _ => ?_, by rwa [hmembers], by rw [hmembers]; exact pairwise_dropRepeats _⟩
    rw [hmembers]
    have hpositive : 0 < (dropRepeats (as.flatMap members)).length :=
      List.length_pos_iff.2 hsome
    have hlength : (dropRepeats (as.flatMap members)).length ≠ 1 := fun h => by
      obtain ⟨a, ha⟩ := List.length_eq_one_iff.1 h
      exact hone a ha
    omega

end Collapse

theorem Normal.asType {a : Annotation} (h : a.Normal) : a.asType.Normal := by
  cases hunion : a.isUnion with
  | true => rwa [asType_of_isUnion hunion]
  | false => exact normal_of_not_isUnion (by rw [isUnion_asType, hunion])

/-- What brackets build is built as it should be. -/
theorem normal_unionOf {as : List Annotation} (hne : as ≠ []) (has : ∀ a ∈ as, a.Normal) :
    (unionOf as).Normal := by
  refine normal_collapse (.inl rfl) (by simpa using hne) fun a ha => ?_
  obtain ⟨b, hb, rfl⟩ := List.mem_map.1 ha
  exact (has b hb).asType

/-- What bars build is built as it should be. -/
theorem normal_of_join? {a b c : Annotation} (ha : a.Normal) (hb : b.Normal)
    (h : a.join? b = .ok c) : c.Normal := by
  have hbars : (collapse joined [a.asType, b.asType]).Normal :=
    normal_collapse (.inr rfl) (List.cons_ne_nil _ _) (by simp [ha.asType, hb.asType])
  have hbrackets : (unionOf [a, b]).Normal :=
    normal_unionOf (List.cons_ne_nil _ _) (by simp [ha, hb])
  unfold join? at h
  dsimp only at h
  split at h
  · split at h
    · cases h
    · exact Except.ok.inj h ▸ hbars
  · split at h
    · exact Except.ok.inj h ▸ hbrackets
    · cases h

/-! ## What signatures look at -/

variable {u : Universe} {a m : Annotation}

/-- The only annotation that a union allows besides nothing. -/
def other? (a : Annotation) : Option Annotation :=
  match a.isOptional, a.unionMembers.filter (!·.isNoneClass) with
  | true, [m] => some m
  | _, _ => Option.none

theorem other?_eq_some : a.other? = some m ↔
    a.isOptional = true ∧ a.unionMembers.filter (!·.isNoneClass) = [m] := by
  rw [other?]
  split
  · next m' hoptional hmembers => simp [hoptional, hmembers]
  · next hother =>
    refine iff_of_false nofun fun h => ?_
    exact hother m h.1 h.2

theorem isSome_other? (a : Annotation) : a.other?.isSome =
    (a.isOptional && (a.unionMembers.filter (!·.isNoneClass)).length == 1) := by
  rw [Bool.eq_iff_iff, Option.isSome_iff_exists]
  simp only [other?_eq_some, exists_and_left, Bool.and_eq_true, beq_iff_eq,
    List.length_eq_one_iff]

theorem other?_of_not_isUnion (h : a.isUnion = false) : a.other? = Option.none := by
  simp [other?, isOptional, unionMembers_of_not_isUnion h]

theorem other?_union_noneClass (h : a.isNoneClass = false) :
    (union [a, noneClass]).other? = some a :=
  other?_eq_some.2 ⟨by simp [isOptional, unionMembers], by simp [unionMembers, h]⟩

theorem isUnion_of_other? (h : a.other?.isSome = true) : a.isUnion = true := by
  cases hunion : a.isUnion with
  | true => rfl
  | false => simp [other?_of_not_isUnion hunion] at h

@[simp] theorem strip_annotated (type : Annotation) (metadata : List Marker) :
    (annotated type metadata).strip = type.strip := rfl

theorem strip_ne_annotated (a type : Annotation) (metadata : List Marker) :
    a.strip ≠ annotated type metadata := by
  fun_induction strip a with
  | case1 => assumption
  | case2 a h => exact h type metadata

theorem strip_of_isUnion (h : a.isUnion = true) : a.strip = a := by
  cases a with
  | union _ | joined _ => rfl
  | _ => cases h

theorem unwrap_eq (a : Annotation) :
    a.unwrap = match a.strip.other? with
      | some m => m.strip
      | Option.none => a.strip := by
  cases hother : a.strip.other? with
  | some m =>
    obtain ⟨hoptional, hmembers⟩ := other?_eq_some.1 hother
    rw [unwrap, hoptional, hmembers]
  | none =>
    rw [unwrap]
    split
    · next m hoptional hmembers =>
      exact absurd (other?_eq_some.2 ⟨hoptional, hmembers⟩) (by rw [hother]; nofun)
    · rfl

theorem unwrap_union_noneClass (h : a.isNoneClass = false) :
    (union [a, noneClass]).unwrap = a.strip := by
  rw [unwrap_eq, strip_of_isUnion (a := union [a, noneClass]) rfl, other?_union_noneClass h]

theorem signatureOf_strip (u : Universe) (through : Bool) (a : Annotation) :
    signatureOf u through a.strip = signatureOf u through a := by
  fun_induction strip a with
  | case1 type metadata ih => rw [ih, signatureOf]
  | case2 => rfl

theorem otherSignature_eq {members : List Annotation}
    (h : members.filter (!·.isNoneClass) = [m]) :
    otherSignature u members = signatureOf u false m := by
  induction members with
  | nil => cases h
  | cons a rest ih =>
    rw [otherSignature]
    cases ha : a.isNoneClass with
    | true => exact ih (by simpa [ha] using h)
    | false =>
      rw [List.filter_cons_of_pos (by simp [ha])] at h
      rw [(List.cons.inj h).1]
      rfl

theorem signatureOf_union (u : Universe) (through : Bool) (members : List Annotation) :
    signatureOf u through (union members) =
      if through && (union members).other?.isSome then otherSignature u members
      else unresolved u (union members) := by
  rw [signatureOf, isSome_other?, ← Bool.and_assoc]
  rfl

theorem signatureOf_joined (u : Universe) (through : Bool) (members : List Annotation) :
    signatureOf u through (joined members) =
      if through && (joined members).other?.isSome then otherSignature u members
      else unresolved u (joined members) := by
  rw [signatureOf, isSome_other?, ← Bool.and_assoc]
  rfl

/-- A union of one annotation with nothing is looked through, unless it is itself the other member
of such a union. -/
theorem signatureOf_of_other? (h : a.other? = some m) :
    signatureOf u true a = signatureOf u false m ∧ signatureOf u false a = unresolved u a := by
  have hmembers := (other?_eq_some.1 h).2
  cases a with
  | union members =>
    rw [signatureOf_union, signatureOf_union, h]
    exact ⟨otherSignature_eq hmembers, rfl⟩
  | joined members =>
    rw [signatureOf_joined, signatureOf_joined, h]
    exact ⟨otherSignature_eq hmembers, rfl⟩
  | _ => cases h

theorem signatureOf_of_other?_none (h : a.strip.other? = Option.none) :
    signatureOf u true a = signatureOf u false a := by
  rw [← signatureOf_strip u true, ← signatureOf_strip u false]
  have hmetadata := strip_ne_annotated a
  generalize a.strip = b at h hmetadata
  cases b with
  | annotated type metadata => exact absurd rfl (hmetadata type metadata)
  | union members => rw [signatureOf_union, signatureOf_union, h]; rfl
  | joined members => rw [signatureOf_joined, signatureOf_joined, h]; rfl
  | _ => rw [signatureOf, signatureOf] <;> simp

/-- **Signatures are those of what is left when an annotation is unwrapped**, and look through
nothing more. -/
theorem toSignature_eq_unwrap (u : Universe) (a : Annotation) :
    toSignature u a = signatureOf u false a.unwrap := by
  rw [toSignature, unwrap_eq]
  cases hother : a.strip.other? with
  | some m =>
    rw [signatureOf_strip, ← signatureOf_strip u true, (signatureOf_of_other? hother).1]
  | none => rw [signatureOf_strip, signatureOf_of_other?_none hother]

end Annotation

end ServiceSchema

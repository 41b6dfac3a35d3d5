/-
What a marker says on a type that may be nothing.

A type that may be nothing can carry a marker in two places: outside, on the whole, or inside,
on the type alone. The signature is the same either way, and so is what makes a parameter
optional. The marker itself is read in the outermost metadata only, so one inside says nothing
about where a parameter travels or what a field means.
-/
import ServiceSchema.Proofs.Layers
import ServiceSchema.Proofs.MethodDocuments

set_option autoImplicit false

namespace ServiceSchema

open Log.Traced

/-! ## Two places for a marker -/

/-- The place that a marker gives a parameter. -/
def Marker.place (m : Marker) : Location := m.location?.getD .unspecified

/-- What a marker says about the meaning of a field. -/
def Marker.meaning : Marker → String
  | param _ description => description
  | _ => ""

namespace Annotation

variable {u : Universe} {x : Annotation} {m : Marker}

/-- Something that may be nothing, with a marker on the whole. -/
def markedOutside (x : Annotation) (m : Marker) : Annotation := annotate (optionalOf x) [m]

/-- Something with a marker, which may be nothing. -/
def markedInside (x : Annotation) (m : Marker) : Annotation := optionalOf (annotate x [m])

theorem markedOutside_eq (h : x.isUnion = false) :
    x.markedOutside m = annotated (optionalOf x) [m] := by
  rw [markedOutside, optionalOf_of_not_isUnion h]
  split <;> rfl

theorem markedInside_eq (x : Annotation) (m : Marker) :
    x.markedInside m = union [annotate x [m], noneClass] := by
  rw [markedInside, optionalOf_of_not_isUnion (isUnion_annotate x [m]), asType_annotate,
    isNoneClass_annotate]
  rfl

/-- Unwrapping takes off the marker wherever it is. -/
theorem unwrap_markedInside (h : x.isUnion = false) :
    (x.markedInside m).unwrap = (optionalOf x).unwrap := by
  have hinside : (x.markedInside m).unwrap = x.asType.strip := by
    rw [markedInside_eq, unwrap_union_noneClass (isNoneClass_annotate x [m]), strip_annotate]
  rw [hinside, optionalOf_of_not_isUnion h]
  split
  · next hnone => rw [isNoneClass_iff.1 hnone]; rfl
  · next hnone =>
    rw [Bool.not_eq_true] at hnone
    rw [unwrap_union_noneClass hnone]

theorem unwrap_markedOutside (h : x.isUnion = false) :
    (x.markedOutside m).unwrap = (optionalOf x).unwrap := by
  rw [markedOutside_eq h, unwrap_eq, unwrap_eq, strip_annotated]

/-- Either way the signature is that of the type without the marker. -/
theorem toSignature_marked (h : x.isUnion = false) :
    toSignature u (x.markedOutside m) = toSignature u (optionalOf x) ∧
      toSignature u (x.markedInside m) = toSignature u (optionalOf x) := by
  rw [toSignature_eq_unwrap, toSignature_eq_unwrap, toSignature_eq_unwrap,
    unwrap_markedOutside h, unwrap_markedInside h]
  exact ⟨rfl, rfl⟩

/-- Either way nothing is allowed for, under the metadata. -/
theorem isOptional_marked (h : x.isUnion = false) (hnone : x.asType.isNoneClass = false) :
    (x.markedOutside m).strip.isOptional = true ∧ (x.markedInside m).strip.isOptional = true := by
  rw [markedOutside_eq h, optionalOf_of_not_isUnion h, hnone, markedInside_eq]
  simp [strip, isOptional, unionMembers]

theorem marker_markedOutside (h : x.isUnion = false) :
    (x.markedOutside m).marker = (m.place, m.meaning) := by
  rw [markedOutside_eq h]
  cases m <;> rfl

theorem marker_markedInside (x : Annotation) (m : Marker) :
    (x.markedInside m).marker = (.unspecified, "") := by
  rw [markedInside_eq]
  rfl

theorem description_markedOutside (h : x.isUnion = false) :
    (x.markedOutside m).description = m.meaning := by
  rw [markedOutside_eq h]
  cases m with
  | text s => rfl
  | location l => rfl
  | param l s =>
    by_cases hs : s = "" <;> simp [description, Marker.meaning, hs]

theorem description_markedInside (x : Annotation) (m : Marker) :
    (x.markedInside m).description = "" := by
  rw [markedInside_eq]
  rfl

/-! ## Evaluation of marked types -/

theorem annotate_annotate (a : Annotation) (ms ns : List Marker) :
    annotate (annotate a ms) ns = annotate a (ms ++ ns) := by
  cases a with
  | annotated type ls => exact congrArg (annotated type) (List.append_assoc ls ms ns)
  | _ => rfl

theorem exists_annotate (a : Annotation) (ms : List Marker) :
    ∃ type ns, annotate a ms = annotated type ns := by
  rw [annotate]
  split
  · exact ⟨_, _, rfl⟩
  · exact ⟨_, _, rfl⟩

theorem annotateAgain_eq_ok {a b : Annotation} {ms : List Marker} :
    annotateAgain a ms = .ok b ↔
      (∀ v, a ≠ value v) ∧ a ≠ ellipsis ∧ annotate a ms = b := by
  cases a <;> simp [annotateAgain]

section Evaluation

variable {read : Bool → String → Option String → Except AnnotationFault Annotation}
  {w : Annotation}

/-- Only for a reference it matters whether it may be said how a name is used. -/
theorem replaceWith_of_read {allowed allowed' : Bool}
    (hread : ∀ s tied, read allowed s tied = .ok x → read allowed' s tied = .ok x)
    (h : replaceWith read allowed w = .ok x) : replaceWith read allowed' w = .ok x := by
  cases w with
  | forward s module => exact hread s module h
  | text s => exact hread s _ h
  | _ => simpa only [replaceWith] using h

/-- The arguments of a union are replaced where it may not be said how a name is used, wherever the
union itself stands. -/
theorem replaceWith_optionalOf (hw : w.isUnion = false)
    (h : replaceWith read false w.asType = .ok x) (allowed : Bool) :
    replaceWith read allowed (optionalOf w) = .ok (optionalOf x) := by
  rw [optionalOf_of_not_isUnion hw]
  split
  · next hnone =>
    rw [isNoneClass_iff.1 hnone] at h
    obtain rfl : noneClass = x := Except.ok.inj h
    rw [optionalOf_of_not_isUnion (a := noneClass) rfl]
    rfl
  · rw [replaceWith, replaceAllWith, h]
    rfl

theorem replaceWith_annotate (h : replaceWith read true w.asType = .ok x)
    (hvalue : ∀ v, x ≠ value v) (hdots : x ≠ ellipsis) (ms : List Marker) (allowed : Bool) :
    replaceWith read allowed (annotate w ms) = .ok (annotate x ms) := by
  rw [annotate]
  split
  · next inner ns hinner =>
    rw [hinner, replaceWith, Except.bind_eq_ok] at h
    obtain ⟨a, ha, hx⟩ := h
    obtain ⟨havalue, hadots, rfl⟩ := annotateAgain_eq_ok.1 hx
    rw [replaceWith, ha]
    exact annotateAgain_eq_ok.2 ⟨havalue, hadots, (annotate_annotate a ns ms).symm⟩
  · rw [replaceWith, h]
    exact annotateAgain_eq_ok.2 ⟨hvalue, hdots, rfl⟩

end Evaluation

/-! ### Where it may be said how a name is used -/

theorem asOperand_eq_ok {allowed : Bool} {a : Annotation} (h : a.asOperand u allowed = .ok x) :
    x = a := by
  unfold asOperand at h
  split at h
  all_goals first | (split at h <;> cases h <;> rfl) | (cases h; rfl)

theorem asOperand_true {a : Annotation} (h : a.asOperand u false = .ok x) :
    a.asOperand u true = .ok x := by
  cases a with
  | form f => cases f <;> first | exact h | cases h
  | applied head arguments =>
    cases head with
    | form f => cases f <;> first | exact h | cases h
    | _ => exact h
  | _ => exact h

theorem asOperand_false {a : Annotation} (ha : a.isQualifier = false)
    (h : a.asOperand u true = .ok x) : a.asOperand u false = .ok x := by
  cases a with
  | form f => cases f <;> first | exact h | cases ha
  | applied head arguments =>
    cases head with
    | form f => cases f <;> first | exact h | cases ha
    | _ => exact h
  | _ => exact h

/-- What says how a name may be used still does when its arguments are replaced. -/
theorem isQualifier_of_replaceWith
    {read : Bool → String → Option String → Except AnnotationFault Annotation} {allowed : Bool}
    {a : Annotation} (ha : a.isQualifier = true) (h : replaceWith read allowed a.asType = .ok x) :
    x.isQualifier = true := by
  cases a with
  | form f =>
    obtain rfl := Except.ok.inj h
    exact ha
  | applied head arguments =>
    cases head with
    | form f =>
      simp only [asType, replaceWith, Except.bind_eq_ok] at h
      obtain ⟨-, -, replaced, -, rfl⟩ := h
      exact ha
    | _ => cases ha
  | _ => cases ha

section References

variable {place : Place} {fuel : Nat} {seen : List String} {around tied : Option String} {s : String}

/-- A reference stays if it is being read already. Else what it denotes has to be a type, in which
the references are read in turn. -/
theorem evaluateReference_eq_ok {allowed : Bool} :
    evaluateReference u place (fuel + 1) seen around allowed s tied = .ok x ↔
      s ∈ seen ∧ x = forward s tied ∨
      s ∉ seen ∧ ∃ e type, Expression.ofText? s = .ok e ∧
        e.evaluate u (u.scope place (tied <|> around)) = .ok type ∧
        type.asOperand u allowed = .ok type ∧
        replaceWith (evaluateReference u place fuel (s :: seen) (tied <|> around)) allowed
          type.asType = .ok x := by
  rw [evaluateReference]
  by_cases hseen : s ∈ seen
  · simp [hseen, eq_comm]
  · simp only [List.contains_eq_mem, hseen, decide_false, Bool.false_eq_true, if_false,
      Except.bind_eq_ok, false_and, false_or, not_false_eq_true, true_and]
    constructor
    · rintro ⟨e, he, a, ha, type, htype, h⟩
      obtain rfl := asOperand_eq_ok htype
      exact ⟨e, type, he, ha, htype, h⟩
    · rintro ⟨e, type, he, ha, htype, h⟩
      exact ⟨e, he, type, ha, type, htype, h⟩

/-- The induction is on the references that lead from one to the next. -/
theorem evaluateReference_true
    (h : evaluateReference u place fuel seen around false s tied = .ok x) :
    evaluateReference u place fuel seen around true s tied = .ok x := by
  induction fuel generalizing seen around s tied with
  | zero => exact h
  | succ fuel ih =>
    rw [evaluateReference_eq_ok] at h ⊢
    refine h.imp_right ?_
    rintro ⟨hnew, e, type, he, hdenotes, htype, h⟩
    exact ⟨hnew, e, type, he, hdenotes, asOperand_true htype, replaceWith_of_read (fun _ _ => ih) h⟩

/-- A reference that does not say how a name is used may stand where that is not allowed. -/
theorem evaluateReference_false (hx : x.isQualifier = false)
    (h : evaluateReference u place fuel seen around true s tied = .ok x) :
    evaluateReference u place fuel seen around false s tied = .ok x := by
  induction fuel generalizing seen around s tied with
  | zero => exact h
  | succ fuel ih =>
    rw [evaluateReference_eq_ok] at h ⊢
    refine h.imp_right ?_
    rintro ⟨hnew, e, type, he, hdenotes, htype, h⟩
    have hqualifier : type.isQualifier = false := by
      rw [← Bool.not_eq_true]
      intro htrue
      rw [isQualifier_of_replaceWith htrue h] at hx
      cases hx
    exact ⟨hnew, e, type, he, hdenotes, asOperand_false hqualifier htype,
      replaceWith_of_read (fun _ _ => ih) h⟩

/-- An annotation of a class that does not say how its name is used means the same where a type is
expected. -/
theorem evaluate_of_evaluateHint {w : Annotation} (hx : x.isQualifier = false)
    (h : w.evaluateHint u place = .ok x) : w.evaluate u place = .ok x := by
  cases w with
  | text s => exact evaluateReference_false hx h
  | _ => exact h

theorem evaluateHint_of_evaluate {w : Annotation} (h : w.evaluate u place = .ok x) :
    w.evaluateHint u place = .ok x := by
  cases w with
  | text s => exact evaluateReference_true h
  | _ => exact h

/-- Inside metadata an annotation means what it means in the body of a class. -/
theorem replaceWith_of_evaluateHint {w : Annotation} (h : w.evaluateHint u place = .ok x) :
    replaceWith (readReference u place) true w.asType = .ok x := by
  cases w with
  | text s => exact h
  | _ => exact replaceWith_of_read (fun _ _ => evaluateReference_true) h

end References

/-! ### Marked types -/

theorem asType_optionalOf (h : x.isUnion = false) : (optionalOf x).asType = optionalOf x := by
  rw [optionalOf_of_not_isUnion h]
  split <;> rfl

/-- Evaluation leaves a marker outside where it is. -/
theorem evaluate_markedOutside {w : Annotation} {place : Place} (hw : w.isUnion = false)
    (hx : x.isUnion = false) (h : w.evaluate u place = .ok x) :
    (w.markedOutside m).evaluate u place = .ok (x.markedOutside m) := by
  have hoptional := replaceWith_optionalOf hw h true
  rw [← asType_optionalOf hw] at hoptional
  rw [evaluate, markedOutside, asType_annotate]
  refine replaceWith_annotate hoptional ?_ ?_ [m] false
  all_goals
    rw [optionalOf_of_not_isUnion hx]
    split <;> nofun

/-- Evaluation leaves a marker inside where it is, on anything that can carry one. -/
theorem evaluate_markedInside_of_evaluateHint {w : Annotation} {place : Place}
    (hvalue : ∀ v, x ≠ value v) (hdots : x ≠ ellipsis) (h : w.evaluateHint u place = .ok x) :
    (w.markedInside m).evaluate u place = .ok (x.markedInside m) := by
  have hannotate := replaceWith_annotate (replaceWith_of_evaluateHint h) hvalue hdots [m] false
  rw [← asType_annotate] at hannotate
  have hunion := isUnion_annotate w [m]
  rw [evaluate, markedInside, asType_optionalOf hunion]
  exact replaceWith_optionalOf hunion hannotate false

theorem evaluate_markedInside {w : Annotation} {place : Place}
    (hvalue : ∀ v, x ≠ value v) (hdots : x ≠ ellipsis) (h : w.evaluate u place = .ok x) :
    (w.markedInside m).evaluate u place = .ok (x.markedInside m) :=
  evaluate_markedInside_of_evaluateHint hvalue hdots (evaluateHint_of_evaluate h)

/-- A marked type is no text, so it means the same in the body of a class. -/
theorem evaluateHint_markedOutside (w : Annotation) (m : Marker) (place : Place) :
    (w.markedOutside m).evaluateHint u place = (w.markedOutside m).evaluate u place := by
  obtain ⟨type, ms, hmarked⟩ := exists_annotate (optionalOf w) [m]
  rw [markedOutside, hmarked]
  rfl

theorem evaluateHint_markedInside (w : Annotation) (m : Marker) (place : Place) :
    (w.markedInside m).evaluateHint u place = (w.markedInside m).evaluate u place := by
  rw [markedInside, optionalOf_of_not_isUnion (isUnion_annotate w [m])]
  split <;> rfl

end Annotation

/-! ## What fields say -/

open Annotation (toSignature_marked isOptional_marked allowsNone_iff integer)

/-- The field of a type that may be nothing: whether it has to be given is left open. -/
structure Field.OfOptional (u : Universe) (x : Annotation) (name : String) (place : Location)
    (meaning : String) (f : Field) : Prop where
  name : f.name = name
  type : x.optionalOf.toSignature u = .ok f.type
  location : f.location = place
  description : f.description = meaning

/-- The field of a hint that is a marked type which may be nothing. A marker outside gives the
field its place, and its meaning unless there is another description; a marker inside gives it
neither. The field can be left out in a lenient context. -/
structure Field.OfMarked (u : Universe) (x : Annotation) (m : Marker) (hint : Annotation)
    (name : String) (place : Location) (own : String) (lenient : Prop) (f : Field) : Prop where
  outside : hint = x.markedOutside m →
    f.OfOptional u x name place (if own = "" then m.meaning else own)
  inside : hint = x.markedInside m → f.OfOptional u x name .unspecified own
  requirement : hint = x.markedOutside m ∨ hint = x.markedInside m → lenient →
    f.requirement = .optional

variable {u : Universe} {x : Annotation} {m : Marker}

/-! ### Parameters -/

namespace Parameter

variable {hints : Table Annotation} {p : Parameter}

theorem Kept.ofMarked {f : Field} (h : p.Kept u hints f) (hx : x.isUnion = false) :
    f.OfMarked u x m (p.hint hints) p.name m.place "" (x.asType ≠ .noneClass) where
  outside hhint := by
    have htype := h.type
    have hlocation := h.location
    have hdescription := h.description
    rw [hhint, (toSignature_marked hx).1] at htype
    rw [hhint, Annotation.marker_markedOutside hx] at hlocation hdescription
    exact ⟨h.name, htype, hlocation, hdescription⟩
  inside hhint := by
    have htype := h.type
    have hlocation := h.location
    have hdescription := h.description
    rw [hhint, (toSignature_marked hx).2] at htype
    rw [hhint, Annotation.marker_markedInside] at hlocation hdescription
    exact ⟨h.name, htype, hlocation, hdescription⟩
  requirement hhint hsome := by
    have hnone : x.asType.isNoneClass = false := by
      rwa [← Bool.not_eq_true, Annotation.isNoneClass_iff]
    have hoptional : (p.hint hints).strip.isOptional = true := by
      rcases hhint with hhint | hhint <;> rw [hhint]
      · exact (isOptional_marked hx hnone).1
      · exact (isOptional_marked hx hnone).2
    have hrequired : ¬ f.isRequired = true := fun hrequired =>
      (h.required.1 hrequired).2 (allowsNone_iff.2 hoptional)
    rw [Field.isRequired] at hrequired
    cases hrequirement : f.requirement with
    | optional => rfl
    | required => exact absurd (by rw [hrequirement]; rfl) hrequired

end Parameter

/-! ### Fields of classes -/

namespace ClassField

/-- A field that was read off a hint, with a description of its own or the one that comes with the
hint. -/
structure Read (hint : Annotation) (name own : String) (lenient : Prop) (c : ClassField) :
    Prop where
  name : c.name = name
  type : c.type = hint
  description : c.description = if own = "" then hint.description else own
  requirement : lenient → c.isRequired = false

variable {c : ClassField} {f : Field} {hint : Annotation} {name own : String} {lenient : Prop}

theorem Read.ofMarked (h : Read hint name own lenient c) (hf : c.toField u = .ok f)
    (hx : x.isUnion = false) : f.OfMarked u x m hint name .unspecified own lenient := by
  obtain ⟨-, type, htype, rfl⟩ := toField_eq_ok.1 hf
  rw [h.type] at htype
  refine ⟨fun hhint => ?_, fun hhint => ?_, fun _ hlenient => ?_⟩
  · rw [hhint, (toSignature_marked hx).1] at htype
    refine ⟨h.name, htype, rfl, ?_⟩
    rw [h.description, hhint, Annotation.description_markedOutside hx]
  · rw [hhint, (toSignature_marked hx).2] at htype
    refine ⟨h.name, htype, rfl, ?_⟩
    rw [h.description, hhint, Annotation.description_markedInside]
    split
    · next hown => exact hown.symm
    · rfl
  · rw [h.requirement hlenient]
    rfl

end ClassField

namespace Universe

/-! ### Dataclasses and plain classes -/

/-- Whether a collected field of a dataclass is described. -/
def DataField.isDescribed (f : DataField) : Bool :=
  !(f.declaration.type.isClassVariable || isPrivate f.declaration.name)

/-- What the annotation of a collected field means. -/
def DataField.hint (hints : Table Annotation) (f : DataField) : Annotation :=
  (hints.get? f.declaration.name).getD f.declaration.type

/-- The description that a collected field is declared with. -/
def DataField.own (f : DataField) : String := f.declaration.description.getD ""

/-- The described fields of a dataclass are read off their hints. -/
theorem read_dataClassFields (hints : Table Annotation) (fs : List DataField) :
    List.Forall₂ (fun f c => c.Read (f.hint hints) f.declaration.name f.own (f.hasDefault = true))
      (fs.filter (·.isDescribed)) (fs.filterMap (dataClassField? hints)) := by
  induction fs with
  | nil => exact .nil
  | cons f fs ih =>
    rw [List.filter_cons, List.filterMap_cons, DataField.isDescribed, dataClassField?]
    cases f.declaration.type.isClassVariable || isPrivate f.declaration.name with
    | true => exact ih
    | false =>
      refine .cons ⟨rfl, rfl, ?_, fun hdefault => ?_⟩ ih
      · dsimp only [DataField.own, DataField.hint]
        split <;> simp_all
      · simp [hdefault]

/-- Whether an attribute of a class is described as a field. -/
def isField (entry : String × Annotation) : Bool :=
  !isPrivate entry.1 && !entry.2.isTypedClassVariable

/-- The annotated attributes of a class that is no typed mapping are read off their hints. -/
theorem read_annotatedFields {id : ClassId} (hints : Table Annotation)
    (hneeded : (lookUp u.neededTables id).join = none) :
    List.Forall₂ (fun entry c => c.Read entry.2 entry.1 "" (u.hasAttribute id entry.1 = true))
      (hints.entries.filter isField) (u.annotatedFields id hints) := by
  rw [annotatedFields, hneeded, List.forall₂_map_right_iff]
  refine List.forall₂_same.2 fun entry _ => ⟨rfl, rfl, rfl, fun hdefault => ?_⟩
  simp [hdefault]

section ReadInOrder

variable {α : Type} (read : (ClassId → Option α) → Nat → ClassDeclaration → α)

/-- One more reading, with those before it at hand. -/
def readNext (known : List α) (c : ClassDeclaration) : List α :=
  known ++ [read (lookUp known) known.length c]

theorem length_readNext (known : List α) (c : ClassDeclaration) :
    (readNext read known c).length = known.length + 1 :=
  List.length_append

/-- What was read stays as it is. -/
theorem getElem?_foldl_readNext_of_lt (cs : List ClassDeclaration) {known : List α} {i : Nat}
    (hi : i < known.length) : (cs.foldl (readNext read) known)[i]? = known[i]? := by
  induction cs generalizing known with
  | nil => rfl
  | cons c cs ih =>
    rw [List.foldl_cons, ih (by rw [length_readNext]; omega)]
    exact List.getElem?_append_left hi

theorem getElem?_foldl_readNext (cs : List ClassDeclaration) (known : List α) (i : Nat) :
    ∃ earlier, (cs.foldl (readNext read) known)[known.length + i]? =
      cs[i]?.map (read earlier (known.length + i)) := by
  induction cs generalizing known i with
  | nil => exact ⟨lookUp known, by simp⟩
  | cons c cs ih =>
    rw [List.foldl_cons]
    cases i with
    | zero =>
      refine ⟨lookUp known, ?_⟩
      rw [getElem?_foldl_readNext_of_lt read cs (by rw [length_readNext]; omega)]
      simp [readNext]
    | succ i =>
      obtain ⟨earlier, h⟩ := ih (readNext read known c) i
      rw [length_readNext, Nat.add_assoc, Nat.add_comm 1 i] at h
      exact ⟨earlier, h⟩

/-- What is read off a class depends on its own declaration and on the classes before it. -/
theorem getElem?_readInOrder (u : Universe) (index : Nat) : ∃ earlier,
    (u.readInOrder read)[index]? = u.classes[index]?.map (read earlier index) := by
  obtain ⟨earlier, h⟩ := getElem?_foldl_readNext read u.classes [] index
  rw [List.length_nil, Nat.zero_add] at h
  exact ⟨earlier, h⟩

end ReadInOrder

/-- Only a typed mapping has a list of the entries that it needs. -/
theorem needed_eq_none {id : ClassId}
    (h : ∀ c total, u.declaration? id = some c → c.kind ≠ .typedDict total) :
    (lookUp u.neededTables id).join = none := by
  cases id with
  | standard c => rfl
  | declared index =>
    rw [lookUp, neededTables]
    obtain ⟨earlier, hread⟩ := getElem?_readInOrder _ u index
    rw [hread]
    cases hc : u.classes[index]? with
    | none => rfl
    | some c =>
      rw [Option.map_some]
      split
      · next total hkind => exact absurd hkind (h c total hc)
      · rfl

end Universe

/-! ## Either place on every path -/

/-- What is made of the two ways to mark a type that may be nothing. -/
structure MarkerReadings (u : Universe) (x : Annotation) (m : Marker) : Prop where
  /-- Parameters of the methods that a class lists. Either way they can be left out, unless it is
  nothing itself that is marked. -/
  parameters : ∀ {id : ClassId} {name : Option String} {s : Service},
    (u.service (.cls id) name).outcome = .ok s → ∀ method ∈ s.methods,
      ∃ key ∈ u.declaredFunctions id, (u.attributeMethod id s.name key).outcome = .ok method ∧
        ∃ f signature hints, u.Calls id key f signature ∧
          (u.functionHints f).outcome = .ok hints ∧
          List.Forall₂ (fun p field => field.OfMarked u x m (p.hint hints) p.name m.place ""
              (x.asType ≠ .noneClass))
            (signature.filter (·.isDescribed)) method.parameters
  /-- Fields of a dataclass. Either way they can be left out if they have a default. -/
  dataFields : ∀ {id : ClassId} {table : Table Universe.DataField} {fields : List Field},
    u.isModel id = false → u.dataTable? id = some table → (u.fields id).outcome = .ok fields →
      ∃ hints, (u.hints id).outcome = .ok hints ∧
        List.Forall₂ (fun f field => field.OfMarked u x m (f.hint hints) f.declaration.name
            .unspecified f.own (f.hasDefault = true))
          (table.values.filter (·.isDescribed)) fields
  /-- Annotated attributes of a class that is neither a model nor a dataclass nor a typed mapping.
  Either way they can be left out if the class has an attribute of that name. -/
  attributes : ∀ {id : ClassId} {fields : List Field},
    u.isModel id = false → u.dataTable? id = none →
    (∀ c total, u.declaration? id = some c → c.kind ≠ .typedDict total) →
    (u.fields id).outcome = .ok fields →
      ∃ hints, (u.hints id).outcome = .ok hints ∧
        List.Forall₂ (fun entry field => field.OfMarked u x m entry.2 entry.1 .unspecified ""
            (u.hasAttribute id entry.1 = true))
          (hints.entries.filter Universe.isField) fields
  /-- A parameter is described under one condition, wherever the marker is. -/
  builtParameter : ∀ {hints : Table Annotation} {p : Parameter},
    p.hint hints = x.markedOutside m ∨ p.hint hints = x.markedInside m →
      ((∃ field, p.toField u hints = .ok field) ↔
        p.name ≠ "" ∧ ∃ type, x.optionalOf.toSignature u = .ok type)
  /-- A field of a class is described under the same condition. -/
  builtField : ∀ {c : ClassField}, c.type = x.markedOutside m ∨ c.type = x.markedInside m →
    ((∃ field, c.toField u = .ok field) ↔
      c.name ≠ "" ∧ ∃ type, x.optionalOf.toSignature u = .ok type)
  /-- Hints that are written around a reference keep their marker when it is evaluated. -/
  evaluatedOutside : ∀ {w : Annotation} {place : Place}, w.isUnion = false →
    w.evaluate u place = .ok x →
      (w.markedOutside m).evaluate u place = .ok (x.markedOutside m)
  /-- Inside, this takes something that can carry metadata. -/
  evaluatedInside : ∀ {w : Annotation} {place : Place},
    (∀ v, x ≠ .value v) → x ≠ .ellipsis → w.evaluate u place = .ok x →
      (w.markedInside m).evaluate u place = .ok (x.markedInside m)
  /-- The same holds in the body of a class, unless the reference says how a name is used. -/
  hintOutside : ∀ {w : Annotation} {place : Place}, w.isUnion = false → x.isQualifier = false →
    w.evaluateHint u place = .ok x →
      (w.markedOutside m).evaluateHint u place = .ok (x.markedOutside m)
  hintInside : ∀ {w : Annotation} {place : Place},
    (∀ v, x ≠ .value v) → x ≠ .ellipsis → w.evaluateHint u place = .ok x →
      (w.markedInside m).evaluateHint u place = .ok (x.markedInside m)

/-- **A type that may be nothing has one signature wherever it is marked**, and can be left out
either way as a parameter or with a default. Only a marker outside says where a parameter travels
and what a field means. -/
theorem markers_of_optionals (hx : x.isUnion = false) : MarkerReadings u x m where
  parameters := by
    intro id name s hservice method hmethod
    obtain ⟨key, hkey, hattribute⟩ := Universe.exists_attribute_of_service hservice method hmethod
    obtain ⟨f, signature, hints, hcalls, hhints, hdescribes⟩ :=
      Universe.describes_attributeMethod hattribute
    exact ⟨key, hkey, hattribute, f, signature, hints, hcalls, hhints,
      hdescribes.parameters.imp fun p field hkept => hkept.ofMarked hx⟩
  dataFields := by
    intro id table fields hmodel htable hfields
    obtain ⟨cs, hcs, hfields⟩ := Universe.fields_eq_ok hfields
    rw [Universe.classFields, hmodel, if_neg Bool.false_ne_true, htable] at hcs
    obtain ⟨hints, hhints, hcs⟩ := bind_eq_ok.1 hcs
    obtain rfl := Except.ok.inj hcs
    exact ⟨hints, hhints, forall₂_trans (Universe.read_dataClassFields hints table.values) hfields
      fun f c field hread hfield => hread.ofMarked hfield hx⟩
  attributes := by
    intro id fields hmodel htable hkind hfields
    obtain ⟨cs, hcs, hfields⟩ := Universe.fields_eq_ok hfields
    rw [Universe.classFields, hmodel, if_neg Bool.false_ne_true, htable] at hcs
    obtain ⟨hints, hhints, hcs⟩ := bind_eq_ok.1 hcs
    obtain rfl := Except.ok.inj hcs
    exact ⟨hints, hhints, forall₂_trans
      (Universe.read_annotatedFields hints (Universe.needed_eq_none hkind)) hfields
      fun entry c field hread hfield => hread.ofMarked hfield hx⟩
  builtParameter := by
    intro hints p hhint
    simp only [Parameter.toField_eq_ok, exists_and_left]
    rcases hhint with hhint | hhint <;> simp [hhint, toSignature_marked hx]
  builtField := by
    intro c htype
    simp only [ClassField.toField_eq_ok, exists_and_left]
    rcases htype with htype | htype <;> simp [htype, toSignature_marked hx]
  evaluatedOutside := fun hw h => Annotation.evaluate_markedOutside hw hx h
  evaluatedInside := fun hvalue hdots h => Annotation.evaluate_markedInside hvalue hdots h
  hintOutside := fun hw hqualifier h => by
    have hplain := Annotation.evaluate_of_evaluateHint hqualifier h
    rw [ Annotation.evaluateHint_markedOutside]
    exact Annotation.evaluate_markedOutside hw hx hplain
  hintInside := fun hvalue hdots h => by
    rw [ Annotation.evaluateHint_markedInside]
    exact Annotation.evaluate_markedInside_of_evaluateHint hvalue hdots h

/-! ## A search

A function, a dataclass and a plain class with the same two hints: a number that may be nothing,
marked outside and inside. -/

/-- A marker for the number of a page. -/
def pageNumber : Marker := .param .query "Page number"

/-- Two fields that start with the first page, marked outside and inside. -/
def pageFields : List FieldDeclaration := [
  { name := "page", type := integer.markedOutside pageNumber, default := some (.int 1) },
  { name := "limit", type := integer.markedInside pageNumber, default := some (.int 1) }]

/-- The classes of the search. -/
def searchClasses : Universe where
  classes := [
    { name := "Search", module := "m", qualname := "Search"
      members := [("find", .function
        { name := "find"
          parameters := [
            { name := "self" },
            { name := "page", type := some (integer.markedOutside pageNumber) },
            { name := "limit", type := some (integer.markedInside pageNumber) }] })] },
    { name := "Query", module := "m", qualname := "Query", kind := .dataclass
      fields := pageFields },
    { name := "Cursor", module := "m", qualname := "Cursor", fields := pageFields }]

/-- The service of the search. -/
def searchService : Service where
  name := "Search"
  methods := [
    { service := "Search", name := "find", returnType := some (.base "void")
      parameters := [
        { name := "page", type := .base "int", requirement := .optional, location := .query
          description := "Page number" },
        { name := "limit", type := .base "int", requirement := .optional }]
      endpoints := [{ path := "/Search/find" }] }]

theorem searchClasses_service :
    (searchClasses.service (.cls (.declared 0)) none).outcome = .ok searchService := by
  decide +kernel

/-- The fields of either class of the search: the marker outside describes its field. -/
theorem searchClasses_fields :
    let fields : List Field := [
      { name := "page", type := .base "int", requirement := .optional
        description := "Page number" },
      { name := "limit", type := .base "int", requirement := .optional }]
    (searchClasses.fields (.declared 1)).outcome = .ok fields ∧
      (searchClasses.fields (.declared 2)).outcome = .ok fields := by
  decide +kernel

/-- The markers of the search are read as they are wherever they stand. -/
theorem searchClasses_markers :
    MarkerReadings searchClasses integer pageNumber ∧
    (∃ s, (searchClasses.service (.cls (.declared 0)) none).outcome = .ok s) ∧
    (∃ fields, (searchClasses.fields (.declared 1)).outcome = .ok fields) ∧
    (∃ fields, (searchClasses.fields (.declared 2)).outcome = .ok fields) :=
  ⟨markers_of_optionals rfl, ⟨_, searchClasses_service⟩, ⟨_, searchClasses_fields.1⟩,
    ⟨_, searchClasses_fields.2⟩⟩

/-- The two parameters of the search, which are marked alike, travel in different places. -/
theorem markedInside_unplaced : ∃ s method outside inside,
    (searchClasses.service (.cls (.declared 0)) none).outcome = .ok s ∧ s.methods = [method] ∧
      method.parameters = [outside, inside] ∧ outside.location = .query ∧
      inside.location = .unspecified ∧ outside.description ≠ inside.description :=
  ⟨searchService, _, _, _, searchClasses_service, rfl, rfl, rfl, rfl, by decide⟩

end ServiceSchema

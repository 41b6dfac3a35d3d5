/-
Class variables among the fields.

The fields of a class that is neither a model nor a dataclass are its annotated names, each once
and where the farthest ancestor annotates it, less the private ones and the class variables. What is
a class variable is told by the annotation that the nearest class makes, and there are several ways
to write it. The check sees one of them, the form with the type between brackets, and that only as
the outermost form of a type. So a class variable is a field after all if it is written by the word
alone, if it carries metadata, or if it is a text that was left unevaluated.
-/
import ServiceSchema.Proofs.DefinitionTable

set_option autoImplicit false

namespace ServiceSchema

open Log.Traced

/-! ## Ways to write a class variable -/

namespace Expression

/-- Whether an expression is a word, or an attribute of that name. -/
def isNamed (word : String) : Expression → Bool
  | name s => s == word
  | member _ s => s == word
  | _ => false

mutual

/-- Whether an expression is written as a class variable: by the word alone, with the type between
brackets, or with metadata around either. -/
def isClassVariable : Expression → Bool
  | index head arguments =>
    head.isNamed SpecialForm.classVar.word ||
      head.isNamed "Annotated" && firstIsClassVariable arguments
  | e => e.isNamed SpecialForm.classVar.word

/-- Whether the first of several expressions is written as a class variable. -/
def firstIsClassVariable : List Expression → Bool
  | [] => false
  | e :: _ => e.isClassVariable

end

end Expression

namespace Annotation

/-- Whether a text is an expression that is written as a class variable. -/
def isClassVariableText (s : String) : Bool :=
  match Expression.ofText? s with
  | .ok e => e.isClassVariable
  | .error _ => false

/-- Whether an annotation is written as a class variable, metadata and quotes aside. -/
def isWrittenClassVariable (a : Annotation) : Bool :=
  match a.strip with
  | text s => isClassVariableText s
  | forward s _ => isClassVariableText s
  | a => a.isClassVariable

/-- Whether an annotation marks a class variable: whether what it means in its class does, or, if it
cannot be evaluated, what is written. -/
def marksClassVariable (u : Universe) (place : Place) (a : Annotation) : Bool :=
  match a.evaluateHint u place with
  | .ok meaning => meaning.strip.isClassVariable
  | .error _ => a.isWrittenClassVariable

/-- The form with the type between brackets is a class variable however it is looked at. -/
theorem isClassVariable_of_typed {a : Annotation} (h : a.isTypedClassVariable = true) :
    a.strip.isClassVariable = true ∧ a.isWrittenClassVariable = true := by
  unfold isTypedClassVariable at h
  split at h
  · exact ⟨rfl, rfl⟩
  · cases h

/-- To evaluate type arguments leaves alone what they are given to. -/
theorem isTypedClassVariable_of_evaluateHint {u : Universe} {place : Place}
    {a meaning : Annotation} (h : a.isTypedClassVariable = true)
    (hmeaning : a.evaluateHint u place = .ok meaning) : meaning.isTypedClassVariable = true := by
  unfold isTypedClassVariable at h
  split at h
  · next arguments =>
    simp only [evaluateHint, evaluate, asType, replaceWith, Except.bind_eq_ok] at hmeaning
    obtain ⟨-, -, evaluated, -, rfl⟩ := hmeaning
    rfl
  · cases h

theorem marksClassVariable_of_means {u : Universe} {place : Place} {a meaning : Annotation}
    (hmeaning : a.evaluateHint u place = .ok meaning)
    (h : meaning.isTypedClassVariable = true) : a.marksClassVariable u place = true := by
  rw [marksClassVariable, hmeaning]
  exact (isClassVariable_of_typed h).1

theorem marksClassVariable_of_typed (u : Universe) (place : Place) {a : Annotation}
    (h : a.isTypedClassVariable = true) : a.marksClassVariable u place = true := by
  cases hmeaning : a.evaluateHint u place with
  | ok meaning =>
    exact marksClassVariable_of_means hmeaning (isTypedClassVariable_of_evaluateHint h hmeaning)
  | error fault =>
    rw [marksClassVariable, hmeaning]
    exact (isClassVariable_of_typed h).2

end Annotation

/-! ## What hints are made of -/

namespace Universe

variable {u : Universe} {id : ClassId}

/-- The annotations that a class makes, each with its name and the body of the class. -/
def ownAnnotations (u : Universe) (c : ClassDeclaration) : List (String × Place × Annotation) :=
  (u.annotations c).map fun (name, a) => (name, c.place, a)

/-- The annotations along the lineage of a class, those of the farthest ancestor first. -/
def madeAnnotations (u : Universe) (id : ClassId) : List (String × Place × Annotation) :=
  (u.ancestors id).reverse.flatMap u.ownAnnotations

/-- The names that are annotated along the lineage of a class. -/
def annotatedNames (u : Universe) (id : ClassId) : List String := (u.madeAnnotations id).map Prod.fst

/-- The annotation of a name that counts: the last one along the lineage, in its class. -/
def annotation? (u : Universe) (id : ClassId) (name : String) : Option (Place × Annotation) :=
  (u.madeAnnotations id).reverse.lookup name

/-- The name of an annotation that counts is annotated. -/
theorem mem_annotatedNames {name : String} {made : Place × Annotation}
    (h : u.annotation? id name = some made) : name ∈ u.annotatedNames id := by
  have hmem : (name, made) ∈ (u.madeAnnotations id).reverse := mem_of_lookup h
  exact List.mem_map_of_mem (List.mem_reverse.1 hmem)

/-- Whether a name is that of a class variable. -/
def isClassVariable (u : Universe) (id : ClassId) (name : String) : Bool :=
  (u.annotation? id name).any fun (place, a) => a.marksClassVariable u place

/-- Hints that are read off annotations one by one, each under the name of its annotation. -/
def ReadOff (R : Place × Annotation → Annotation → Prop) :
    List (String × Place × Annotation) → List (String × Annotation) → Prop :=
  List.Forall₂ fun made hint => hint.1 = made.1 ∧ R made.2 hint.2

/-- The hint of a name is read off the first annotation of the name. -/
theorem ReadOff.exists_of_lookup {R : Place × Annotation → Annotation → Prop}
    {made : List (String × Place × Annotation)} {hints : List (String × Annotation)}
    (h : ReadOff R made hints) {name : String} {hint : Annotation}
    (hhint : hints.lookup name = some hint) : ∃ a, made.lookup name = some a ∧ R a hint := by
  induction h with
  | nil => cases hhint
  | @cons m r made hints hm _ ih =>
    obtain ⟨key, a⟩ := m
    obtain ⟨key', hint'⟩ := r
    obtain ⟨hkey, ha⟩ := hm
    dsimp only at hkey ha
    subst hkey
    rw [List.lookup_cons] at hhint ⊢
    split at hhint
    · exact ⟨a, rfl, Option.some.inj hhint ▸ ha⟩
    · exact ih hhint

/-- A hint is what an annotation means in its class. -/
def Means (u : Universe) (made : Place × Annotation) (hint : Annotation) : Prop :=
  made.2.evaluateHint u made.1 = .ok hint

/-- The table of hints with further ones set one after another. -/
def setAll (hints : Table Annotation) (more : List (String × Annotation)) : Table Annotation :=
  more.foldl (fun t e => t.set e.1 e.2) hints

/-- Evaluated annotations are set one after another, each under its name. -/
theorem addEvaluated_eq_ok {c : ClassDeclaration} {annotations : List (String × Annotation)}
    {before after : Table Annotation}
    (h : addEvaluated (·.evaluateHint u c.place) before annotations = .ok after) :
    ∃ more, ReadOff u.Means (annotations.map fun (name, a) => (name, c.place, a)) more ∧
      after = setAll before more := by
  induction annotations generalizing before with
  | nil =>
    obtain rfl := Except.ok.inj h
    exact ⟨[], .nil, rfl⟩
  | cons annotation annotations ih =>
    obtain ⟨name, a⟩ := annotation
    rw [addEvaluated, List.foldlM_cons, Except.bind_eq_ok] at h
    obtain ⟨next, hnext, h⟩ := h
    obtain ⟨meaning, hmeaning, hset⟩ := Except.bind_eq_ok.1 hnext
    obtain rfl := Except.ok.inj hset
    obtain ⟨more, hmore, rfl⟩ := ih h
    exact ⟨(name, meaning) :: more, .cons ⟨rfl, hmeaning⟩ hmore, rfl⟩

/-- The same along a list of classes. -/
theorem foldlM_addEvaluated_eq_ok {cs : List ClassDeclaration} {before after : Table Annotation}
    (h : cs.foldlM (fun t c => addEvaluated (·.evaluateHint u c.place) t (u.annotations c)) before
      = .ok after) :
    ∃ more, ReadOff u.Means (cs.flatMap u.ownAnnotations) more ∧ after = setAll before more := by
  induction cs generalizing before with
  | nil =>
    obtain rfl := Except.ok.inj h
    exact ⟨[], .nil, rfl⟩
  | cons c cs ih =>
    rw [List.foldlM_cons, Except.bind_eq_ok] at h
    obtain ⟨next, hnext, h⟩ := h
    obtain ⟨own, hown, rfl⟩ := addEvaluated_eq_ok hnext
    obtain ⟨more, hmore, rfl⟩ := ih h
    refine ⟨own ++ more, ?_, ?_⟩
    · rw [List.flatMap_cons]
      exact List.rel_append hown hmore
    · rw [setAll, setAll, setAll, List.foldl_append]

/-- Annotations as they are written are set one after another, each under its name. -/
theorem foldl_addRaw (cs : List ClassDeclaration) (before : Table Annotation) :
    cs.foldl (fun t c => addRaw t (u.annotations c)) before =
      setAll before ((cs.flatMap u.ownAnnotations).map fun made => (made.1, made.2.2)) := by
  induction cs generalizing before with
  | nil => rfl
  | cons c cs ih =>
    have hown : addRaw before (u.annotations c) =
        setAll before ((u.ownAnnotations c).map fun made => (made.1, made.2.2)) := by
      rw [setAll, ownAnnotations, List.map_map, List.foldl_map]
      rfl
    rw [List.foldl_cons, ih, hown, List.flatMap_cons, List.map_append, setAll, setAll, setAll,
      List.foldl_append]

/-- **The hints of a class** are its annotated names, each once and where it occurs first. The hint
of a name is read off the annotation that counts: it is what that annotation means, or the
annotation itself as it is written. -/
theorem hints_eq_ok {hints : Table Annotation} (h : (u.hints id).outcome = .ok hints) :
    hints.keys = (u.annotatedNames id).eraseDups ∧
    ∀ name hint, (name, hint) ∈ hints.entries →
      ∃ made, u.annotation? id name = some made ∧ (u.Means made hint ∨ hint = made.2) := by
  have hread : ∃ more, ReadOff (fun made hint => u.Means made hint ∨ hint = made.2)
      (u.madeAnnotations id) more ∧ hints = Table.ofList more := by
    -- all annotations are evaluated, or none is and they stay as they are written
    dsimp only [Universe.hints, evaluatedOr] at h
    split at h
    · next evaluated hevaluated =>
      obtain rfl := Except.ok.inj h
      obtain ⟨more, hmore, hset⟩ := foldlM_addEvaluated_eq_ok hevaluated
      exact ⟨more, hmore.imp fun made hint hr => ⟨hr.1, .inl hr.2⟩, hset⟩
    · split at h
      · rw [report_bind_outcome] at h
        obtain rfl := Except.ok.inj h
        refine ⟨_, ?_, foldl_addRaw _ _⟩
        rw [ReadOff, List.forall₂_map_right_iff]
        exact List.forall₂_same.2 fun made _ => ⟨rfl, .inr rfl⟩
      · cases h
  obtain ⟨more, hmore, rfl⟩ := hread
  constructor
  · have hnames : (u.madeAnnotations id).map Prod.fst = more.map Prod.fst :=
      map_eq_map_of_forall₂ hmore fun made hint hr => hr.1.symm
    rw [Table.keys_ofList, annotatedNames, hnames]
  · intro name hint hhint
    -- of several annotations of a name the last one is kept
    rw [Table.mem_entries_ofList] at hhint
    have hreversed : ReadOff (fun made hint => u.Means made hint ∨ hint = made.2)
        (u.madeAnnotations id).reverse more.reverse := List.rel_reverse hmore
    exact hreversed.exists_of_lookup hhint

/-! ## The fields of an annotated class -/

/-- Whether the hint of a name is seen to mark a class variable: only if its outermost form is that
with the type between brackets. -/
def isRecognized (hints : Table Annotation) (name : String) : Bool :=
  hints.entries.any fun hint => hint.1 == name && hint.2.isTypedClassVariable

theorem isRecognized_iff {hints : Table Annotation} {name : String} :
    isRecognized hints name = true ↔
      ∃ hint, (name, hint) ∈ hints.entries ∧ hint.isTypedClassVariable = true := by
  simp only [isRecognized, List.any_eq_true, Bool.and_eq_true, beq_iff_eq]
  constructor
  · rintro ⟨⟨key, hint⟩, hmem, rfl, htyped⟩
    exact ⟨hint, hmem, htyped⟩
  · rintro ⟨hint, hmem, htyped⟩
    exact ⟨(name, hint), hmem, rfl, htyped⟩

/-- A name has one hint, which alone decides whether it is recognized. -/
theorem isRecognized_of_mem {hints : Table Annotation} {name : String} {hint : Annotation}
    (h : (name, hint) ∈ hints.entries) :
    isRecognized hints name = hint.isTypedClassVariable := by
  rw [Bool.eq_iff_iff, isRecognized_iff]
  constructor
  · rintro ⟨other, hother, htyped⟩
    have hsame : (name, other) = (name, hint) :=
      List.inj_on_of_nodup_map hints.nodup hother h rfl
    obtain rfl := (Prod.mk.inj hsame).2
    exact htyped
  · exact fun htyped => ⟨hint, h, htyped⟩

/-- The fields that are described are the hints that are neither private nor recognized. -/
theorem map_name_annotatedFields (id : ClassId) (hints : Table Annotation) :
    (u.annotatedFields id hints).map (·.name) =
      hints.keys.filter fun name => isPrivate name = false ∧ isRecognized hints name = false := by
  rw [annotatedFields, List.map_map, Table.keys, List.filter_map]
  have hfilter : hints.entries.filter (fun hint =>
        !isPrivate hint.1 && !hint.2.isTypedClassVariable) =
      hints.entries.filter ((fun name =>
        decide (isPrivate name = false ∧ isRecognized hints name = false)) ∘ Prod.fst) := by
    apply List.filter_congr
    intro entry hmem
    obtain ⟨name, hint⟩ := entry
    rw [Function.comp_apply, isRecognized_of_mem hmem]
    cases isPrivate name <;> cases hint.isTypedClassVariable <;> rfl
  exact congrArg (List.map Prod.fst) hfilter

/-- A field that is described has the name of what it describes. -/
theorem map_name_fields {fields : List Field} (hmodel : u.isModel id = false)
    (hdata : u.dataTable? id = none) (h : (u.fields id).outcome = .ok fields) :
    ∃ hints, (u.hints id).outcome = .ok hints ∧
      fields.map (·.name) = (u.annotatedFields id hints).map (·.name) := by
  obtain ⟨cs, hcs, hfields⟩ := Universe.fields_eq_ok h
  rw [classFields, if_neg (Bool.eq_false_iff.1 hmodel), hdata] at hcs
  obtain ⟨hints, hhints, hlisted⟩ := bind_eq_ok.1 hcs
  obtain rfl := Except.ok.inj hlisted
  refine ⟨hints, hhints, (map_eq_map_of_forall₂ hfields fun c f hf => ?_).symm⟩
  obtain ⟨-, type, -, rfl⟩ := ClassField.toField_eq_ok.1 hf
  rfl

/-- What is recognized marks a class variable. -/
theorem isClassVariable_of_isRecognized {hints : Table Annotation}
    (h : (u.hints id).outcome = .ok hints) {name : String}
    (hname : isRecognized hints name = true) : u.isClassVariable id name = true := by
  obtain ⟨hint, hmem, htyped⟩ := isRecognized_iff.1 hname
  obtain ⟨⟨place, a⟩, hmade, hread⟩ := (hints_eq_ok h).2 name hint hmem
  rw [isClassVariable, hmade, Option.any_some]
  rcases hread with hmeans | rfl
  · exact Annotation.marksClassVariable_of_means hmeans htyped
  · exact Annotation.marksClassVariable_of_typed u place htyped

/-- What is written with the type between brackets is recognized, evaluated or not. -/
theorem isRecognized_of_typed {hints : Table Annotation} (h : (u.hints id).outcome = .ok hints)
    {name : String} {place : Place} {a : Annotation}
    (hmade : u.annotation? id name = some (place, a)) (htyped : a.isTypedClassVariable = true) :
    isRecognized hints name = true := by
  have hname : name ∈ hints.keys := by
    rw [(hints_eq_ok h).1, List.mem_eraseDups]
    exact mem_annotatedNames hmade
  obtain ⟨⟨key, hint⟩, hmem, rfl⟩ := List.mem_map.1 hname
  obtain ⟨made, hmade', hread⟩ := (hints_eq_ok h).2 key hint hmem
  obtain rfl := Option.some.inj (hmade.symm.trans hmade')
  rw [isRecognized_of_mem hmem]
  rcases hread with hmeans | rfl
  · exact Annotation.isTypedClassVariable_of_evaluateHint htyped hmeans
  · exact htyped

/-- **Which class variables are fields.** Where the fields of a class that is neither a model nor a
dataclass can be described, they are its annotated names, each once and in the order in which they
are first met from the farthest ancestor on, less the private names and the recognized ones. Class
variables that are written with the type between brackets are recognized. So no class variable is a
field exactly if no public one is written in another way. -/
theorem class_variables_are_no_fields_iff {fields : List Field} (hmodel : u.isModel id = false)
    (hdata : u.dataTable? id = none) (h : (u.fields id).outcome = .ok fields) :
    ∃ hints, (u.hints id).outcome = .ok hints ∧
      ListsFirst (u.annotatedNames id)
        (fun name => isPrivate name = false ∧ isRecognized hints name = false)
        (fields.map (·.name)) ∧
      (∀ name place a, u.annotation? id name = some (place, a) → a.isTypedClassVariable = true →
        isRecognized hints name = true) ∧
      (ListsFirst (u.annotatedNames id)
          (fun name => isPrivate name = false ∧ u.isClassVariable id name = false)
          (fields.map (·.name)) ↔
        ∀ name ∈ u.annotatedNames id, isPrivate name = false → u.isClassVariable id name = true →
          isRecognized hints name = true) := by
  obtain ⟨hints, hhints, hnames⟩ := map_name_fields hmodel hdata h
  have hlisted : ListsFirst (u.annotatedNames id)
      (fun name => isPrivate name = false ∧ isRecognized hints name = false)
      (fields.map (·.name)) := by
    rw [hnames, map_name_annotatedFields, (hints_eq_ok hhints).1]
    exact (listsFirst_eraseDups (u.annotatedNames id)).filter _
  refine ⟨hints, hhints, hlisted, fun name place a => isRecognized_of_typed hhints, ?_, ?_⟩
  · intro hclaimed name hname hpublic hvariable
    by_contra hoverlooked
    -- it would be listed as a field
    have hfield : name ∈ fields.map (·.name) :=
      (hlisted.mem_iff name).2 ⟨hname, hpublic, Bool.eq_false_iff.2 hoverlooked⟩
    have hnone : u.isClassVariable id name = false := ((hclaimed.mem_iff name).1 hfield).2.2
    rw [hvariable] at hnone
    cases hnone
  · intro hrecognized
    refine ⟨hlisted.once, fun name => ?_, hlisted.ordered⟩
    rw [hlisted.mem_iff]
    refine and_congr_right fun hname => and_congr_right fun hpublic => ?_
    rw [← Bool.not_eq_true, ← Bool.not_eq_true, not_iff_not]
    exact ⟨isClassVariable_of_isRecognized hhints, hrecognized name hname hpublic⟩

/-! ## Books and journals

A book that counts its kinds, a ledger that is a book and has two more class variables in other
spellings, and a journal with a class variable in quotes, left unevaluated because its owner is
nobody. -/

/-- The classes of a library. -/
def libraryClasses : Universe where
  classes := [
    { name := "Book", module := "m", qualname := "Book"
      fields := [
        { name := "pages", type := .cls (.standard (.builtin "int")) },
        { name := "kinds"
          type := .applied (.form .classVar) [.cls (.standard (.builtin "dict"))] },
        { name := "_mark", type := .cls (.standard (.builtin "str")) }] },
    { name := "Ledger", module := "m", qualname := "Ledger", bases := [.declared 0]
      fields := [
        { name := "currency", type := .form .classVar },
        { name := "limit"
          type := .annotated (.applied (.form .classVar) [.cls (.standard (.builtin "int"))])
            [.text "in cents"] },
        { name := "pages", type := .cls (.standard (.builtin "str")) }] },
    { name := "Journal", module := "m", qualname := "Journal"
      fields := [
        { name := "owner", type := .text "Person" },
        { name := "count", type := .text "ClassVar[int]" }] }]

/-- The fields of a book. -/
def bookFields : List Field := [{ name := "pages", type := .base "int", requirement := .required }]

/-- The fields of a ledger. -/
def ledgerFields : List Field := [
  { name := "pages", type := .base "string", requirement := .required },
  { name := "currency", type := .unresolved "ClassVar", requirement := .required },
  { name := "limit", type := .unresolved "ClassVar", requirement := .required }]

/-- The fields of a journal. -/
def journalFields : List Field := [
  { name := "owner", type := .unresolved "Person", requirement := .required },
  { name := "count", type := .unresolved "ClassVar[int]", requirement := .required }]

/-- The class variable of books is no field. -/
theorem book_without_class_variables :
    (libraryClasses.fields (.declared 0)).outcome = .ok bookFields ∧
    ∃ hints, (libraryClasses.hints (.declared 0)).outcome = .ok hints ∧
      ListsFirst (libraryClasses.annotatedNames (.declared 0))
        (fun name => isPrivate name = false ∧ isRecognized hints name = false)
        (bookFields.map (·.name)) ∧
      ListsFirst (libraryClasses.annotatedNames (.declared 0))
        (fun name => isPrivate name = false ∧
          libraryClasses.isClassVariable (.declared 0) name = false)
        (bookFields.map (·.name)) := by
  have hfields : (libraryClasses.fields (.declared 0)).outcome = .ok bookFields := by
    decide +kernel
  obtain ⟨hints, hhints, hlisted, htyped, hclaimed⟩ :=
    class_variables_are_no_fields_iff (by decide +kernel) rfl hfields
  refine ⟨hfields, hints, hhints, hlisted, hclaimed.2 ?_⟩
  intro name hname hpublic hvariable
  -- the only class variable of books has its type between brackets
  have hkinds : name = "kinds" := by
    have hall : ∀ other ∈ libraryClasses.annotatedNames (.declared 0),
        libraryClasses.isClassVariable (.declared 0) other = true → other = "kinds" := by
      decide +kernel
    exact hall name hname hvariable
  subst hkinds
  exact htyped "kinds" _ _ rfl rfl

/-- The class variables of ledgers and journals are fields. -/
theorem ledger_and_journal_with_class_variables :
    (libraryClasses.isModel (.declared 1) = false ∧
      (libraryClasses.dataTable? (.declared 1)).isNone = true ∧
      (libraryClasses.fields (.declared 1)).outcome = .ok ledgerFields ∧
      (∀ name ∈ ["currency", "limit"],
        libraryClasses.isClassVariable (.declared 1) name = true) ∧
      ¬ ListsFirst (libraryClasses.annotatedNames (.declared 1))
        (fun name => isPrivate name = false ∧
          libraryClasses.isClassVariable (.declared 1) name = false)
        (ledgerFields.map (·.name))) ∧
    libraryClasses.isModel (.declared 2) = false ∧
    (libraryClasses.dataTable? (.declared 2)).isNone = true ∧
    (libraryClasses.fields (.declared 2)).outcome = .ok journalFields ∧
    ¬ ListsFirst (libraryClasses.annotatedNames (.declared 2))
      (fun name => isPrivate name = false ∧
        libraryClasses.isClassVariable (.declared 2) name = false)
      (journalFields.map (·.name)) := by
  refine ⟨⟨by decide +kernel, by decide +kernel, by decide +kernel, by decide +kernel, ?_⟩,
    by decide +kernel, by decide +kernel, by decide +kernel, ?_⟩
  · intro hclaimed
    have hlimit := ((hclaimed.mem_iff "limit").1 (by decide)).2.2
    exact absurd hlimit (by decide +kernel)
  · intro hclaimed
    have hcount := ((hclaimed.mem_iff "count").1 (by decide)).2.2
    exact absurd hcount (by decide +kernel)

end Universe

end ServiceSchema

/-
What services and definitions that were read off classes are made of.

A service class yields methods whose types are all signatures of annotations, and the default
resolver yields structs whose fields are. The answer for a class is settled by three facts
about it: whether it is marked as a union, whether it is an enumeration and whether it is
builtin. Whatever the answer is, it goes under the full name of the class.
-/
import ServiceSchema.Proofs.Classification
import ServiceSchema.Proofs.Constructors

set_option autoImplicit false

namespace ServiceSchema

open Log.Traced

variable {u : Universe}

/-! ## Fields

Fields of classes and parameters of functions have the signatures of their annotations. -/

/-- A field of a class is described if it has a name and its type has a signature. -/
theorem ClassField.toField_eq_ok {c : ClassField} {f : Field} : c.toField u = .ok f ↔
    c.name ≠ "" ∧ ∃ type, c.type.toSignature u = .ok type ∧
      f = ⟨c.name, type, .ofBool c.isRequired, .unspecified, c.description⟩ := by
  unfold toField
  split
  · next e he => simp [he]
  · next type htype => simp [htype, Field.make?_eq_ok]

/-- What the annotation of a parameter means; without one it is any type at all. -/
def Parameter.hint (hints : Table Annotation) (p : Parameter) : Annotation :=
  (hints.get? p.name).getD .any

/-- A parameter is described if it has a name and its hint has a signature. -/
theorem Parameter.toField_eq_ok {hints : Table Annotation} {p : Parameter} {f : Field} :
    p.toField u hints = .ok f ↔
      p.name ≠ "" ∧ ∃ type, (p.hint hints).toSignature u = .ok type ∧
        f = ⟨p.name, type, .ofBool (!p.hasDefault && !(p.hint hints).strip.isOptional),
          (p.hint hints).marker.1, (p.hint hints).marker.2⟩ := by
  unfold toField hint
  dsimp only
  split
  · next e he => simp [he]
  · next type htype => simp [htype, Field.make?_eq_ok]

theorem ClassField.grounded_toField {f : ClassField} {field : Field}
    (h : f.toField u = .ok field) : u.Grounded field.type := by
  obtain ⟨-, type, htype, rfl⟩ := toField_eq_ok.1 h
  exact Annotation.grounded_toSignature f.type type htype

/-- The fields that a class is described by are those that were read off it. -/
theorem Universe.fields_eq_ok {id : ClassId} {fields : List Field}
    (h : (u.fields id).outcome = .ok fields) : ∃ cs, (u.classFields id).outcome = .ok cs ∧
      List.Forall₂ (fun c f => ClassField.toField u c = .ok f) cs fields := by
  unfold Universe.fields at h
  obtain ⟨cs, hcs, h⟩ := bind_eq_ok.1 h
  split at h
  · next made hmade =>
    obtain rfl := Except.ok.inj h
    exact ⟨cs, hcs, Except.mapM_eq_ok.1 hmade⟩
  · cases h

/-- The fields that a class is described by are grounded. -/
theorem Universe.grounded_fields {id : ClassId} {fields : List Field}
    (h : (u.fields id).outcome = .ok fields) : ∀ f ∈ fields, u.Grounded f.type := by
  obtain ⟨cs, -, hfields⟩ := fields_eq_ok h
  intro f hf
  obtain ⟨c, -, hc⟩ := exists_left_of_forall₂ hfields hf
  exact ClassField.grounded_toField hc

theorem Parameter.grounded_toField {hints : Table Annotation} {p : Parameter} {field : Field}
    (h : p.toField u hints = .ok field) : u.Grounded field.type := by
  obtain ⟨-, type, htype, rfl⟩ := toField_eq_ok.1 h
  exact Annotation.grounded_toSignature _ type htype

/-! ## Methods and services -/

/-- The signatures that a method mentions: those of its parameters, then that of its result. -/
def Method.signatures (m : Method) : List Signature :=
  m.parameters.map (·.type) ++ m.returnType.toList

/-- A method that was read off a class: it has a result type, and all its types are grounded. -/
structure Universe.GroundedMethod (u : Universe) (m : Method) : Prop where
  result : m.returnType.isSome = true
  signatures : ∀ s ∈ m.signatures, u.Grounded s

namespace Universe

theorem grounded_functionMethod {service : String} {f : Function}
    {signature? : Option (List Parameter)} {m : Method}
    (h : (u.functionMethod service f signature?).outcome = .ok m) : u.GroundedMethod m := by
  unfold functionMethod at h
  obtain ⟨hints, -, h⟩ := bind_eq_ok.1 h
  cases signature? with
  | none => cases h
  | some signature =>
    dsimp only at h
    split at h
    · next built hbuilt =>
      obtain rfl := Except.ok.inj h
      obtain ⟨parameters, hparameters, hbuilt⟩ := Except.bind_eq_ok.1 hbuilt
      split at hbuilt
      · cases hbuilt
      · next result hresult =>
        obtain ⟨-, -, rfl⟩ := Method.make?_eq_ok.1 hbuilt
        refine ⟨rfl, ?_⟩
        intro s hs
        rw [Method.signatures, Option.toList_some, List.mem_append, List.mem_map,
          List.mem_singleton] at hs
        rcases hs with ⟨field, hfield, rfl⟩ | rfl
        · obtain ⟨p, -, hp⟩ := Except.exists_of_mapM_eq_ok hparameters hfield
          exact Parameter.grounded_toField hp
        · exact Annotation.grounded_toSignature _ s hresult
    · cases h

theorem grounded_attributeMethod {id : ClassId} {service name : String} {m : Method}
    (h : (u.attributeMethod id service name).outcome = .ok m) : u.GroundedMethod m := by
  unfold attributeMethod at h
  split at h
  · exact grounded_functionMethod h
  · exact grounded_functionMethod h
  · exact grounded_functionMethod h
  · cases h
  · rw [report_bind_outcome] at h
    cases h
  · cases h
  · cases h

/-- What listing one more name can do, given the method of its attribute. A name that is new is
listed with the method; for one that is listed already, the method goes to the first place
where a method of the name is listed. -/
theorem addMethod_eq_ok {id : ClassId} {service key : String} {listed listed' : MethodList} :
    (u.addMethod id service listed key).outcome = .ok listed' ↔
      ∃ m, (u.attributeMethod id service key).outcome = .ok m ∧
        ((key ∉ listed.seen ∧ listed' = ⟨listed.seen ++ [key], listed.methods ++ [m]⟩) ∨
          key ∈ listed.seen ∧ ∃ place, listed.methods.findIdx? (·.name == key) = some place ∧
            listed' = ⟨listed.seen, listed.methods.set place m⟩) := by
  unfold addMethod
  by_cases hold : key ∈ listed.seen
  · rw [if_pos (by simpa using hold)]
    cases listed.methods.findIdx? (·.name == key) with
    | none => simp [hold]
    | some place =>
      rw [bind_eq_ok]
      refine exists_congr fun m => and_congr_right fun _ => ?_
      simp [hold, eq_comm (a := listed')]
  · rw [if_neg (by simpa using hold), bind_eq_ok]
    refine exists_congr fun m => and_congr_right fun _ => ?_
    simp [hold, eq_comm (a := listed')]

/-- One more attribute adds its method, or puts it in the place of another one. -/
theorem mem_addMethod {id : ClassId} {service key : String} {listed listed' : MethodList}
    {m : Method} (h : (u.addMethod id service listed key).outcome = .ok listed')
    (hm : m ∈ listed'.methods) :
    m ∈ listed.methods ∨ (u.attributeMethod id service key).outcome = .ok m := by
  obtain ⟨made, hmade, ⟨-, rfl⟩ | ⟨-, place, -, rfl⟩⟩ := addMethod_eq_ok.1 h
  · rcases List.mem_append.1 hm with hm | hm
    · exact .inl hm
    · exact .inr (List.mem_singleton.1 hm ▸ hmade)
  · rcases List.mem_or_eq_of_mem_set hm with hm | rfl
    · exact .inl hm
    · exact .inr hmade

/-- The name of the service of a class: the given one, unless it is empty. -/
def serviceName (u : Universe) (id : ClassId) (name : Option String) : String :=
  (name.filter (· ≠ "")).getD (u.shortName id)

theorem service_eq (id : ClassId) (name : Option String) : u.service (.cls id) name = (do
    let listed ← (u.declaredFunctions id).foldlM (u.addMethod id (u.serviceName id name)) {}
    .report Log.debug builderSource ("Service " ++ u.serviceName id name ++ ": "
      ++ Nat.repr listed.methods.length ++ " method(s)")
    return { name := u.serviceName id name, methods := listed.methods
             description := u.describe id }) := by
  cases name with
  | none => rfl
  | some name =>
    have hname : u.serviceName id (some name) = if name = "" then u.shortName id else name := by
      by_cases h : name = "" <;> simp [serviceName, Option.filter, h]
    rw [hname]
    rfl

/-- A service has the methods that are listed for the functions of its class. -/
theorem service_eq_ok {id : ClassId} {name : Option String} {s : Service} :
    (u.service (.cls id) name).outcome = .ok s ↔
      ∃ listed,
        ((u.declaredFunctions id).foldlM (u.addMethod id (u.serviceName id name)) {}).outcome
          = .ok listed ∧
        s = { name := u.serviceName id name, methods := listed.methods
              description := u.describe id } := by
  rw [service_eq, bind_eq_ok]
  simp only [report_bind_outcome, outcome_pure, Except.ok.injEq, eq_comm]

/-- **Every method of a service is that of a public function of its class.** -/
theorem exists_attribute_of_service {id : ClassId} {name : Option String} {s : Service}
    (h : (u.service (.cls id) name).outcome = .ok s) : ∀ m ∈ s.methods,
    ∃ key ∈ u.declaredFunctions id, (u.attributeMethod id s.name key).outcome = .ok m := by
  obtain ⟨listed, hlisted, rfl⟩ := service_eq_ok.1 h
  refine foldlM_preserves (P := fun l : MethodList => ∀ m ∈ l.methods,
    ∃ key ∈ u.declaredFunctions id, (u.attributeMethod id _ key).outcome = .ok m) ?_ ?_ hlisted
  · intro b key b' hkey hb hstep m hm
    rcases mem_addMethod hstep hm with hm | hmethod
    · exact hb m hm
    · exact ⟨key, hkey, hmethod⟩
  · intro m hm
    exact absurd hm List.not_mem_nil

/-- **All methods of a service class are grounded.** -/
theorem grounded_service {target : Annotation} {name : Option String} {s : Service}
    (h : (u.service target name).outcome = .ok s) : ∀ m ∈ s.methods, u.GroundedMethod m := by
  cases target with
  | cls id =>
    intro m hm
    obtain ⟨key, -, hmethod⟩ := exists_attribute_of_service h m hm
    exact grounded_attributeMethod hmethod
  -- what is no class has no service
  | _ => cases h

/-! ## Answers -/

/-- The classes that a class is marked with as its subtypes. -/
def subtypeClasses (u : Universe) (id : ClassId) : List ClassId :=
  match u.polymorphism? id with
  | some (_, subtypes) => subtypes.map Prod.snd
  | none => []

/-- What a resolver may answer for a class. -/
inductive Answered (u : Universe) (id : ClassId) : Option Definition → Prop where
  /-- A builtin class that is neither an enumeration nor marked as a union is not described. -/
  | declined (unmarked : u.polymorphism? id = none) (plain : u.isEnumeration id = false)
      (builtin : u.isBuiltin id = true) : Answered u id none
  /-- An enumeration is an enum unless it is marked as a union. -/
  | enum {e : Enumeration} (unmarked : u.polymorphism? id = none)
      (enumeration : u.isEnumeration id = true) (name : e.name = u.fullName id) :
      Answered u id (some (.enum e))
  /-- All other classes are structs, and so is every class that is marked as a union. -/
  | struct {s : Struct} (subject : (u.polymorphism? id).isSome = true ∨
        u.isEnumeration id = false ∧ u.isBuiltin id = false)
      (name : s.name = u.fullName id) (fields : ∀ f ∈ s.fields, u.Grounded f.type)
      (subtypes : s.oneOf = (u.subtypeClasses id).map fun c => .struct (u.fullName c) (some c))
      (named : ∀ c ∈ u.subtypeClasses id, u.fullName c ≠ "") : Answered u id (some (.struct s))

theorem defined_eq_ok {α : Type} {wrap : α → Definition} {x : Except ModelError α}
    {answer : Option Definition} :
    (defined wrap x).outcome = .ok answer ↔ ∃ a, x = .ok a ∧ some (wrap a) = answer := by
  cases x with
  | error e => simp [defined]
  | ok a => simp [defined]

theorem subtypeSignature_eq_ok {id : ClassId} {s : Signature} :
    u.subtypeSignature id = .ok s ↔
      u.fullName id ≠ "" ∧ s = .struct (u.fullName id) (some id) := by
  unfold subtypeSignature
  split
  · next h => simp [h]
  · next h => simp [h, eq_comm]

/-- The signatures of subtypes are those of structs, under the full names of their classes. -/
theorem mapM_subtypeSignature {subtypes : List (String × ClassId)} {oneOf : List Signature}
    (h : (subtypes.mapM fun (_, id) => u.subtypeSignature id) = .ok oneOf) :
    oneOf = (subtypes.map Prod.snd).map (fun c => .struct (u.fullName c) (some c)) ∧
      ∀ c ∈ subtypes.map Prod.snd, u.fullName c ≠ "" := by
  -- the induction is on the two lists at once, member by member
  have hall := Except.mapM_eq_ok.1 h
  clear h
  induction hall with
  | nil => simp
  | @cons mark s marks rest hs _ ih =>
    obtain ⟨hname, rfl⟩ := subtypeSignature_eq_ok.1 hs
    obtain ⟨rfl, hnames⟩ := ih
    refine ⟨rfl, ?_⟩
    rw [List.map_cons, List.forall_mem_cons]
    exact ⟨hname, hnames⟩

/-- The structural answer for a class that is not marked as a union. -/
theorem answered_structural {id : ClassId} {answer : Option Definition}
    (hunmarked : u.polymorphism? id = none) (h : (u.structural id).outcome = .ok answer) :
    u.Answered id answer := by
  unfold structural at h
  split at h
  · next henum =>
    obtain ⟨e, he, rfl⟩ := defined_eq_ok.1 h
    obtain ⟨-, rfl⟩ := Enumeration.make?_eq_ok.1 he
    exact .enum hunmarked henum rfl
  · next henum =>
    have hplain : u.isEnumeration id = false := Bool.eq_false_iff.2 henum
    split at h
    · next hbuiltin =>
      exact Except.ok.inj h ▸ .declined hunmarked hplain hbuiltin
    · next hbuiltin =>
      obtain ⟨fields, hfields, h⟩ := bind_eq_ok.1 h
      obtain ⟨s, hs, rfl⟩ := defined_eq_ok.1 h
      obtain ⟨-, hname, hsfields, -, hsubtypes, -⟩ := Struct.make?_eq_ok hs
      have hnone : u.subtypeClasses id = [] := by rw [subtypeClasses, hunmarked]
      refine .struct (.inr ⟨hplain, Bool.eq_false_iff.2 hbuiltin⟩) hname ?_ ?_ ?_
      · rw [hsfields]
        exact grounded_fields hfields
      · rw [hsubtypes, hnone, List.map_nil]
      · rw [hnone]
        intro c hc
        exact absurd hc List.not_mem_nil

/-- The answer for a class that is marked as a union. There always is one, whatever else the class
is: this is how an enumeration can come to be described by a struct. -/
theorem answered_polymorphic {id : ClassId} {answer : Option Definition}
    (hmarked : (u.polymorphism? id).isSome = true)
    (h : (u.polymorphic id).outcome = .ok answer) :
    u.Answered id answer ∧ answer.isSome = true := by
  obtain ⟨⟨property, subtypes⟩, hmarks⟩ := Option.isSome_iff_exists.1 hmarked
  simp only [polymorphic, hmarks] at h
  split at h
  · cases h
  · next oneOf honeOf =>
    obtain ⟨fields, hfields, h⟩ := bind_eq_ok.1 h
    obtain ⟨s, hs, rfl⟩ := defined_eq_ok.1 h
    obtain ⟨discriminator, -, hs⟩ := Except.bind_eq_ok.1 hs
    obtain ⟨-, hname, hsfields, -, hsubtypes, -⟩ := Struct.make?_eq_ok hs
    obtain ⟨hlist, hnames⟩ := mapM_subtypeSignature honeOf
    have hclasses : u.subtypeClasses id = subtypes.map Prod.snd := by rw [subtypeClasses, hmarks]
    refine ⟨.struct (.inl hmarked) hname ?_ ?_ ?_, rfl⟩
    · rw [hsfields]
      exact grounded_fields hfields
    · rw [hsubtypes, hclasses, hlist]
    · rw [hclasses]
      exact hnames

/-- The rest of a chain is asked exactly if the first member declines. -/
theorem firstAnswer_cons_eq_ok {target : Annotation} {member : Resolver}
    {rest : List Resolver} {answer : Option Definition} :
    (ResolverOf.firstAnswer u target (member :: rest)).outcome = .ok answer ↔
      ((member.resolve u target).outcome = .ok none ∧
        (ResolverOf.firstAnswer u target rest).outcome = .ok answer) ∨
      ∃ d, (member.resolve u target).outcome = .ok (some d) ∧ answer = some d := by
  simp only [ResolverOf.firstAnswer, bind_eq_ok]
  constructor
  · rintro ⟨first, hfirst, h⟩
    cases first with
    | none => exact .inl ⟨hfirst, h⟩
    | some d =>
      dsimp only at h
      rw [report_bind_outcome, outcome_pure] at h
      exact .inr ⟨d, hfirst, (Except.ok.inj h).symm⟩
  · rintro (⟨hfirst, h⟩ | ⟨d, hfirst, rfl⟩)
    · exact ⟨none, hfirst, h⟩
    · exact ⟨some d, hfirst, rfl⟩

/-- What the default resolver asks about a class. -/
theorem firstAnswer_of_resolve {id : ClassId} {answer : Option Definition}
    (h : (Resolver.default.resolve u (.cls id)).outcome = .ok answer) :
    (u.polymorphic id).outcome = .ok none ∧ (u.structural id).outcome = .ok answer ∨
      (u.polymorphic id).outcome = .ok answer ∧ answer.isSome = true := by
  have hchain : (ResolverOf.firstAnswer u (.cls id)
      [.single ResolverRule.polymorphic, .single ResolverRule.structural]).outcome
      = .ok answer := h
  rw [firstAnswer_cons_eq_ok, firstAnswer_cons_eq_ok] at hchain
  rcases hchain with ⟨hdeclined, ⟨hstructural, hlast⟩ | ⟨d, hstructural, rfl⟩⟩ | ⟨d, hd, rfl⟩
  · obtain rfl := Except.ok.inj hlast
    exact .inl ⟨hdeclined, hstructural⟩
  · exact .inl ⟨hdeclined, hstructural⟩
  · exact .inr ⟨hd, rfl⟩

/-- The first rule declines what is not marked, so the second one decides. -/
theorem structural_of_resolve {id : ClassId} {answer : Option Definition}
    (hunmarked : u.polymorphism? id = none)
    (h : (Resolver.default.resolve u (.cls id)).outcome = .ok answer) :
    (u.structural id).outcome = .ok answer := by
  have hdeclined : (u.polymorphic id).outcome = .ok none := by
    rw [polymorphic, hunmarked]
    rfl
  rcases firstAnswer_of_resolve h with ⟨-, hstructural⟩ | ⟨hanswer, hsome⟩
  · exact hstructural
  · obtain rfl := Except.ok.inj (hdeclined.symm.trans hanswer)
    cases hsome

/-- The first rule has an answer for what is marked, so the second one is not asked. -/
theorem polymorphic_of_resolve {id : ClassId} {answer : Option Definition}
    (hmarked : (u.polymorphism? id).isSome = true)
    (h : (Resolver.default.resolve u (.cls id)).outcome = .ok answer) :
    (u.polymorphic id).outcome = .ok answer := by
  rcases firstAnswer_of_resolve h with ⟨hdeclined, -⟩ | ⟨hanswer, -⟩
  · cases (answered_polymorphic hmarked hdeclined).2
  · exact hanswer

/-- **The answer of the default resolver for a class** is decided by its marks and its kind. -/
theorem answered_of_resolve {id : ClassId} {answer : Option Definition}
    (h : (Resolver.default.resolve u (.cls id)).outcome = .ok answer) : u.Answered id answer := by
  by_cases hmarked : (u.polymorphism? id).isSome = true
  · exact (answered_polymorphic hmarked (polymorphic_of_resolve hmarked h)).1
  · have hunmarked : u.polymorphism? id = none := Option.not_isSome_iff_eq_none.1 hmarked
    exact answered_structural hunmarked (structural_of_resolve hunmarked h)

end Universe

end ServiceSchema

/-
What a specification is assembled from.

Before the walk starts, the types of all methods are taken in, and then those of the structs
that describe exceptions. All that the walk depends on is what these roots mention, in their
order; a specification is assembled exactly if every method has a result type, every
exception is resolved and the walk from the roots succeeds.
-/
import ServiceSchema.Proofs.Walk

set_option autoImplicit false

namespace ServiceSchema

open Log.Traced

/-- The structs among answers. -/
def answeredStructs (answers : List (Option Definition)) : List Struct :=
  answers.filterMap fun answer => answer.bind Definition.struct?

/-- The signatures that the methods of services mention, in order. -/
def serviceSignatures (services : List Service) : List Signature :=
  (services.flatMap (·.methods)).flatMap Method.signatures

namespace Assembly

variable {u : Universe} {resolver : Resolver}

/-- The state in which the walk over signatures starts. -/
def start (u : Universe) (roots : List Signature) (exceptions : List Struct) : Assembly :=
  enqueueAll { exceptions, pending := u.allClasses } roots

theorem enqueueMethod_eq_ok {a b : Assembly} {m : Method} :
    (a.enqueueMethod m).outcome = .ok b ↔
      m.returnType.isSome = true ∧ a.enqueueAll m.signatures = b := by
  unfold enqueueMethod Method.signatures
  cases m.returnType with
  | none => simp
  | some result =>
    rw [Option.toList_some, enqueueAll_append]
    simp [enqueueAll]

/-- Methods are taken in exactly if each has a result type. -/
theorem foldlM_enqueueMethod_eq_ok {a b : Assembly} {methods : List Method} :
    (methods.foldlM enqueueMethod a).outcome = .ok b ↔
      (∀ m ∈ methods, m.returnType.isSome = true) ∧
        a.enqueueAll (methods.flatMap Method.signatures) = b := by
  induction methods generalizing a with
  | nil => simp [enqueueAll]
  | cons m rest ih =>
    simp only [List.foldlM_cons, bind_eq_ok, enqueueMethod_eq_ok, ih, List.forall_mem_cons,
      List.flatMap_cons, enqueueAll_append]
    constructor
    · rintro ⟨_, ⟨hm, rfl⟩, hrest, hb⟩
      exact ⟨⟨hm, hrest⟩, hb⟩
    · rintro ⟨⟨hm, hrest⟩, hb⟩
      exact ⟨_, ⟨hm, rfl⟩, hrest, hb⟩

/-- The state with the struct of an answer added to the exceptions and taken in. -/
def withException (a : Assembly) (answer : Option Definition) : Assembly :=
  match answer.bind Definition.struct? with
  | some s => enqueueAll { a with exceptions := a.exceptions ++ [s] } s.signatures
  | none => a

theorem addException_eq_ok {a b : Assembly} {target : Annotation} :
    (a.addException u resolver target).outcome = .ok b ↔
      ∃ answer, (resolver.resolve u target).outcome = .ok answer ∧ a.withException answer = b := by
  unfold addException
  rw [bind_eq_ok]
  refine exists_congr fun answer => and_congr_right fun _ => ?_
  match answer with
  | none => simp [withException]
  | some (.enum _) => simp [withException, Definition.struct?]
  | some (.struct _) => simp [withException, Definition.struct?]

/-- The structs of answers are added one after another. -/
theorem foldl_withException (a : Assembly) (answers : List (Option Definition)) :
    answers.foldl withException a =
      enqueueAll { a with exceptions := a.exceptions ++ answeredStructs answers }
        ((answeredStructs answers).flatMap Struct.signatures) := by
  induction answers generalizing a with
  | nil => simp [answeredStructs, enqueueAll]
  | cons answer rest ih =>
    rw [List.foldl_cons, ih, withException]
    cases h : answer.bind Definition.struct? with
    | none => simp [answeredStructs, h]
    -- taking in types and listing exceptions change different fields, so their order is the same
    | some s =>
      simp only [answeredStructs, List.filterMap_cons, h, List.flatMap_cons, enqueueAll_append]
      simp only [enqueueAll_eq, List.append_assoc, List.singleton_append]

/-- Exceptions are taken in exactly if each is resolved. -/
theorem foldlM_addException_eq_ok {a b : Assembly} {targets : List Annotation} :
    (targets.foldlM (addException u resolver) a).outcome = .ok b ↔
      ∃ answers, List.Forall₂ (fun target answer =>
          (resolver.resolve u target).outcome = .ok answer) targets answers ∧
        answers.foldl withException a = b := by
  induction targets generalizing a with
  | nil => simp
  | cons target rest ih =>
    simp only [List.foldlM_cons, bind_eq_ok, addException_eq_ok, ih,
      List.forall₂_cons_left_iff]
    constructor
    · rintro ⟨_, ⟨answer, hanswer, rfl⟩, answers, hanswers, hb⟩
      exact ⟨answer :: answers, ⟨answer, answers, hanswer, hanswers, rfl⟩, hb⟩
    · rintro ⟨_, ⟨answer, answers, hanswer, hanswers, rfl⟩, hb⟩
      exact ⟨_, ⟨answer, hanswer, rfl⟩, answers, hanswers, hb⟩

end Assembly

/-- **When a specification is assembled and what it holds.** -/
theorem Universe.specification_eq_ok {u : Universe} {services : List Service}
    {resolver : Option Resolver} {exceptions : List Annotation} {spec : Specification} :
    (u.specification services resolver exceptions).outcome = .ok spec ↔
      (∀ m ∈ services.flatMap (·.methods), m.returnType.isSome = true) ∧
      ∃ answers, List.Forall₂ (fun target answer =>
          ((effectiveResolver resolver).resolve u target).outcome = .ok answer)
          exceptions answers ∧
        ∃ c, ((Assembly.start u (serviceSignatures services
            ++ (answeredStructs answers).flatMap Struct.signatures)
            (answeredStructs answers)).walk u (effectiveResolver resolver)).outcome = .ok c ∧
          spec = { services, enums := c.enums.values, structs := c.structs.values,
                   exceptions := c.exceptions } := by
  -- taking in the methods and then the exceptions is taking in both lists in one
  have hstart (answers : List (Option Definition)) :
      answers.foldl Assembly.withException
          (Assembly.enqueueAll { pending := u.allClasses } (serviceSignatures services))
        = Assembly.start u (serviceSignatures services
            ++ (answeredStructs answers).flatMap Struct.signatures) (answeredStructs answers) := by
    rw [Assembly.foldl_withException, Assembly.start, Assembly.enqueueAll_append]
    simp only [Assembly.enqueueAll_eq, List.nil_append]
  unfold specification
  simp only [bind_eq_ok, Assembly.foldlM_enqueueMethod_eq_ok, Assembly.foldlM_addException_eq_ok]
  constructor
  · rintro ⟨_, ⟨hmethods, rfl⟩, _, ⟨answers, hanswers, rfl⟩, c, hc, _, -, hspec⟩
    rw [← serviceSignatures, hstart] at hc
    exact ⟨hmethods, answers, hanswers, c, hc, (Except.ok.inj hspec).symm⟩
  · rintro ⟨hmethods, answers, hanswers, c, hc, rfl⟩
    refine ⟨_, ⟨hmethods, rfl⟩, _, ⟨answers, hanswers, rfl⟩, c, ?_, (), rfl, rfl⟩
    rw [← serviceSignatures, hstart]
    exact hc

end ServiceSchema

/-
Which definitions a specification of classes holds.

A class is reachable if a method mentions it, or a struct that describes an exception, or the
struct that describes a reachable class. The search of a specification takes exactly the
signatures of reachable classes, each once, so its structs and enums are the definitions of
the reachable classes. Reachability does not see in which order services, methods and
parameters are listed, and neither does the set of these definitions.
-/
import ServiceSchema.Proofs.Discovery

set_option autoImplicit false

namespace ServiceSchema

open Log.Traced

/-! ## Reachable classes -/

/-- The classes that a specification has to describe. -/
inductive Universe.Reachable (u : Universe) (services : List Service)
    (exceptions : List Annotation) : ClassId → Prop where
  /-- A parameter or the result of a method mentions the class. -/
  | method {service : Service} {m : Method} {r : Signature} {id : ClassId}
      (listed : service ∈ services) (method : m ∈ service.methods)
      (mentioned : r ∈ mentions m.signatures) (behind : r.descriptor = some id) :
      Reachable u services exceptions id
  /-- A field or subtype of a struct that describes an exception mentions the class. -/
  | exception {target : Annotation} {st : Struct} {r : Signature} {id : ClassId}
      (listed : target ∈ exceptions)
      (described : (Resolver.default.resolve u target).outcome = .ok (some (.struct st)))
      (mentioned : r ∈ mentions st.signatures) (behind : r.descriptor = some id) :
      Reachable u services exceptions id
  /-- A field or subtype of the struct that describes a reachable class mentions the class. -/
  | struct {c : ClassId} {st : Struct} {r : Signature} {id : ClassId}
      (reached : Reachable u services exceptions c)
      (described : (Resolver.default.resolve u (.cls c)).outcome = .ok (some (.struct st)))
      (mentioned : r ∈ mentions st.signatures) (behind : r.descriptor = some id) :
      Reachable u services exceptions id

/-- The structs and enums of a specification. -/
def Specification.definitions (spec : Specification) : List Definition :=
  spec.structs.map .struct ++ spec.enums.map .enum

namespace Specification

variable {spec spec' : Specification}

theorem mem_structs {st : Struct} : st ∈ spec.structs ↔ .struct st ∈ spec.definitions := by
  simp [definitions]

theorem mem_enums {e : Enumeration} : e ∈ spec.enums ↔ .enum e ∈ spec.definitions := by
  simp [definitions]

/-- Specifications with the same definitions and no name twice hold the same structs and enums,
in whatever order. -/
theorem perm_of_definitions (hnames : (spec.definitions.map Definition.name).Nodup)
    (hnames' : (spec'.definitions.map Definition.name).Nodup)
    (hsame : ∀ d, d ∈ spec'.definitions ↔ d ∈ spec.definitions) :
    spec'.structs.Perm spec.structs ∧ spec'.enums.Perm spec.enums := by
  have hnodup (spec : Specification) (h : (spec.definitions.map Definition.name).Nodup) :
      spec.structs.Nodup ∧ spec.enums.Nodup := by
    have hparts := List.nodup_append.1 (List.Nodup.of_map _ h)
    exact ⟨hparts.1.of_map _, hparts.2.1.of_map _⟩
  obtain ⟨hstructs, henums⟩ := hnodup spec hnames
  obtain ⟨hstructs', henums'⟩ := hnodup spec' hnames'
  constructor
  · refine (List.perm_ext_iff_of_nodup hstructs' hstructs).2 fun st => ?_
    rw [mem_structs, mem_structs, hsame]
  · refine (List.perm_ext_iff_of_nodup henums' henums).2 fun e => ?_
    rw [mem_enums, mem_enums, hsame]

end Specification

/-- What a struct that describes a class mentions are the successors of its signatures. -/
theorem Universe.successors_of_resolve {u : Universe} {s : Signature} {id : ClassId} {st : Struct}
    (hid : s.descriptor = some id)
    (h : (Resolver.default.resolve u (.cls id)).outcome = .ok (some (.struct st))) :
    u.successors s = mentions st.signatures := by
  rw [successors, definition?_of_resolve hid h]
  simp [answerMentions, Definition.struct?]

theorem mem_mentions_serviceSignatures {services : List Service} {r : Signature} :
    r ∈ mentions (serviceSignatures services) ↔
      ∃ service ∈ services, ∃ m ∈ service.methods, r ∈ mentions m.signatures := by
  simp only [mentions, serviceSignatures, List.mem_flatMap]
  constructor
  · rintro ⟨s, ⟨m, ⟨service, hservice, hm⟩, hs⟩, hr⟩
    exact ⟨service, hservice, m, hm, s, hs, hr⟩
  · rintro ⟨service, hservice, m, hm, s, hs, hr⟩
    exact ⟨s, ⟨m, ⟨service, hservice, hm⟩, hs⟩, hr⟩

namespace Universe

variable {u : Universe} {services : List Service} {exceptions : List Annotation}

theorem reachable_of_mem_searchRoots {answers : List (Option Definition)}
    (hanswers : List.Forall₂ (fun target answer =>
      (Resolver.default.resolve u target).outcome = .ok answer) exceptions answers)
    {r : Signature} (hr : r ∈ searchRoots services answers) {id : ClassId}
    (hid : r.descriptor = some id) : u.Reachable services exceptions id := by
  rcases mem_searchRoots.1 hr with hr | ⟨st, hst, hr⟩
  · obtain ⟨service, hservice, m, hm, hr⟩ := mem_mentions_serviceSignatures.1 hr
    exact .method hservice hm hr hid
  · obtain ⟨c, hc, hresolve⟩ := exists_class_of_answeredStructs hanswers hst
    exact .exception hc hresolve hr hid

/-- The classes that the answer for a reachable class mentions are reachable. -/
theorem reachable_of_mem_answerMentions {c : ClassId} {answer : Option Definition}
    (hreach : u.Reachable services exceptions c)
    (hresolve : (Resolver.default.resolve u (.cls c)).outcome = .ok answer)
    {r : Signature} (hr : r ∈ answerMentions answer) {id : ClassId}
    (hid : r.descriptor = some id) : u.Reachable services exceptions id := by
  match answer, hr with
  | some (.struct st), hr =>
    exact .struct hreach hresolve (by simpa [answerMentions, Definition.struct?] using hr) hid

end Universe

/-- Definitions are listed apart from each other as structs and enums. -/
theorem partition_perm (all : List Definition) :
    ((all.filterMap Definition.struct?).map Definition.struct
      ++ (all.filterMap Definition.enum?).map Definition.enum).Perm all := by
  induction all with
  | nil => exact .nil
  | cons d rest ih =>
    cases d with
    | struct s => exact ih.cons _
    | enum e => exact List.perm_middle.trans (ih.cons _)

/-- The names of definitions are among those of the signatures in front of them, in order. -/
theorem Universe.names_sublist {u : Universe} {taken : List Signature}
    (h : ∀ s ∈ taken, u.Resolves s) :
    ((u.definitionsBehind taken).map Definition.name).Sublist (taken.map (·.name)) := by
  induction taken with
  | nil => exact .slnil
  | cons s rest ih =>
    have hrest := ih fun t ht => h t (List.mem_cons_of_mem s ht)
    rw [definitionsBehind, List.filterMap_cons]
    cases hd : u.definition? s with
    | none => exact hrest.cons _
    | some d =>
      rw [List.map_cons, List.map_cons, (h s List.mem_cons_self).name hd]
      exact hrest.cons_cons _

/-- The signatures that a search comes across: its roots, and what the definitions behind taken
signatures mention. -/
def Mentioned (u : Universe) (services : List Service) (answers : List (Option Definition))
    (taken : List Signature) (r : Signature) : Prop :=
  r ∈ searchRoots services answers ∨ ∃ s ∈ taken, r ∈ u.successors s

namespace Search

variable {u : Universe} {services : List Service} {exceptions : List Annotation}
variable {answers : List (Option Definition)} {taken : List Signature} {spec : Specification}

theorem nodup (h : Search u services exceptions answers taken spec) :
    (taken.map (·.name)).Nodup := by
  rw [h.complete]
  simpa using nodup_fresh List.nodup_nil (searchRoots services answers ++ _)

theorem mentioned_of_taken (h : Search u services exceptions answers taken spec) {s : Signature}
    (hs : s ∈ taken) : Mentioned u services answers taken s := by
  rw [h.complete] at hs
  rcases List.mem_append.1 (mem_of_mem_fresh hs) with hs | hs
  · exact .inl hs
  · exact .inr (List.mem_flatMap.1 hs)

/-- A class stands behind every mention. -/
theorem labelled (h : Search u services exceptions answers taken spec) {r : Signature}
    (hr : Mentioned u services answers taken r) : u.Labelled r := by
  rcases hr with hr | ⟨s, hs, hr⟩
  · exact labelled_searchRoots h.grounded h.answered r hr
  · exact (h.resolved s hs).labelled_successors r hr

/-- **Every class that is mentioned was taken**, if different classes have different names. -/
theorem class_taken (h : Search u services exceptions answers taken spec)
    (hdistinct : u.DistinctNames) {r : Signature} {id : ClassId}
    (hr : Mentioned u services answers taken r) (hid : r.descriptor = some id) :
    ∃ s ∈ taken, s.descriptor = some id := by
  -- a signature of the same name was taken; only its name says that the class is the same
  have hname : r.name ∈ taken.map (·.name) := by
    have hmem : r ∈ searchRoots services answers ++ taken.flatMap u.successors := by
      rw [List.mem_append, List.mem_flatMap]
      exact hr
    have hknown : r.name ∈ [] ++ (fresh [] _).map (·.name) := name_mem_of_mem hmem
    rwa [← h.complete, List.nil_append] at hknown
  obtain ⟨s, hs, hsr⟩ := List.mem_map.1 hname
  obtain ⟨c, hc, hrname, hcclass⟩ := h.labelled hr
  obtain ⟨d, hd, hsname, hdclass⟩ := h.labelled (h.mentioned_of_taken hs)
  obtain rfl : id = c := Option.some.inj (hid.symm.trans hc)
  have hsame : d = id := hdistinct d hdclass id hcclass (by rw [← hsname, ← hrname, hsr])
  exact ⟨s, hs, hsame ▸ hd⟩

/-- What holds of the roots and is handed on to successors holds of all that is taken. That the
list of what was taken is closed under successors would not do: it has to be known that each
signature was mentioned before it was taken, so the induction is on how many were taken before. -/
theorem taken_induction (h : Search u services exceptions answers taken spec)
    {P : Signature → Prop} (hroots : ∀ r ∈ searchRoots services answers, P r)
    (hsuccessors : ∀ s ∈ taken, P s → ∀ r ∈ u.successors s, P r) : ∀ s ∈ taken, P s := by
  have hsplit : ∀ (n : Nat) (before : List Signature) (s : Signature) (after : List Signature),
      before.length = n → taken = before ++ s :: after → P s := by
    intro n
    induction n using Nat.strongRecOn with
    | ind n ih =>
      intro before s after hn htaken
      obtain ⟨more, hmore⟩ := h.order before s after htaken
      have hs : s ∈ fresh [] (searchRoots services answers ++ before.flatMap u.successors) := by
        rw [← hmore]
        simp
      rcases List.mem_append.1 (mem_of_mem_fresh hs) with hs | hs
      · exact hroots s hs
      · obtain ⟨t, ht, hst⟩ := List.mem_flatMap.1 hs
        -- the signature whose definition mentions this one stands further in front
        obtain ⟨earlier, later, rfl⟩ := List.append_of_mem ht
        have htaken' : taken = earlier ++ t :: (later ++ s :: after) := by
          rw [htaken]
          simp
        have hlength : earlier.length < n := by
          rw [← hn]
          simp
        refine hsuccessors t ?_ (ih _ hlength earlier t _ rfl htaken') s hst
        rw [htaken']
        simp
  intro s hs
  obtain ⟨before, after, htaken⟩ := List.append_of_mem hs
  exact hsplit before.length before s after rfl htaken

/-- **The search takes the signatures of reachable classes, and all of them.** -/
theorem reachable_iff (h : Search u services exceptions answers taken spec)
    (hdistinct : u.DistinctNames) {id : ClassId} :
    u.Reachable services exceptions id ↔ ∃ s ∈ taken, s.descriptor = some id := by
  constructor
  · intro hreach
    induction hreach with
    | @method service m r id listed method mentioned behind =>
      have hr := mem_mentions_serviceSignatures.2 ⟨service, listed, m, method, mentioned⟩
      exact h.class_taken hdistinct (.inl (mem_searchRoots.2 (.inl hr))) behind
    | @exception target st r id listed described mentioned behind =>
      obtain ⟨answer, hanswer, hresolve⟩ := exists_right_of_forall₂ h.answered listed
      obtain rfl := Except.ok.inj (described.symm.trans hresolve)
      exact h.class_taken hdistinct
        (.inl (mem_searchRoots.2 (.inr ⟨st, mem_answeredStructs.2 hanswer, mentioned⟩))) behind
    | @struct c st r id _ described mentioned behind ih =>
      obtain ⟨s, hs, hc⟩ := ih
      refine h.class_taken hdistinct (.inr ⟨s, hs, ?_⟩) behind
      rw [Universe.successors_of_resolve hc described]
      exact mentioned
  · rintro ⟨s, hs, hid⟩
    refine h.taken_induction (P := fun s => ∀ id, s.descriptor = some id →
      u.Reachable services exceptions id) ?_ ?_ s hs id hid
    · intro r hr id hid
      exact Universe.reachable_of_mem_searchRoots h.answered hr hid
    · intro s hs hreach r hr id hid
      obtain ⟨c, hc, -, hresolve⟩ := h.resolved s hs
      exact Universe.reachable_of_mem_answerMentions (hreach c hc) hresolve hr hid

/-! ## The definitions that are collected -/

theorem definitions_perm (h : Search u services exceptions answers taken spec) :
    spec.definitions.Perm (u.definitionsBehind taken) := by
  rw [h.assembled]
  exact partition_perm (u.definitionsBehind taken)

/-- A definition is collected exactly if it is behind a signature that was taken. -/
theorem mem_definitions (h : Search u services exceptions answers taken spec) {d : Definition} :
    d ∈ spec.definitions ↔ ∃ s ∈ taken, u.definition? s = some d := by
  rw [h.definitions_perm.mem_iff, Universe.definitionsBehind, List.mem_filterMap]

/-- No name is defined twice. -/
theorem names_nodup (h : Search u services exceptions answers taken spec) :
    (spec.definitions.map Definition.name).Nodup := by
  rw [(h.definitions_perm.map Definition.name).nodup_iff]
  exact (Universe.names_sublist h.resolved).nodup h.nodup

/-- **What is collected are the definitions of the reachable classes.** -/
theorem mem_definitions_iff (h : Search u services exceptions answers taken spec)
    (hdistinct : u.DistinctNames) (d : Definition) :
    d ∈ spec.definitions ↔ ∃ c, u.Reachable services exceptions c ∧
      (Resolver.default.resolve u (.cls c)).outcome = .ok (some d) := by
  rw [h.mem_definitions]
  constructor
  · rintro ⟨s, hs, hd⟩
    obtain ⟨c, hc, -, hresolve⟩ := h.resolved s hs
    exact ⟨c, (h.reachable_iff hdistinct).2 ⟨s, hs, hc⟩, hd ▸ hresolve⟩
  · rintro ⟨c, hreach, hresolve⟩
    obtain ⟨s, hs, hc⟩ := (h.reachable_iff hdistinct).1 hreach
    exact ⟨s, hs, Universe.definition?_of_resolve hc hresolve⟩

theorem resolves_of_reachable (h : Search u services exceptions answers taken spec)
    (hdistinct : u.DistinctNames) {c : ClassId} (hreach : u.Reachable services exceptions c) :
    ∃ answer, (Resolver.default.resolve u (.cls c)).outcome = .ok answer := by
  obtain ⟨s, hs, hc⟩ := (h.reachable_iff hdistinct).1 hreach
  obtain ⟨c', hc', -, hresolve⟩ := h.resolved s hs
  obtain rfl : c = c' := Option.some.inj (hc.symm.trans hc')
  exact ⟨_, hresolve⟩

end Search

/-! ## When a specification is assembled -/

/-- A specification is assembled if every method has a result type, every exception is answered
and every reachable class is resolved. -/
theorem Universe.specification_succeeds {u : Universe} {services : List Service}
    {resolver : Option Resolver} {exceptions : List Annotation}
    {answers : List (Option Definition)} (hresolver : effectiveResolver resolver = .default)
    (hresults : ∀ m ∈ services.flatMap (·.methods), m.returnType.isSome = true)
    (hanswers : List.Forall₂ (fun target answer =>
      (Resolver.default.resolve u target).outcome = .ok answer) exceptions answers)
    (hreach : ∀ c, u.Reachable services exceptions c →
      ∃ answer, (Resolver.default.resolve u (.cls c)).outcome = .ok answer) :
    ∃ spec, (u.specification services resolver exceptions).outcome = .ok spec := by
  have hwalk : ∃ c, ((Assembly.start u (serviceSignatures services
      ++ (answeredStructs answers).flatMap Struct.signatures)
      (answeredStructs answers)).walk u Resolver.default).outcome = .ok c := by
    refine Assembly.walk_succeeds (P := fun s => ∀ id, s.descriptor = some id →
      u.Reachable services exceptions id) ?_ _ ?_
    · intro s c hs hc
      obtain ⟨answer, hanswer⟩ := hreach c (hs c hc)
      refine ⟨answer, hanswer, ?_⟩
      intro r hr id hid
      exact reachable_of_mem_answerMentions (hs c hc) hanswer hr hid
    · intro s hs id hid
      rw [Assembly.start, Assembly.enqueueAll_eq] at hs
      exact reachable_of_mem_searchRoots hanswers (mem_of_mem_fresh hs) hid
  obtain ⟨c, hc⟩ := hwalk
  refine ⟨_, specification_eq_ok.2 ⟨hresults, answers, ?_, c, ?_, rfl⟩⟩
  · rw [hresolver]
    exact hanswers
  · rw [hresolver]
    exact hc

/-! ## Orders that do not matter -/

/-- The same method with its parameters in any order. -/
def Method.Rearranged (m m' : Method) : Prop :=
  ∃ parameters, m.parameters.Perm parameters ∧ m' = { m with parameters }

/-- The same service with its methods in any order, and each of them with its parameters. -/
def Service.Rearranged (s s' : Service) : Prop :=
  ∃ methods, List.Forall₂ Method.Rearranged s.methods methods ∧
    ∃ methods', methods.Perm methods' ∧ s' = { s with methods := methods' }

/-- The same services in any order, and each of them with its methods. -/
def Rearranged (services services' : List Service) : Prop :=
  ∃ all, List.Forall₂ Service.Rearranged services all ∧ all.Perm services'

theorem Method.Rearranged.mem_signatures {m m' : Method} (h : m.Rearranged m') {s : Signature} :
    s ∈ m'.signatures ↔ s ∈ m.signatures := by
  obtain ⟨parameters, hperm, rfl⟩ := h
  simp only [Method.signatures, List.mem_append, (hperm.map _).mem_iff]

/-- The methods of a rearranged service are those of the service, rearranged. -/
theorem Service.Rearranged.exists_method {s s' : Service} (h : s.Rearranged s') :
    (∀ m' ∈ s'.methods, ∃ m ∈ s.methods, m.Rearranged m') ∧
      ∀ m ∈ s.methods, ∃ m' ∈ s'.methods, m.Rearranged m' := by
  obtain ⟨methods, hall, methods', hperm, rfl⟩ := h
  constructor
  · intro m' hm'
    exact exists_left_of_forall₂ hall (hperm.mem_iff.2 hm')
  · intro m hm
    obtain ⟨m', hm', hmm'⟩ := exists_right_of_forall₂ hall hm
    exact ⟨m', hperm.mem_iff.1 hm', hmm'⟩

namespace Rearranged

variable {services services' : List Service}

/-- The methods of rearranged services are those of the services, rearranged. -/
theorem exists_method (h : Rearranged services services') :
    (∀ m' ∈ services'.flatMap (·.methods),
        ∃ m ∈ services.flatMap (·.methods), m.Rearranged m') ∧
      ∀ m ∈ services.flatMap (·.methods),
        ∃ m' ∈ services'.flatMap (·.methods), m.Rearranged m' := by
  obtain ⟨all, hall, hperm⟩ := h
  constructor
  · intro m' hm'
    obtain ⟨s', hs', hm'⟩ := List.mem_flatMap.1 hm'
    obtain ⟨s, hs, hss'⟩ := exists_left_of_forall₂ hall (hperm.mem_iff.2 hs')
    obtain ⟨m, hm, hmm'⟩ := hss'.exists_method.1 m' hm'
    exact ⟨m, List.mem_flatMap.2 ⟨s, hs, hm⟩, hmm'⟩
  · intro m hm
    obtain ⟨s, hs, hm⟩ := List.mem_flatMap.1 hm
    obtain ⟨s', hs', hss'⟩ := exists_right_of_forall₂ hall hs
    obtain ⟨m', hm', hmm'⟩ := hss'.exists_method.2 m hm
    exact ⟨m', List.mem_flatMap.2 ⟨s', hperm.mem_iff.1 hs', hm'⟩, hmm'⟩

/-- Rearranged services mention the same types. -/
theorem mem_serviceSignatures (h : Rearranged services services') {s : Signature} :
    s ∈ serviceSignatures services' ↔ s ∈ serviceSignatures services := by
  simp only [serviceSignatures, List.mem_flatMap (l := services'.flatMap _),
    List.mem_flatMap (l := services.flatMap _)]
  constructor
  · rintro ⟨m', hm', hs⟩
    obtain ⟨m, hm, hmm'⟩ := h.exists_method.1 m' hm'
    exact ⟨m, hm, hmm'.mem_signatures.1 hs⟩
  · rintro ⟨m, hm, hs⟩
    obtain ⟨m', hm', hmm'⟩ := h.exists_method.2 m hm
    exact ⟨m', hm', hmm'.mem_signatures.2 hs⟩

end Rearranged

/-- More mentions make more classes reachable. -/
theorem Universe.Reachable.mono {u : Universe} {services services' : List Service}
    {exceptions : List Annotation}
    (hsub : ∀ s ∈ serviceSignatures services, s ∈ serviceSignatures services') {c : ClassId}
    (h : u.Reachable services exceptions c) : u.Reachable services' exceptions c := by
  induction h with
  | @method service m r id listed method mentioned behind =>
    have hr := mem_mentions_serviceSignatures.2 ⟨service, listed, m, method, mentioned⟩
    obtain ⟨s, hs, hrs⟩ := List.mem_flatMap.1 hr
    have hr' : r ∈ mentions (serviceSignatures services') :=
      List.mem_flatMap.2 ⟨s, hsub s hs, hrs⟩
    obtain ⟨service', hservice', m', hm', hr'⟩ := mem_mentions_serviceSignatures.1 hr'
    exact .method hservice' hm' hr' behind
  | exception listed described mentioned behind =>
    exact .exception listed described mentioned behind
  | struct _ described mentioned behind ih => exact .struct ih described mentioned behind

/-- Services in another order make the same classes reachable. -/
theorem Rearranged.reachable_iff {u : Universe} {services services' : List Service}
    (h : Rearranged services services') {exceptions : List Annotation} {c : ClassId} :
    u.Reachable services' exceptions c ↔ u.Reachable services exceptions c := by
  constructor
  · exact Universe.Reachable.mono fun s hs => h.mem_serviceSignatures.1 hs
  · exact Universe.Reachable.mono fun s hs => h.mem_serviceSignatures.2 hs

/-! ## The definitions of a specification -/

/-- The signatures of services that were read off classes are grounded. -/
theorem grounded_of_classes {u : Universe} {services : List Service}
    (h : ∀ s ∈ services, ∃ target name, (u.service target name).outcome = .ok s) :
    ∀ m ∈ services.flatMap (·.methods), u.GroundedMethod m := by
  intro m hm
  obtain ⟨s, hs, hm⟩ := List.mem_flatMap.1 hm
  obtain ⟨target, name, hservice⟩ := h s hs
  exact Universe.grounded_service hservice m hm

/-- A specification of services that were read off classes is assembled by a search. -/
theorem exists_search_of_classes {u : Universe} {services : List Service}
    {resolver : Option Resolver} {exceptions : List Annotation} {spec : Specification}
    (hservices : ∀ s ∈ services, ∃ target name, (u.service target name).outcome = .ok s)
    (hresolver : Universe.effectiveResolver resolver = Resolver.default)
    (h : (u.specification services resolver exceptions).outcome = .ok spec) :
    ∃ answers taken, Search u services exceptions answers taken spec := by
  refine exists_search ?_ hresolver h
  intro s hs
  obtain ⟨m, hm, hs⟩ := List.mem_flatMap.1 hs
  exact (grounded_of_classes hservices m hm).signatures s hs

/-- **A specification of classes holds the definitions of the reachable classes, each once.**
Services, methods and parameters in another order make a specification of the same structs and
enums. -/
theorem specification_holds_reachable {u : Universe} {services : List Service}
    {resolver : Option Resolver} {exceptions : List Annotation} {spec : Specification}
    (hdistinct : u.DistinctNames)
    (hservices : ∀ s ∈ services, ∃ target name, (u.service target name).outcome = .ok s)
    (hresolver : Universe.effectiveResolver resolver = Resolver.default)
    (h : (u.specification services resolver exceptions).outcome = .ok spec) :
    (∀ d, d ∈ spec.definitions ↔ ∃ c, u.Reachable services exceptions c ∧
      (Resolver.default.resolve u (.cls c)).outcome = .ok (some d)) ∧
    (∀ c, u.Reachable services exceptions c →
      ∃ answer, (Resolver.default.resolve u (.cls c)).outcome = .ok answer) ∧
    (spec.definitions.map Definition.name).Nodup ∧
    ∀ services', Rearranged services services' →
      ∃ spec', (u.specification services' resolver exceptions).outcome = .ok spec' ∧
        spec'.structs.Perm spec.structs ∧ spec'.enums.Perm spec.enums := by
  obtain ⟨answers, taken, hsearch⟩ := exists_search_of_classes hservices hresolver h
  have hresolved : ∀ c, u.Reachable services exceptions c →
      ∃ answer, (Resolver.default.resolve u (.cls c)).outcome = .ok answer :=
    fun c hc => hsearch.resolves_of_reachable hdistinct hc
  refine ⟨hsearch.mem_definitions_iff hdistinct, hresolved, hsearch.names_nodup, ?_⟩
  -- the rearranged services are assembled too, and their search finds the same classes
  intro services' hrearranged
  have hresults : ∀ m ∈ services'.flatMap (·.methods), m.returnType.isSome = true := by
    intro m' hm'
    obtain ⟨m, hm, parameters, -, rfl⟩ := hrearranged.exists_method.1 m' hm'
    exact (grounded_of_classes hservices m hm).result
  obtain ⟨spec', hspec'⟩ := Universe.specification_succeeds hresolver hresults hsearch.answered
    fun c hc => hresolved c (hrearranged.reachable_iff.1 hc)
  have hgrounded' : ∀ s ∈ serviceSignatures services', u.Grounded s :=
    fun s hs => hsearch.grounded s (hrearranged.mem_serviceSignatures.1 hs)
  obtain ⟨answers', taken', hsearch'⟩ := exists_search hgrounded' hresolver hspec'
  refine ⟨spec', hspec', Specification.perm_of_definitions hsearch.names_nodup
    hsearch'.names_nodup fun d => ?_⟩
  simp only [hsearch.mem_definitions_iff hdistinct, hsearch'.mem_definitions_iff hdistinct,
    hrearranged.reachable_iff]

/-! ## A small zoo

A union of two structs, one of which mentions an enum and itself, the other the union. An
exception mentions one of the two, so its struct is found before that of the other. -/

/-- The classes of a zoo and a park; the service classes come last. -/
def zooClasses : Universe where
  classes := [
    { name := "Color", module := "m", qualname := "Color"
      kind := .enumeration none [("BLACK", .int 0), ("WHITE", .int 1)] },
    { name := "Animal", module := "m", qualname := "Animal", typeProperty := some "kind"
      subtypes := some [("cat", .declared 2), ("dog", .declared 3)] },
    { name := "Cat", module := "m", qualname := "Cat", bases := [.declared 1]
      fields := [
        { name := "kittens"
          type := .applied (.cls (.standard (.builtin "dict"))) [.declared 0, .text "Cat"] }] },
    { name := "Dog", module := "m", qualname := "Dog", bases := [.declared 1]
      fields := [
        { name := "friends"
          type := .applied (.cls (.standard (.builtin "list"))) [.text "Animal"] }] },
    { name := "Escape", module := "m", qualname := "Escape"
      bases := [.standard (.builtin "Exception")]
      fields := [{ name := "dog", type := .declared 3 }] },
    { name := "Zoo", module := "m", qualname := "Zoo"
      members := [("add", .function
        { name := "add"
          parameters := [
            { name := "self" }, { name := "animal", type := some (.declared 1) }] })] },
    { name := "Park", module := "m", qualname := "Park"
      members := [("walk", .function
        { name := "walk"
          parameters := [
            { name := "self" }, { name := "dog", type := some (.declared 3) },
            { name := "cat", type := some (.declared 2) }] })] }]

/-- The service of the zoo. -/
def zooService : Service where
  name := "Zoo"
  methods := [
    { service := "Zoo", name := "add", returnType := some (.base "void")
      parameters := [
        { name := "animal", type := .struct "m.Animal" (some (.declared 1))
          requirement := .required }]
      endpoints := [{ path := "/Zoo/add" }] }]

/-- The specification of the zoo. -/
def zooSpecification : Specification where
  services := [zooService]
  enums := [
    { name := "m.Color"
      values := [
        { name := "BLACK", intValue := some 0 }, { name := "WHITE", intValue := some 1 }] }]
  structs := [
    { name := "m.Animal"
      union := some
        { subtypes := [.struct "m.Cat" (some (.declared 2)), .struct "m.Dog" (some (.declared 3))]
          discriminator := ⟨"kind", by decide⟩
          subtypes_ne_nil := by decide } },
    { name := "m.Dog"
      fields := [
        { name := "friends", type := .listOf (.struct "m.Animal" (some (.declared 1)))
          requirement := .required }] },
    { name := "m.Cat"
      fields := [
        { name := "kittens"
          type := .mapOf (.enum "m.Color" (some (.declared 0)))
            (.struct "m.Cat" (some (.declared 2)))
          requirement := .required }] }]
  exceptions := [
    { name := "m.Escape"
      fields := [
        { name := "dog", type := .struct "m.Dog" (some (.declared 3))
          requirement := .required }] }]

/-- The classes of the zoo have different names. -/
theorem zooClasses_distinctNames : zooClasses.DistinctNames :=
  Universe.distinctNames_of_declared (by decide) (by decide +kernel)

/-- The service of the zoo is read off its class. -/
theorem zooService_of_class :
    ∀ s ∈ [zooService], ∃ target name, (zooClasses.service target name).outcome = .ok s := by
  intro s hs
  obtain rfl := List.mem_singleton.1 hs
  exact ⟨.cls (.declared 5), none, by decide +kernel⟩

/-- What the classes of the zoo are described by, in the order in which they are resolved. -/
theorem resolve_zooClasses :
    ([.declared 1, .declared 3, .declared 2, .declared 0, .declared 4] : List ClassId).map
        (fun c => (Resolver.default.resolve zooClasses (.cls c)).outcome)
      = (zooSpecification.definitions ++ zooSpecification.exceptions.map Definition.struct).map
        (fun d => .ok (some d)) := by
  decide +kernel

/-- The specification of the zoo is assembled, by a walk of four turns. -/
theorem zooClasses_specification :
    (zooClasses.specification [zooService] none [.cls (.declared 4)]).outcome
      = .ok zooSpecification := by
  have hall := resolve_zooClasses
  simp only [List.map_cons, List.map_nil, Specification.definitions, zooSpecification,
    List.cons_append, List.nil_append, List.cons.injEq, and_true] at hall
  obtain ⟨hanimal, hdog, hcat, hcolor, hescape⟩ := hall
  exact Universe.specification_eq_ok.2 ⟨by decide, _, .cons hescape .nil, _,
    Assembly.walk_eq_ok.2 ⟨_,
      .turn (.resolved rfl rfl (by decide) hanimal)
        (.turn (.resolved rfl rfl (by decide) hdog)
          (.turn (.resolved rfl rfl (by decide) hcat)
            (.turn (.resolved rfl rfl (by decide) hcolor) (.done rfl))))⟩, rfl⟩

/-- The service of the park with the parameters of its method. -/
def parkService (parameters : List Field) : Service where
  name := "Park"
  methods := [
    { service := "Park", name := "walk", returnType := some (.base "void"), parameters
      endpoints := [{ path := "/Park/walk" }] }]

/-- A dog and a cat. -/
def walkers : List Field := [
  { name := "dog", type := .struct "m.Dog" (some (.declared 3)), requirement := .required },
  { name := "cat", type := .struct "m.Cat" (some (.declared 2)), requirement := .required }]

/-- The services of the zoo and the park. -/
def zooAndPark : List Service := [zooService, parkService walkers]

/-- The same services with that of the park first, where the cat comes before the dog. -/
def parkAndZoo : List Service := [parkService walkers.reverse, zooService]

theorem zooAndPark_of_classes :
    ∀ s ∈ zooAndPark, ∃ target name, (zooClasses.service target name).outcome = .ok s :=
  List.forall_mem_cons.2 ⟨zooService_of_class _ List.mem_cons_self,
    List.forall_mem_singleton.2 ⟨.cls (.declared 6), none, by decide +kernel⟩⟩

theorem rearranged_zooAndPark : Rearranged zooAndPark parkAndZoo := by
  have hzoo : zooService.Rearranged zooService :=
    ⟨_, .cons ⟨_, .rfl, rfl⟩ .nil, _, .rfl, rfl⟩
  have hpark : (parkService walkers).Rearranged (parkService walkers.reverse) :=
    ⟨_, .cons ⟨_, (List.reverse_perm walkers).symm, rfl⟩ .nil, _, .rfl, rfl⟩
  exact ⟨_, .cons hzoo (.cons hpark .nil), .swap _ _ _⟩

/-- With the park nothing more is found, and the exception is left out. -/
theorem zooAndPark_specification : (zooClasses.specification zooAndPark none []).outcome
    = .ok { zooSpecification with services := zooAndPark, exceptions := [] } := by
  have hall := resolve_zooClasses
  simp only [List.map_cons, List.map_nil, Specification.definitions, zooSpecification,
    List.cons_append, List.nil_append, List.cons.injEq] at hall
  obtain ⟨hanimal, hdog, hcat, hcolor, -⟩ := hall
  exact Universe.specification_eq_ok.2 ⟨by decide, _, .nil, _,
    Assembly.walk_eq_ok.2 ⟨_,
      .turn (.resolved rfl rfl (by decide) hanimal)
        (.turn (.resolved rfl rfl (by decide) hdog)
          (.turn (.resolved rfl rfl (by decide) hcat)
            (.turn (.resolved rfl rfl (by decide) hcolor) (.done rfl))))⟩, rfl⟩

/-- The zoo meets all that is asked, and its specification holds what is reachable. With the park the
services can be rearranged, and the specification holds the same structs and enums. -/
theorem zooSpecification_holds_reachable :
    (zooClasses.specification [zooService] none [.cls (.declared 4)]).outcome
      = .ok zooSpecification ∧
    (∀ d, d ∈ zooSpecification.definitions ↔
      ∃ c, zooClasses.Reachable [zooService] [.cls (.declared 4)] c ∧
        (Resolver.default.resolve zooClasses (.cls c)).outcome = .ok (some d)) ∧
    ∃ spec, (zooClasses.specification parkAndZoo none []).outcome = .ok spec ∧
      spec.structs.Perm zooSpecification.structs ∧ spec.enums.Perm zooSpecification.enums := by
  obtain ⟨hdefinitions, -⟩ := specification_holds_reachable zooClasses_distinctNames
    zooService_of_class rfl zooClasses_specification
  obtain ⟨-, -, -, hrearranged⟩ := specification_holds_reachable zooClasses_distinctNames
    zooAndPark_of_classes rfl zooAndPark_specification
  exact ⟨zooClasses_specification, hdefinitions, hrearranged parkAndZoo rearranged_zooAndPark⟩

end ServiceSchema

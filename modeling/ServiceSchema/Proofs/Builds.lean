/-
How long a specification takes to build, and how often its chain of resolvers is consulted.

The builder looks at all methods, consults the chain about each exception and then runs the
loop. Its end is one of three: a method without a result type, an exception that the chain
raises for, and the end of the loop. Each name is queued once; so the rounds of the loop are as
many as there are names, and each of them consults the chain once at most.
-/
import ServiceSchema.Proofs.Reachability
import ServiceSchema.Proofs.Worklist

set_option autoImplicit false

namespace ServiceSchema

open Log.Traced

/-! ## Builds -/

namespace Universe

variable {u : Universe} {chain : Resolver} {services : List Service} {exceptions : List Annotation}

/-- The state in which the loop starts, once the exceptions are answered. -/
def ready (u : Universe) (services : List Service) (answers : List (Option Definition)) :
    Assembly :=
  Assembly.start u (serviceSignatures services
    ++ (answeredStructs answers).flatMap Struct.signatures) (answeredStructs answers)

/-- All that is queued at the start are first mentions, and their names are visited. -/
theorem ready_eq (answers : List (Option Definition)) :
    u.ready services answers =
      { exceptions := answeredStructs answers
        visited := (fresh [] (searchRoots services answers)).map (·.name)
        queue := fresh [] (searchRoots services answers)
        pending := u.allClasses } := by
  rw [ready, Assembly.start, Assembly.enqueueAll_eq]
  rfl

/-- The answers of a chain to several consultations, one for each. -/
def Answers (u : Universe) (chain : Resolver) : List Annotation → List (Option Definition) → Prop :=
  List.Forall₂ fun target answer => (chain.resolve u target).outcome = .ok answer

/-- The builder from its start to its end: what it consults the chain about, the signatures that
the rounds of its loop take off the queue, and its result. It looks at all methods before it
consults the chain about the first exception, and at all exceptions before the loop. -/
inductive Build (u : Universe) (chain : Resolver) (services : List Service)
    (exceptions : List Annotation) :
    List Annotation → List Signature → Except ClassError Specification → Prop where
  | noResult {m : Method} (listed : m ∈ services.flatMap (·.methods))
      (missing : m.returnType = none) : Build u chain services exceptions [] [] (.error .noResult)
  | raised {before after : List Annotation} {target : Annotation}
      {answers : List (Option Definition)} {e : ClassError}
      (results : ∀ m ∈ services.flatMap (·.methods), m.returnType.isSome = true)
      (split : exceptions = before ++ target :: after)
      (answered : u.Answers chain before answers)
      (error : (chain.resolve u target).outcome = .error e) :
      Build u chain services exceptions (before ++ [target]) [] (.error e)
  | looped {answers : List (Option Definition)} {popped : List Signature} {asked : List ClassId}
      {result : Except ClassError Assembly}
      (results : ∀ m ∈ services.flatMap (·.methods), m.returnType.isSome = true)
      (answered : u.Answers chain exceptions answers)
      (loop : Assembly.Loop u chain (u.ready services answers) popped asked result) :
      Build u chain services exceptions (exceptions ++ asked.map .cls) popped
        (result.map (Assembly.assembled services))

/-- Exceptions are answered one after another, until the chain raises. -/
theorem answered_or_raised (u : Universe) (chain : Resolver) (targets : List Annotation) :
    (∃ answers, u.Answers chain targets answers) ∨
    ∃ before target after answers e, targets = before ++ target :: after ∧
      u.Answers chain before answers ∧ (chain.resolve u target).outcome = .error e := by
  induction targets with
  | nil => exact .inl ⟨[], .nil⟩
  | cons target rest ih =>
    cases hresolve : (chain.resolve u target).outcome with
    | error e => exact .inr ⟨[], target, rest, [], e, rfl, .nil, hresolve⟩
    | ok answer =>
      rcases ih with ⟨answers, hanswers⟩ | ⟨before, raising, after, answers, e, rfl, hanswers, he⟩
      · exact .inl ⟨answer :: answers, .cons hresolve hanswers⟩
      · exact .inr ⟨target :: before, raising, after, answer :: answers, e, rfl,
          .cons hresolve hanswers, he⟩

/-- **The builder comes to an end**, whatever it is given. -/
theorem exists_build (u : Universe) (chain : Resolver) (services : List Service)
    (exceptions : List Annotation) :
    ∃ consulted popped result, u.Build chain services exceptions consulted popped result := by
  by_cases hresults : ∀ m ∈ services.flatMap (·.methods), m.returnType.isSome = true
  · rcases u.answered_or_raised chain exceptions with
      ⟨answers, hanswers⟩ | ⟨before, target, after, answers, e, hsplit, hanswers, he⟩
    · have hvisited : (u.ready services answers).visited.Nodup := by
        rw [ready_eq]
        exact nodup_fresh List.nodup_nil (searchRoots services answers)
      obtain ⟨popped, asked, result, hloop⟩ := Assembly.exists_loop u chain hvisited
      exact ⟨_, _, _, .looped hresults hanswers hloop⟩
    · exact ⟨_, _, _, .raised hresults hsplit hanswers he⟩
  · rw [not_forall] at hresults
    obtain ⟨m, hm⟩ := hresults
    rw [Classical.not_imp] at hm
    exact ⟨_, _, _, .noResult hm.1 (by simpa using hm.2)⟩

/-- The exception that the chain raises for is where the answers end. -/
theorem takeWhile_answered {before : List Annotation} (after : List Annotation)
    {target : Annotation} {answers : List (Option Definition)} {e : ClassError}
    (hanswers : u.Answers chain before answers) (he : (chain.resolve u target).outcome = .error e) :
    (before ++ target :: after).takeWhile (fun t => (chain.resolve u t).outcome.isOk) = before := by
  have hbefore : ∀ t ∈ before, (chain.resolve u t).outcome.isOk = true := by
    intro t ht
    obtain ⟨answer, -, hanswer⟩ := exists_right_of_forall₂ hanswers ht
    rw [hanswer]
    rfl
  have htarget : ¬ (chain.resolve u target).outcome.isOk = true := by
    rw [he]
    exact Bool.false_ne_true
  have hstop : (target :: after).takeWhile (fun t => (chain.resolve u t).outcome.isOk) = [] :=
    List.takeWhile_cons_of_neg htarget
  rw [List.takeWhile_append_of_pos hbefore, hstop, List.append_nil]

/-- Exceptions that are answered have no other answers. -/
theorem answers_eq_map {answers : List (Option Definition)}
    (h : u.Answers chain exceptions answers) : answers = exceptions.map (u.answer? chain) := by
  have hmap := map_eq_map_of_forall₂ h (f := u.answer? chain) (g := id) fun target answer hanswer =>
    answer?_of_ok hanswer
  rw [hmap, List.map_id]

/-- The chain does not raise for an exception that is answered. -/
theorem outcome_ne_error {before after : List Annotation} {target : Annotation}
    {answers : List (Option Definition)} {e : ClassError}
    (hanswers : u.Answers chain exceptions answers)
    (hsplit : exceptions = before ++ target :: after) :
    (chain.resolve u target).outcome ≠ .error e := by
  have htarget : target ∈ exceptions := by
    rw [hsplit]
    exact List.mem_append_right _ List.mem_cons_self
  obtain ⟨answer, -, hanswer⟩ := exists_right_of_forall₂ hanswers htarget
  rw [hanswer]
  exact nofun

/-- The builder goes one way only. -/
theorem Build.unique {consulted consulted' : List Annotation} {popped popped' : List Signature}
    {result result' : Except ClassError Specification}
    (h : u.Build chain services exceptions consulted popped result)
    (h' : u.Build chain services exceptions consulted' popped' result') :
    consulted' = consulted ∧ popped' = popped ∧ result' = result := by
  have hmissing : ∀ m ∈ services.flatMap (·.methods), m.returnType = none →
      ¬ ∀ m ∈ services.flatMap (·.methods), m.returnType.isSome = true := by
    intro m hm hnone hresults
    have := hresults m hm
    rw [hnone] at this
    cases this
  cases h with
  | noResult listed missing =>
    cases h' with
    | noResult _ _ => exact ⟨rfl, rfl, rfl⟩
    | raised results _ _ _ | looped results _ _ => exact absurd results (hmissing _ listed missing)
  | @raised before after target _ _ results split answered error =>
    cases h' with
    | noResult listed missing => exact absurd results (hmissing _ listed missing)
    | looped _ answered' _ => exact absurd error (outcome_ne_error answered' split)
    | @raised before' after' target' _ _ _ split' answered' error' =>
      have hbefore := takeWhile_answered after' answered' error'
      rw [← split', split, takeWhile_answered after answered error] at hbefore
      obtain rfl := hbefore
      obtain ⟨rfl, -⟩ := List.cons.inj (List.append_cancel_left (split.symm.trans split'))
      exact ⟨rfl, rfl, congrArg _ (Except.error.inj (error'.symm.trans error))⟩
  | looped results answered loop =>
    cases h' with
    | noResult listed missing => exact absurd results (hmissing _ listed missing)
    | raised _ split answered' error => exact absurd error (outcome_ne_error answered split)
    | looped _ answered' loop' =>
      obtain rfl := (answers_eq_map answered').trans (answers_eq_map answered).symm
      obtain ⟨rfl, rfl, rfl⟩ := loop.unique loop'
      exact ⟨rfl, rfl, rfl⟩

/-! ### The outcome of the builder -/

/-- The assembly takes in the methods, then the exceptions, and then walks. -/
theorem outcome_specification {resolver : Option Resolver} :
    (u.specification services resolver exceptions).outcome = (do
      let a ← ((services.flatMap (·.methods)).foldlM Assembly.enqueueMethod
        { pending := u.allClasses }).outcome
      let b ← (exceptions.foldlM (Assembly.addException u (effectiveResolver resolver)) a).outcome
      (b.walk u (effectiveResolver resolver)).outcome.map (Assembly.assembled services)) := by
  unfold specification
  dsimp only
  rw [outcome_bind]
  refine congrArg _ (funext fun a => ?_)
  rw [outcome_bind]
  refine congrArg _ (funext fun b => ?_)
  rw [outcome_bind]
  cases (b.walk u (effectiveResolver resolver)).outcome <;> rfl

theorem outcome_enqueueMethods {a : Assembly} {methods : List Method} {m : Method}
    (hm : m ∈ methods) (hmissing : m.returnType = none) :
    (methods.foldlM Assembly.enqueueMethod a).outcome = .error .noResult := by
  induction methods generalizing a with
  | nil => exact absurd hm List.not_mem_nil
  | cons first rest ih =>
    rw [List.foldlM_cons, outcome_bind]
    cases hfirst : first.returnType with
    | none =>
      simp only [Assembly.enqueueMethod, hfirst]
      rfl
    | some result =>
      have hrest : m ∈ rest := by
        rcases List.mem_cons.1 hm with rfl | hrest
        · cases hmissing.symm.trans hfirst
        · exact hrest
      simp only [Assembly.enqueueMethod, hfirst]
      exact ih hrest

theorem outcome_addExceptions {a : Assembly} {before after : List Annotation}
    {target : Annotation} {answers : List (Option Definition)} {e : ClassError}
    (hanswers : u.Answers chain before answers) (he : (chain.resolve u target).outcome = .error e) :
    ((before ++ target :: after).foldlM (Assembly.addException u chain) a).outcome
      = .error e := by
  induction hanswers generalizing a with
  | nil =>
    rw [List.nil_append, List.foldlM_cons, outcome_bind, Assembly.addException, outcome_bind, he]
    rfl
  | @cons first answer before answers hfirst _ ih =>
    have hadd : (a.addException u chain first).outcome = .ok (a.withException answer) :=
      Assembly.addException_eq_ok.2 ⟨answer, hfirst, rfl⟩
    rw [List.cons_append, List.foldlM_cons, outcome_bind, hadd]
    exact ih

/-- What methods and exceptions mention is taken in as one list. -/
theorem foldl_withException_eq_ready (answers : List (Option Definition)) :
    answers.foldl Assembly.withException
        (Assembly.enqueueAll { pending := u.allClasses } (serviceSignatures services))
      = u.ready services answers := by
  rw [Assembly.foldl_withException, ready, Assembly.start, Assembly.enqueueAll_append]
  simp only [Assembly.enqueueAll_eq, List.nil_append]

/-- The classes behind what the loop starts from are classes of the universe. -/
theorem known_ready {answers : List (Option Definition)}
    (hservices : ∀ r ∈ mentions (serviceSignatures services), u.Known r)
    (hfixed : ∀ r ∈ chain.fixedMentions, u.Known r)
    (hanswers : u.Answers chain exceptions answers) :
    ∀ r ∈ (u.ready services answers).queue, u.Known r := by
  intro r hr
  rw [ready_eq] at hr
  rcases mem_searchRoots.1 (mem_of_mem_fresh hr) with hr | ⟨st, hst, hr⟩
  · exact hservices r hr
  · obtain ⟨target, -, hresolve⟩ := exists_left_of_forall₂ hanswers (mem_answeredStructs.1 hst)
    have hmention : r ∈ answerMentions (some (.struct st)) := by
      simpa [answerMentions, Definition.struct?] using hr
    exact (labelled_or_fixed hresolve r hmention).elim Labelled.known (hfixed r)

/-- **The result of the builder is the outcome of the assembly.** -/
theorem Build.outcome_eq {resolver : Option Resolver} {consulted : List Annotation}
    {popped : List Signature} {result : Except ClassError Specification}
    (h : u.Build (effectiveResolver resolver) services exceptions consulted popped result)
    (hservices : ∀ r ∈ mentions (serviceSignatures services), u.Known r)
    (hfixed : ∀ r ∈ (effectiveResolver resolver).fixedMentions, u.Known r) :
    (u.specification services resolver exceptions).outcome = result := by
  rw [outcome_specification]
  cases h with
  | noResult listed missing =>
    rw [outcome_enqueueMethods listed missing]
    rfl
  | raised results split answered error =>
    have hmethods := (Assembly.foldlM_enqueueMethod_eq_ok
      (a := { pending := u.allClasses })).2 ⟨results, rfl⟩
    simp only [hmethods, split, outcome_addExceptions answered error, bind, Except.bind]
  | @looped answers popped asked loopResult results answered loop =>
    have hpending : (u.ready services answers).pending = u.allClasses := by rw [ready_eq]
    have hwalk := loop.outcome_walk hfixed (known_ready hservices hfixed answered)
      (fun id hid => .inl (hpending ▸ hid)) services
    have hmethods := (Assembly.foldlM_enqueueMethod_eq_ok
      (a := { pending := u.allClasses })).2 ⟨results, rfl⟩
    have hexceptions := (Assembly.foldlM_addException_eq_ok (a := Assembly.enqueueAll
      { pending := u.allClasses } (serviceSignatures services))).2 ⟨answers, answered, rfl⟩
    rw [← serviceSignatures] at hmethods
    rw [foldl_withException_eq_ready] at hexceptions
    simp only [hmethods, hexceptions, bind, Except.bind]
    exact hwalk

/-! ### Counts -/

/-- What a build discovers: what methods mention, and what the answers to its consultations do. -/
def discovered (u : Universe) (chain : Resolver) (services : List Service)
    (consulted : List Annotation) : List Signature :=
  mentions (serviceSignatures services) ++ u.answersMention chain consulted

theorem mentions_answeredStructs (answers : List (Option Definition)) :
    mentions ((answeredStructs answers).flatMap Struct.signatures)
      = answers.flatMap answerMentions := by
  induction answers with
  | nil => rfl
  | cons answer rest ih =>
    have hsplit : mentions ((answeredStructs (answer :: rest)).flatMap Struct.signatures) =
        answerMentions answer ++ mentions ((answeredStructs rest).flatMap Struct.signatures) := by
      cases h : answer.bind Definition.struct? with
      | none => simp [answeredStructs, answerMentions, h]
      | some st => simp [answeredStructs, answerMentions, mentions, h]
    rw [hsplit, ih, List.flatMap_cons]

/-- What is queued at the start is what methods and the structs of exceptions mention. -/
theorem searchRoots_eq {answers : List (Option Definition)}
    (hanswers : u.Answers chain exceptions answers) :
    searchRoots services answers = u.discovered chain services exceptions := by
  have hexceptions : u.answersMention chain exceptions =
      mentions ((answeredStructs answers).flatMap Struct.signatures) := by
    rw [mentions_answeredStructs, answers_eq_map hanswers, List.flatMap_map]
    rfl
  rw [discovered, hexceptions]
  exact List.flatMap_append

/-- What the loop takes off the queue are first mentions among what the build discovers, in
order. All of them are taken unless the chain raises. -/
theorem Build.popped_eq {consulted : List Annotation} {popped : List Signature}
    {result : Except ClassError Specification}
    (h : u.Build chain services exceptions consulted popped result) :
    ∃ rest, popped ++ rest = fresh [] (u.discovered chain services consulted) ∧
      ∀ spec, result = .ok spec → rest = [] := by
  cases h with
  | noResult _ _ => exact ⟨_, rfl, fun _ h => nomatch h⟩
  | raised _ _ _ _ => exact ⟨_, rfl, fun _ h => nomatch h⟩
  | @looped answers popped asked result results answered loop =>
    obtain ⟨rest, hpopped, hrest⟩ := loop.popped_eq
    refine ⟨rest, ?_, ?_⟩
    · have hdiscovered : u.discovered chain services (exceptions ++ asked.map .cls) =
          searchRoots services answers ++ u.answersMention chain (asked.map .cls) := by
        rw [searchRoots_eq answered, discovered, discovered, List.append_assoc, answersMention,
          List.flatMap_append]
        rfl
      rw [hpopped, ready_eq, hdiscovered, fresh_append, List.nil_append]
    · intro spec hspec
      cases result with
      | error e => cases hspec
      | ok c => exact hrest c rfl

/-- Beside the exceptions, the chain is consulted about the classes behind signatures that the loop
takes off the queue. -/
theorem Build.consulted_sublist {consulted : List Annotation} {popped : List Signature}
    {result : Except ClassError Specification}
    (h : u.Build chain services exceptions consulted popped result) :
    consulted.Sublist (exceptions ++ (popped.filterMap (·.descriptor)).map .cls) := by
  cases h with
  | noResult _ _ => exact List.nil_sublist _
  | raised _ split _ _ =>
    rw [split]
    simp
  | looped _ _ loop => rw [loop.asked_eq]

/-- The number of the names that signatures go under. -/
def countNames (signatures : List Signature) : Nat := (signatures.map (·.name)).toFinset.card

/-- First mentions are as many as there are names. -/
theorem length_fresh (all : List Signature) : (fresh [] all).length = countNames all := by
  have hnodup : ((fresh [] all).map (·.name)).Nodup := nodup_fresh List.nodup_nil all
  have hsame : ((fresh [] all).map (·.name)).toFinset = (all.map (·.name)).toFinset := by
    ext name
    rw [List.mem_toFinset, List.mem_toFinset]
    constructor
    · intro h
      obtain ⟨s, hs, rfl⟩ := List.mem_map.1 h
      exact List.mem_map_of_mem (mem_of_mem_fresh hs)
    · intro h
      obtain ⟨s, hs, rfl⟩ := List.mem_map.1 h
      have hname : s.name ∈ [] ++ (fresh [] all).map (·.name) := name_mem_of_mem hs
      exact hname
  rw [countNames, ← hsame, List.toFinset_card_of_nodup hnodup, List.length_map]

end Universe

/-! ## The guarantee -/

/-- **A specification is built in as many rounds as there are names, and each round consults the
chain once at most.** Whatever the classes, the chain, the services and the exceptions are, the
builder comes to one end. No name is taken off the queue twice, and each consultation is about
an exception or about a signature that was taken off the queue. The rounds are as many as the
names that are discovered; there can be fewer only if the chain raises. Where services and fixed
answers point at classes of the universe, the assembly has the outcome of this build. -/
theorem build_terminates (u : Universe) (chain : Resolver) (services : List Service)
    (exceptions : List Annotation) :
    ∃ consulted popped result,
      u.Build chain services exceptions consulted popped result ∧
      (∀ consulted' popped' result',
        u.Build chain services exceptions consulted' popped' result' →
          consulted' = consulted ∧ popped' = popped ∧ result' = result) ∧
      (popped.map (·.name)).Nodup ∧
      consulted.Sublist (exceptions ++ (popped.filterMap (·.descriptor)).map .cls) ∧
      consulted.length ≤ exceptions.length + Universe.countNames popped ∧
      popped.length ≤ Universe.countNames (u.discovered chain services consulted) ∧
      (∀ spec, result = .ok spec →
        popped.length = Universe.countNames (u.discovered chain services consulted)) ∧
      ∀ resolver, Universe.effectiveResolver resolver = chain →
        (∀ r ∈ mentions (serviceSignatures services), u.Known r) →
        (∀ r ∈ chain.fixedMentions, u.Known r) →
        (u.specification services resolver exceptions).outcome = result := by
  obtain ⟨consulted, popped, result, hbuild⟩ := u.exists_build chain services exceptions
  obtain ⟨rest, hpopped, hrest⟩ := hbuild.popped_eq
  have hsublist := hbuild.consulted_sublist
  have hnodup : (popped.map (·.name)).Nodup := by
    have hall := nodup_fresh List.nodup_nil (u.discovered chain services consulted)
    rw [List.nil_append, ← hpopped, List.map_append] at hall
    exact (List.nodup_append.1 hall).1
  have hcount : popped.length + rest.length =
      Universe.countNames (u.discovered chain services consulted) := by
    rw [← Universe.length_fresh, ← hpopped, List.length_append]
  refine ⟨consulted, popped, result, hbuild, ?_, hnodup, hsublist, ?_, by omega, ?_, ?_⟩
  · intro consulted' popped' result' hbuild'
    exact hbuild.unique hbuild'
  · have hnames : Universe.countNames popped = popped.length := by
      rw [Universe.countNames, List.toFinset_card_of_nodup hnodup, List.length_map]
    have hdescribed : (popped.filterMap (·.descriptor)).length ≤ popped.length :=
      List.length_filterMap_le _ _
    have hlength := hsublist.length_le
    rw [List.length_append, List.length_map] at hlength
    omega
  · intro spec hspec
    rw [hrest spec hspec, List.length_nil] at hcount
    omega
  · rintro resolver rfl hservices hfixed
    exact hbuild.outcome_eq hservices hfixed

/-- Services that were read off classes point at classes of the universe. -/
theorem known_of_classes {u : Universe} {services : List Service}
    (hservices : ∀ s ∈ services, ∃ target name, (u.service target name).outcome = .ok s) :
    ∀ r ∈ mentions (serviceSignatures services), u.Known r := by
  intro r hr
  obtain ⟨s, hs, hr⟩ := List.mem_flatMap.1 hr
  obtain ⟨m, hm, hs⟩ := List.mem_flatMap.1 hs
  exact ((grounded_of_classes hservices m hm).signatures s hs r hr).labelled.known

/-- The specification of the zoo is built, in as many rounds as there are names, although its
classes refer to each other in a circle. -/
theorem zooSpecification_build :
    ∃ consulted popped,
      zooClasses.Build Resolver.default [zooService] [.cls (.declared 4)] consulted popped
        (.ok zooSpecification) ∧
      consulted.length ≤ 1 + Universe.countNames popped ∧
      popped.length = Universe.countNames
        (zooClasses.discovered Resolver.default [zooService] consulted) := by
  obtain ⟨consulted, popped, result, hbuild, -, -, -, hconsulted, -, hrounds, houtcome⟩ :=
    build_terminates zooClasses Resolver.default [zooService] [.cls (.declared 4)]
  have hresult : .ok zooSpecification = result := by
    rw [← zooClasses_specification]
    exact houtcome none rfl (known_of_classes zooService_of_class)
      fun r hr => absurd hr List.not_mem_nil
  rw [← hresult] at hbuild hrounds
  exact ⟨consulted, popped, hbuild, hconsulted, hrounds zooSpecification rfl⟩

end ServiceSchema

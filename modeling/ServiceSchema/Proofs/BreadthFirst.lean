/-
In which order a specification lists its definitions.

The distance of a class is the length of a shortest way to it from what methods and exceptions
mention. The search of a specification gives each signature a level when it is mentioned for
the first time: zero to the roots, and one more than its own to what the definition of a
signature mentions. Levels never fall along what was taken and what is queued, because the
queue spans two levels at most; so the level of a signature is the distance of its class, and
structs and enums are listed by distance.
-/
import Mathlib.Order.Bounds.Basic
import ServiceSchema.Proofs.Reachability

set_option autoImplicit false

namespace ServiceSchema

open Log.Traced

namespace Universe

/-! ## Distances -/

/-- The classes that a number of steps leads to. What a method mentions and what the struct of an
exception mentions are reached in no step; from a class one step leads to whatever its struct
mentions. -/
inductive ReachedIn (u : Universe) (services : List Service) (exceptions : List Annotation) :
    Nat → ClassId → Prop where
  | method {service : Service} {m : Method} {r : Signature} {id : ClassId}
      (listed : service ∈ services) (method : m ∈ service.methods)
      (mentioned : r ∈ mentions m.signatures) (behind : r.descriptor = some id) :
      ReachedIn u services exceptions 0 id
  | exception {target : Annotation} {st : Struct} {r : Signature} {id : ClassId}
      (listed : target ∈ exceptions)
      (described : (Resolver.default.resolve u target).outcome = .ok (some (.struct st)))
      (mentioned : r ∈ mentions st.signatures) (behind : r.descriptor = some id) :
      ReachedIn u services exceptions 0 id
  | step {n : Nat} {c : ClassId} {st : Struct} {r : Signature} {id : ClassId}
      (reached : ReachedIn u services exceptions n c)
      (described : (Resolver.default.resolve u (.cls c)).outcome = .ok (some (.struct st)))
      (mentioned : r ∈ mentions st.signatures) (behind : r.descriptor = some id) :
      ReachedIn u services exceptions (n + 1) id

/-- The distance of a class is the least number of steps that lead to it. -/
def Distance (u : Universe) (services : List Service) (exceptions : List Annotation)
    (c : ClassId) (n : Nat) : Prop :=
  IsLeast {n | u.ReachedIn services exceptions n c} n

/-- The distance of a definition is that of the class which it describes. -/
def DefinitionDistance (u : Universe) (services : List Service) (exceptions : List Annotation)
    (d : Definition) (n : Nat) : Prop :=
  ∃ c, (Resolver.default.resolve u (.cls c)).outcome = .ok (some d) ∧
    u.Distance services exceptions c n

/-- One definition is not further away than another one. -/
def NotFurther (u : Universe) (services : List Service) (exceptions : List Annotation)
    (d d' : Definition) : Prop :=
  ∀ n n', u.DefinitionDistance services exceptions d n →
    u.DefinitionDistance services exceptions d' n' → n ≤ n'

/-! ## Ways along signatures -/

/-- The signatures that a number of steps leads to from roots. -/
inductive MentionedIn (u : Universe) (roots : List Signature) : Nat → Signature → Prop where
  | root {r : Signature} (listed : r ∈ roots) : MentionedIn u roots 0 r
  | successor {n : Nat} {s r : Signature} (earlier : MentionedIn u roots n s)
      (mentioned : r ∈ u.successors s) : MentionedIn u roots (n + 1) r

variable {u : Universe}

/-- The successors of a signature are those of the class behind it. -/
theorem successors_eq_of_descriptor_eq {s t : Signature} (h : s.descriptor = t.descriptor) :
    u.successors s = u.successors t := by
  rw [successors, successors, definition?, definition?, h]

/-- A signature has successors only if a struct describes the class behind it. -/
theorem exists_struct_of_mem_successors {s r : Signature} (hr : r ∈ u.successors s) :
    ∃ c st, s.descriptor = some c ∧
      (Resolver.default.resolve u (.cls c)).outcome = .ok (some (.struct st)) ∧
      r ∈ mentions st.signatures := by
  unfold successors answerMentions at hr
  match hd : u.definition? s, hr with
  | some (.struct st), hr =>
    obtain ⟨c, hc, houtcome⟩ := Option.bind_eq_some_iff.1 hd
    refine ⟨c, st, hc, ?_, by simpa [Definition.struct?] using hr⟩
    cases hresolve : (Resolver.default.resolve u (.cls c)).outcome with
    | error e => simp [hresolve, Except.toOption] at houtcome
    | ok answer =>
      obtain rfl : answer = some (.struct st) := by
        simpa [hresolve, Except.toOption] using houtcome
      rfl

/-- Signatures of one name have one class behind them. -/
theorem descriptor_eq_of_name_eq (hdistinct : u.DistinctNames) {r s : Signature}
    (hr : u.Labelled r) (hs : u.Labelled s) (h : r.name = s.name) :
    r.descriptor = s.descriptor := by
  obtain ⟨c, hc, hrname, hcclass⟩ := hr
  obtain ⟨d, hd, hsname, hdclass⟩ := hs
  have hsame : c = d := hdistinct c hcclass d hdclass (by rw [← hrname, ← hsname, h])
  rw [hc, hd, hsame]

section Ways

variable {services : List Service} {exceptions : List Annotation}
variable {answers : List (Option Definition)}

/-- A way to a class is a way to a signature of it. -/
theorem exists_mentionedIn (hanswers : List.Forall₂ (fun target answer =>
      (Resolver.default.resolve u target).outcome = .ok answer) exceptions answers)
    {n : Nat} {c : ClassId} (h : u.ReachedIn services exceptions n c) :
    ∃ s, u.MentionedIn (searchRoots services answers) n s ∧ s.descriptor = some c := by
  induction h with
  | @method service m r id listed method mentioned behind =>
    have hr := mem_mentions_serviceSignatures.2 ⟨service, listed, m, method, mentioned⟩
    exact ⟨r, .root (mem_searchRoots.2 (.inl hr)), behind⟩
  | @exception target st r id listed described mentioned behind =>
    obtain ⟨answer, hanswer, hresolve⟩ := exists_right_of_forall₂ hanswers listed
    obtain rfl := Except.ok.inj (described.symm.trans hresolve)
    have hst := mem_answeredStructs.2 hanswer
    exact ⟨r, .root (mem_searchRoots.2 (.inr ⟨st, hst, mentioned⟩)), behind⟩
  | @step n c st r id _ described mentioned behind ih =>
    obtain ⟨s, hs, hc⟩ := ih
    refine ⟨r, .successor hs ?_, behind⟩
    rw [successors_of_resolve hc described]
    exact mentioned

/-- A way to a signature is a way to the class behind it. -/
theorem reachedIn_of_mentionedIn (hanswers : List.Forall₂ (fun target answer =>
      (Resolver.default.resolve u target).outcome = .ok answer) exceptions answers)
    {n : Nat} {s : Signature} (h : u.MentionedIn (searchRoots services answers) n s) :
    ∀ c, s.descriptor = some c → u.ReachedIn services exceptions n c := by
  induction h with
  | @root r listed =>
    intro c hc
    rcases mem_searchRoots.1 listed with hr | ⟨st, hst, hr⟩
    · obtain ⟨service, hservice, m, hm, hr⟩ := mem_mentions_serviceSignatures.1 hr
      exact .method hservice hm hr hc
    · obtain ⟨id, hid, hresolve⟩ := exists_class_of_answeredStructs hanswers hst
      exact .exception hid hresolve hr hc
  | successor _ mentioned ih =>
    intro c hc
    obtain ⟨id, st, hid, hresolve, hr⟩ := exists_struct_of_mem_successors mentioned
    exact .step (ih id hid) hresolve hr hc

end Ways

end Universe

/-! ## Levels -/

/-- The levels of a search from roots: the signatures that were taken and those that wait, each
with its level. -/
structure Levels (u : Universe) (roots : List Signature) (taken waiting : List (Signature × Nat)) :
    Prop where
  /-- Levels are given to what was mentioned for the first time. -/
  discovered : (taken ++ waiting).map Prod.fst =
    fresh [] (roots ++ (taken.map Prod.fst).flatMap u.successors)
  sorted : (taken ++ waiting).Pairwise fun x y => x.2 ≤ y.2
  /-- No level is above the one that follows that of the next signature. -/
  narrow : ∀ next ∈ waiting.head?, ∀ x ∈ taken ++ waiting, x.2 ≤ next.2 + 1
  way : ∀ x ∈ taken ++ waiting, u.MentionedIn roots x.2 x.1
  root : ∀ r ∈ roots, ∃ x ∈ taken ++ waiting, x.1.name = r.name ∧ x.2 = 0
  /-- A step from what was taken leads up by one level at most. -/
  successor : ∀ x ∈ taken, ∀ r ∈ u.successors x.1,
    ∃ y ∈ taken ++ waiting, y.1.name = r.name ∧ y.2 ≤ x.2 + 1

namespace Levels

variable {u : Universe} {roots : List Signature} {taken waiting : List (Signature × Nat)}

/-- The roots are on level zero. -/
theorem start (u : Universe) (roots : List Signature) :
    Levels u roots [] ((fresh [] roots).map (·, 0)) := by
  have hlevel : ∀ x ∈ (fresh [] roots).map fun s => (s, 0), x.1 ∈ roots ∧ x.2 = 0 := by
    intro x hx
    obtain ⟨s, hs, rfl⟩ := List.mem_map.1 hx
    exact ⟨mem_of_mem_fresh hs, rfl⟩
  constructor
  case discovered => simp [Function.comp_def]
  case sorted =>
    rw [List.nil_append, List.pairwise_map]
    exact List.pairwise_of_forall fun _ _ => le_rfl
  case narrow =>
    intro next _ x hx
    rw [(hlevel x hx).2]
    exact Nat.zero_le _
  case way =>
    intro x hx
    obtain ⟨hroot, hzero⟩ := hlevel x hx
    exact hzero ▸ .root hroot
  case root =>
    intro r hr
    have hname : r.name ∈ [] ++ (fresh [] roots).map (·.name) := name_mem_of_mem hr
    obtain ⟨s, hs, hsr⟩ := List.mem_map.1 hname
    exact ⟨(s, 0), List.mem_map_of_mem hs, hsr, rfl⟩
  case successor =>
    intro x hx
    exact absurd hx List.not_mem_nil

/-- Taking the next signature puts what its definition mentions for the first time on the level
above its own. -/
theorem take {next : Signature × Nat} (h : Levels u roots taken (next :: waiting)) :
    Levels u roots (taken ++ [next]) (waiting ++
      (fresh ((taken ++ next :: waiting).map (·.1.name)) (u.successors next.1)).map
        (·, next.2 + 1)) := by
  obtain ⟨s, level⟩ := next
  let more : List (Signature × Nat) :=
    (fresh ((taken ++ (s, level) :: waiting).map (·.1.name)) (u.successors s)).map (·, level + 1)
  have hmore : ∀ x ∈ more, x.1 ∈ u.successors s ∧ x.2 = level + 1 := by
    intro x hx
    obtain ⟨r, hr, rfl⟩ := List.mem_map.1 hx
    exact ⟨mem_of_mem_fresh hr, rfl⟩
  -- what was known stays where it was, and what is new comes last
  have hall : taken ++ [(s, level)] ++ (waiting ++ more) =
      taken ++ (s, level) :: waiting ++ more := by
    simp
  have hnarrow : ∀ x ∈ taken ++ (s, level) :: waiting, x.2 ≤ level + 1 := h.narrow (s, level) rfl
  have hself : (s, level) ∈ taken ++ (s, level) :: waiting :=
    List.mem_append_right _ List.mem_cons_self
  change Levels u roots (taken ++ [(s, level)]) (waiting ++ more)
  constructor
  case discovered =>
    have hnames : (taken ++ (s, level) :: waiting).map (·.1.name) =
        (fresh [] (roots ++ (taken.map Prod.fst).flatMap u.successors)).map (·.name) := by
      rw [← h.discovered, List.map_map]
      rfl
    rw [hall, List.map_append, h.discovered, List.map_append, List.flatMap_append,
      ← List.append_assoc, fresh_append [] (roots ++ (taken.map Prod.fst).flatMap u.successors),
      List.nil_append, ← hnames]
    simp [more, Function.comp_def]
  case sorted =>
    rw [hall, List.pairwise_append]
    refine ⟨h.sorted, ?_, ?_⟩
    · rw [List.pairwise_map]
      exact List.pairwise_of_forall fun _ _ => le_rfl
    · intro x hx y hy
      rw [(hmore y hy).2]
      exact hnarrow x hx
  case narrow =>
    intro next hnext x hx
    -- the signature that is next comes after the one that was taken, so its level is not lower
    have hlevel : level ≤ next.2 := by
      have hmem := List.mem_of_mem_head? hnext
      rcases List.mem_append.1 hmem with hwaiting | hnew
      · have hrest := (List.pairwise_append.1 h.sorted).2.1
        exact (List.pairwise_cons.1 hrest).1 next hwaiting
      · have := (hmore next hnew).2
        omega
    rw [hall] at hx
    rcases List.mem_append.1 hx with hx | hx
    · have := hnarrow x hx
      omega
    · have := (hmore x hx).2
      omega
  case way =>
    intro x hx
    rw [hall] at hx
    rcases List.mem_append.1 hx with hx | hx
    · exact h.way x hx
    · obtain ⟨hsuccessor, hlevel⟩ := hmore x hx
      exact hlevel ▸ .successor (h.way (s, level) hself) hsuccessor
  case root =>
    intro r hr
    obtain ⟨x, hx, hname⟩ := h.root r hr
    rw [hall]
    exact ⟨x, List.mem_append_left _ hx, hname⟩
  case successor =>
    intro x hx r hr
    rw [hall]
    rcases List.mem_append.1 hx with hx | hx
    · obtain ⟨y, hy, hname⟩ := h.successor x hx r hr
      exact ⟨y, List.mem_append_left _ hy, hname⟩
    · obtain rfl := List.mem_singleton.1 hx
      have hname : r.name ∈ (taken ++ (s, level) :: waiting).map (·.1.name) ++
          (fresh ((taken ++ (s, level) :: waiting).map (·.1.name)) (u.successors s)).map
            (·.name) := name_mem_of_mem hr
      rcases List.mem_append.1 hname with hknown | hnew
      · obtain ⟨y, hy, hyr⟩ := List.mem_map.1 hknown
        exact ⟨y, List.mem_append_left _ hy, hyr, hnarrow y hy⟩
      · obtain ⟨t, ht, htr⟩ := List.mem_map.1 hnew
        exact ⟨(t, level + 1), List.mem_append_right _ (List.mem_map_of_mem ht), htr, le_rfl⟩

end Levels

/-! ## The levels of a search -/

namespace Search

variable {u : Universe} {services : List Service} {exceptions : List Annotation}
variable {answers : List (Option Definition)} {taken : List Signature} {spec : Specification}

/-- There are levels at every point of a search. -/
theorem exists_levels_at (h : Search u services exceptions answers taken spec)
    (before : List Signature) : ∀ after, taken = before ++ after →
      ∃ done waiting, done.map Prod.fst = before ∧
        Levels u (searchRoots services answers) done waiting := by
  induction before using List.reverseRecOn with
  | nil =>
    intro after _
    exact ⟨[], _, rfl, Levels.start u (searchRoots services answers)⟩
  | append_singleton before s ih =>
    intro after htaken
    rw [List.append_assoc, List.singleton_append] at htaken
    obtain ⟨done, waiting, rfl, hlevels⟩ := ih _ htaken
    -- the signature was next when it was taken, so it is the first of those that wait
    obtain ⟨more, hmore⟩ := h.order _ s after htaken
    have hwaiting : waiting.map Prod.fst = s :: more := by
      have hdiscovered := hlevels.discovered
      rw [← hmore, List.map_append] at hdiscovered
      exact List.append_cancel_left hdiscovered
    obtain ⟨⟨s', level⟩, rest, rfl, rfl, -⟩ := List.map_eq_cons_iff.1 hwaiting
    exact ⟨done ++ [(s', level)], _, by simp, hlevels.take⟩

/-- Whatever was taken has a level, and nothing waits in the end. -/
theorem exists_levels (h : Search u services exceptions answers taken spec) :
    ∃ levels, levels.map Prod.fst = taken ∧ Levels u (searchRoots services answers) levels [] := by
  obtain ⟨levels, waiting, rfl, hlevels⟩ := h.exists_levels_at taken [] (by simp)
  have hwaiting : levels.map Prod.fst ++ waiting.map Prod.fst = levels.map Prod.fst := by
    rw [← List.map_append, hlevels.discovered]
    exact h.complete.symm
  obtain rfl : waiting = [] := by simpa using hwaiting
  exact ⟨levels, rfl, hlevels⟩

variable {levels : List (Signature × Nat)}

/-- No way is shorter than the level of the signature that goes under its name. -/
theorem exists_level_le (h : Search u services exceptions answers (levels.map Prod.fst) spec)
    (hdistinct : u.DistinctNames) (hlevels : Levels u (searchRoots services answers) levels [])
    {n : Nat} {s : Signature} (hs : u.MentionedIn (searchRoots services answers) n s) :
    ∃ x ∈ levels, x.1.name = s.name ∧ x.1.descriptor = s.descriptor ∧ x.2 ≤ n := by
  have hlabelled : ∀ x ∈ levels, u.Labelled x.1 := by
    intro x hx
    exact h.labelled (h.mentioned_of_taken (List.mem_map_of_mem hx))
  induction hs with
  | @root r listed =>
    obtain ⟨x, hx, hname, hzero⟩ := hlevels.root r listed
    rw [List.append_nil] at hx
    exact ⟨x, hx, hname, Universe.descriptor_eq_of_name_eq hdistinct (hlabelled x hx)
      (h.labelled (.inl listed)) hname, hzero.le⟩
  | @successor n s r _ mentioned ih =>
    obtain ⟨x, hx, -, hdescriptor, hle⟩ := ih
    -- the signature on this level stands for the same class, so it has the same successors
    rw [← Universe.successors_eq_of_descriptor_eq hdescriptor] at mentioned
    obtain ⟨y, hy, hname, hylevel⟩ := hlevels.successor x hx r mentioned
    rw [List.append_nil] at hy
    exact ⟨y, hy, hname, Universe.descriptor_eq_of_name_eq hdistinct (hlabelled y hy)
      (h.labelled (.inr ⟨x.1, List.mem_map_of_mem hx, mentioned⟩)) hname, by omega⟩

/-- **The level of a signature is the distance of the class behind it.** -/
theorem distance_of_level (h : Search u services exceptions answers (levels.map Prod.fst) spec)
    (hdistinct : u.DistinctNames) (hlevels : Levels u (searchRoots services answers) levels [])
    {x : Signature × Nat} (hx : x ∈ levels) {c : ClassId} (hc : x.1.descriptor = some c) :
    u.Distance services exceptions c x.2 := by
  constructor
  · exact Universe.reachedIn_of_mentionedIn h.answered
      (hlevels.way x (List.mem_append_left _ hx)) c hc
  · intro n hn
    obtain ⟨s, hs, hsc⟩ := Universe.exists_mentionedIn h.answered hn
    obtain ⟨y, hy, -, hdescriptor, hle⟩ := h.exists_level_le hdistinct hlevels hs
    -- both signatures go under the name of the class, and a name was taken once
    obtain ⟨c', hc', hxname, -⟩ := h.resolved x.1 (List.mem_map_of_mem hx)
    obtain ⟨d, hd, hyname, -⟩ := h.resolved y.1 (List.mem_map_of_mem hy)
    obtain rfl : c' = c := Option.some.inj (hc'.symm.trans hc)
    obtain rfl : d = c' := Option.some.inj (hd.symm.trans (hdescriptor.trans hsc))
    have hnodup : (levels.map (·.1.name)).Nodup := by
      have := h.nodup
      rwa [List.map_map] at this
    obtain rfl : y = x := List.inj_on_of_nodup_map hnodup hy hx (hyname.trans hxname.symm)
    exact hle

/-- The class that a definition with a distance describes is the one behind the signature that the
definition was collected for. -/
theorem distance_eq_level (h : Search u services exceptions answers (levels.map Prod.fst) spec)
    (hdistinct : u.DistinctNames) (hlevels : Levels u (searchRoots services answers) levels [])
    {x : Signature × Nat} (hx : x ∈ levels) {d : Definition} (hd : u.definition? x.1 = some d)
    {n : Nat} (hn : u.DefinitionDistance services exceptions d n) : n = x.2 := by
  obtain ⟨c, hresolve, hdistance⟩ := hn
  obtain ⟨s, hs, hsc⟩ := Universe.exists_mentionedIn h.answered hdistance.1
  obtain ⟨y, hy, -, hdescriptor, -⟩ := h.exists_level_le hdistinct hlevels hs
  have hyc : y.1.descriptor = some c := hdescriptor.trans hsc
  have hxlabelled := h.labelled (h.mentioned_of_taken (List.mem_map_of_mem hx))
  have hylabelled := h.labelled (h.mentioned_of_taken (List.mem_map_of_mem hy))
  have hname : x.1.name = y.1.name := by
    have hyd : u.definition? y.1 = some d := Universe.definition?_of_resolve hyc hresolve
    rw [← (h.resolved x.1 (List.mem_map_of_mem hx)).name hd,
      (h.resolved y.1 (List.mem_map_of_mem hy)).name hyd]
  have hxc : x.1.descriptor = some c :=
    (Universe.descriptor_eq_of_name_eq hdistinct hxlabelled hylabelled hname).trans hyc
  exact hdistance.unique (h.distance_of_level hdistinct hlevels hx hxc)

/-- Every definition that is collected has one distance. -/
theorem existsUnique_distance (h : Search u services exceptions answers taken spec)
    (hdistinct : u.DistinctNames) {d : Definition} (hd : d ∈ spec.definitions) :
    ∃! n, u.DefinitionDistance services exceptions d n := by
  obtain ⟨levels, rfl, hlevels⟩ := h.exists_levels
  obtain ⟨s, hs, hsd⟩ := h.mem_definitions.1 hd
  obtain ⟨x, hx, rfl⟩ := List.mem_map.1 hs
  obtain ⟨c, hc, -, hresolve⟩ := h.resolved x.1 hs
  rw [hsd] at hresolve
  exact ⟨x.2, ⟨c, hresolve, h.distance_of_level hdistinct hlevels hx hc⟩,
    fun n hn => h.distance_eq_level hdistinct hlevels hx hsd hn⟩

/-- The definitions behind what was taken are in order. -/
theorem pairwise_definitionsBehind (h : Search u services exceptions answers taken spec)
    (hdistinct : u.DistinctNames) :
    (u.definitionsBehind taken).Pairwise (u.NotFurther services exceptions) := by
  obtain ⟨levels, rfl, hlevels⟩ := h.exists_levels
  have hsorted := hlevels.sorted
  rw [List.append_nil] at hsorted
  rw [Universe.definitionsBehind, List.filterMap_map, List.pairwise_filterMap]
  refine hsorted.imp_of_mem ?_
  intro x y hx hy hle d hd d' hd' n n' hn hn'
  rw [h.distance_eq_level hdistinct hlevels hx hd hn,
    h.distance_eq_level hdistinct hlevels hy hd' hn']
  exact hle

/-- The structs that are collected are in order. -/
theorem pairwise_structs (h : Search u services exceptions answers taken spec)
    (hdistinct : u.DistinctNames) : spec.structs.Pairwise
      fun st st' => u.NotFurther services exceptions (.struct st) (.struct st') := by
  have hall := h.pairwise_definitionsBehind hdistinct
  rw [h.assembled]
  refine List.pairwise_filterMap.2 (hall.imp ?_)
  intro d d' hle st hst st' hst'
  rw [Definition.struct?_eq_some.1 hst, Definition.struct?_eq_some.1 hst'] at hle
  exact hle

/-- The enums that are collected are in order. -/
theorem pairwise_enums (h : Search u services exceptions answers taken spec)
    (hdistinct : u.DistinctNames) : spec.enums.Pairwise
      fun e e' => u.NotFurther services exceptions (.enum e) (.enum e') := by
  have hall := h.pairwise_definitionsBehind hdistinct
  rw [h.assembled]
  refine List.pairwise_filterMap.2 (hall.imp ?_)
  intro d d' hle e he e' he'
  rw [Definition.enum?_eq_some.1 he, Definition.enum?_eq_some.1 he'] at hle
  exact hle

end Search

/-! ## The order of a specification -/

/-- **A specification of classes lists its structs by distance, and its enums too.** Each of them
has a distance, and only one. -/
theorem specification_listed_by_distance {u : Universe} {services : List Service}
    {resolver : Option Resolver} {exceptions : List Annotation} {spec : Specification}
    (hdistinct : u.DistinctNames)
    (hservices : ∀ s ∈ services, ∃ target name, (u.service target name).outcome = .ok s)
    (hresolver : Universe.effectiveResolver resolver = Resolver.default)
    (h : (u.specification services resolver exceptions).outcome = .ok spec) :
    (∀ d ∈ spec.definitions, ∃! n, u.DefinitionDistance services exceptions d n) ∧
    (spec.structs.Pairwise fun st st' =>
      u.NotFurther services exceptions (.struct st) (.struct st')) ∧
    (spec.enums.Pairwise fun e e' => u.NotFurther services exceptions (.enum e) (.enum e')) := by
  obtain ⟨answers, taken, hsearch⟩ := exists_search_of_classes hservices hresolver h
  refine ⟨?_, hsearch.pairwise_structs hdistinct, hsearch.pairwise_enums hdistinct⟩
  intro d hd
  exact hsearch.existsUnique_distance hdistinct hd

/-- The zoo lists the struct that its exception mentions before the one that only the union of all
animals does. -/
theorem zooSpecification_listed_by_distance :
    (zooClasses.specification [zooService] none [.cls (.declared 4)]).outcome
      = .ok zooSpecification ∧
    zooSpecification.structs.map (·.name) = ["m.Animal", "m.Dog", "m.Cat"] ∧
    (zooSpecification.structs.Pairwise fun st st' =>
      zooClasses.NotFurther [zooService] [.cls (.declared 4)] (.struct st) (.struct st')) :=
  ⟨zooClasses_specification, by decide, (specification_listed_by_distance zooClasses_distinctNames
    zooService_of_class rfl zooClasses_specification).2.1⟩

end ServiceSchema

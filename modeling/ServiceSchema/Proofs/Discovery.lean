/-
What the walk from classes discovers.

Where every signature that is queued has a class of the universe behind it, the walk is a
breadth-first search: what was taken, followed by what is queued, are the first mentions
among the roots and then among the definitions of what was taken. Each class is resolved
when its signature is taken, and its definition goes into the table under the name of the
signature, which is new.
-/
import ServiceSchema.Proofs.Assembled

set_option autoImplicit false

namespace ServiceSchema

open Log.Traced

namespace Universe

variable {u : Universe}

/-! ## Classes behind signatures -/

/-- A class of the universe stands behind a signature that goes under its name. -/
def Labelled (u : Universe) (s : Signature) : Prop :=
  ∃ id, s.descriptor = some id ∧ s.name = u.fullName id ∧ id ∈ u.allClasses

/-- The definition that the default resolver yields for the class behind a signature. -/
def definition? (u : Universe) (s : Signature) : Option Definition :=
  s.descriptor.bind fun id => (Resolver.default.resolve u (.cls id)).outcome.toOption.join

/-- What the definition behind a signature mentions. -/
def successors (u : Universe) (s : Signature) : List Signature := answerMentions (u.definition? s)

/-- The class behind a signature is resolved, and goes under the name of the signature. -/
def Resolves (u : Universe) (s : Signature) : Prop :=
  ∃ id, s.descriptor = some id ∧ s.name = u.fullName id ∧
    (Resolver.default.resolve u (.cls id)).outcome = .ok (u.definition? s)

theorem Classified.labelled {r : Signature} (h : u.Classified r) : u.Labelled r := by
  cases h with
  | enum named _ => exact ⟨_, rfl, rfl, mem_allClasses_of_fullName named⟩
  | struct named _ _ => exact ⟨_, rfl, rfl, mem_allClasses_of_fullName named⟩

/-- What grounded signatures mention is labelled. -/
theorem labelled_of_mem_mentions {signatures : List Signature}
    (h : ∀ s ∈ signatures, u.Grounded s) : ∀ r ∈ mentions signatures, u.Labelled r := by
  intro r hr
  obtain ⟨s, hs, hr⟩ := List.mem_flatMap.1 hr
  exact (h s hs r hr).labelled

/-- What a struct mentions that was read off a class is labelled. -/
theorem labelled_of_struct {id : ClassId} {st : Struct}
    (h : u.Answered id (some (.struct st))) : ∀ r ∈ mentions st.signatures, u.Labelled r := by
  cases h with
  | struct _ _ fields subtypes named =>
    intro r hr
    obtain ⟨s, hs, hr⟩ := List.mem_flatMap.1 hr
    rcases List.mem_append.1 hs with hs | hs
    · obtain ⟨f, hf, rfl⟩ := List.mem_map.1 hs
      exact (fields f hf r hr).labelled
    · rw [subtypes] at hs
      obtain ⟨c, hc, rfl⟩ := List.mem_map.1 hs
      rw [Signature.references_struct, List.mem_singleton] at hr
      exact hr ▸ ⟨c, rfl, rfl, mem_allClasses_of_fullName (named c hc)⟩

theorem Answered.name {id : ClassId} {d : Definition} (h : u.Answered id (some d)) :
    d.name = u.fullName id := by
  cases h with
  | enum _ _ name => exact name
  | struct _ name _ _ _ => exact name

theorem definition?_of_resolve {s : Signature} {id : ClassId} {answer : Option Definition}
    (hid : s.descriptor = some id)
    (h : (Resolver.default.resolve u (.cls id)).outcome = .ok answer) :
    u.definition? s = answer := by
  simp [definition?, hid, h, Except.toOption]

theorem Resolves.name {s : Signature} {d : Definition} (h : u.Resolves s)
    (hd : u.definition? s = some d) : d.name = s.name := by
  obtain ⟨id, -, hname, hresolve⟩ := h
  rw [hd] at hresolve
  rw [hname, (answered_of_resolve hresolve).name]

/-- What the definition behind a resolved signature mentions is labelled. -/
theorem Resolves.labelled_successors {s : Signature} (h : u.Resolves s) :
    ∀ r ∈ u.successors s, u.Labelled r := by
  obtain ⟨id, -, -, hresolve⟩ := h
  have hanswered := answered_of_resolve hresolve
  intro r hr
  unfold successors answerMentions at hr
  match hd : u.definition? s, hr with
  | some (.struct st), hr =>
    rw [hd] at hanswered
    exact labelled_of_struct hanswered r (by simpa [Definition.struct?] using hr)

end Universe

/-! ## Definitions behind signatures -/

/-- A struct is picked from definitions exactly if it is one of them. -/
theorem mem_filterMap_struct? {all : List Definition} {s : Struct} :
    s ∈ all.filterMap Definition.struct? ↔ .struct s ∈ all := by
  simp [Definition.struct?_eq_some]

/-- An enum is picked from definitions exactly if it is one of them. -/
theorem mem_filterMap_enum? {all : List Definition} {e : Enumeration} :
    e ∈ all.filterMap Definition.enum? ↔ .enum e ∈ all := by
  simp [Definition.enum?_eq_some]

namespace Universe

variable {u : Universe}

/-- The definitions behind signatures. -/
def definitionsBehind (u : Universe) (taken : List Signature) : List Definition :=
  taken.filterMap u.definition?

/-- The structs behind signatures. -/
def structsBehind (u : Universe) (taken : List Signature) : List Struct :=
  (u.definitionsBehind taken).filterMap Definition.struct?

/-- The enums behind signatures. -/
def enumsBehind (u : Universe) (taken : List Signature) : List Enumeration :=
  (u.definitionsBehind taken).filterMap Definition.enum?

/-- One more signature adds what is picked of the definition behind it. -/
theorem filterMap_definitionsBehind_concat {α : Type} (pick : Definition → Option α)
    (taken : List Signature) (s : Signature) :
    (u.definitionsBehind (taken ++ [s])).filterMap pick =
      (u.definitionsBehind taken).filterMap pick ++ ((u.definition? s).bind pick).toList := by
  rw [definitionsBehind, List.filterMap_append, List.filterMap_append]
  cases hd : u.definition? s with
  | none => simp [definitionsBehind, hd]
  | some d => cases hpick : pick d <;> simp [definitionsBehind, hd, hpick]

/-- The definitions behind resolved signatures go under the names of the signatures. -/
theorem name_mem_of_mem_definitionsBehind {taken : List Signature} {d : Definition}
    (hresolved : ∀ s ∈ taken, u.Resolves s) (hd : d ∈ u.definitionsBehind taken) :
    d.name ∈ taken.map (·.name) := by
  obtain ⟨s, hs, hsd⟩ := List.mem_filterMap.1 hd
  rw [(hresolved s hs).name hsd]
  exact List.mem_map_of_mem hs

end Universe

/-! ## The state of the search -/

/-- How far a walk from roots has come after some signatures were taken. -/
structure Progress (u : Universe) (roots taken : List Signature) (a : Assembly) : Prop where
  /-- The queue holds what was mentioned for the first time and is not taken yet. -/
  discovered : taken ++ a.queue = fresh [] (roots ++ taken.flatMap u.successors)
  /-- Each signature was next in the queue when it was taken. -/
  order : ∀ (before : List Signature) (s : Signature) (after : List Signature),
    taken = before ++ s :: after →
      ∃ more, before ++ s :: more = fresh [] (roots ++ before.flatMap u.successors)
  visited : a.visited = (taken ++ a.queue).map (·.name)
  pending : ∀ id ∈ u.allClasses, id ∈ a.pending ∨ ∃ s ∈ taken, s.descriptor = some id
  resolved : ∀ s ∈ taken, u.Resolves s
  structs : a.structs.entries = (u.structsBehind taken).map fun s => (s.name, s)
  enums : a.enums.entries = (u.enumsBehind taken).map fun e => (e.name, e)

namespace Progress

variable {u : Universe} {roots taken : List Signature} {a b : Assembly} {s : Signature}

/-- The search starts with the first mentions among the roots. -/
theorem start (u : Universe) (signatures : List Signature) (exceptions : List Struct) :
    Progress u (mentions signatures) [] (Assembly.start u signatures exceptions) := by
  rw [Assembly.start, Assembly.enqueueAll_eq]
  constructor
  case discovered => simp
  case order =>
    intro before s after h
    simp at h
  case visited => rfl
  case pending =>
    intro id hid
    exact .inl hid
  case resolved =>
    intro s hs
    exact absurd hs List.not_mem_nil
  case structs => rfl
  case enums => rfl

theorem nodup (h : Progress u roots taken a) : ((taken ++ a.queue).map (·.name)).Nodup := by
  rw [h.discovered]
  simpa using nodup_fresh List.nodup_nil (roots ++ taken.flatMap u.successors)

/-- The next signature goes under a name that was not taken before. -/
theorem next_name (h : Progress u roots taken a) {queue : List Signature}
    (hnext : a.queue = s :: queue) : s.name ∉ taken.map (·.name) := by
  intro hmem
  have hnodup := h.nodup
  rw [hnext, List.map_append, List.nodup_append] at hnodup
  exact hnodup.2.2 _ hmem s.name (by simp) rfl

/-- A class stands behind whatever is taken or queued, if one stands behind every root. -/
theorem labelled (h : Progress u roots taken a) (hroots : ∀ r ∈ roots, u.Labelled r) :
    ∀ s ∈ taken ++ a.queue, u.Labelled s := by
  intro s hs
  rw [h.discovered] at hs
  rcases List.mem_append.1 (mem_of_mem_fresh hs) with hs | hs
  · exact hroots s hs
  · obtain ⟨t, ht, hs⟩ := List.mem_flatMap.1 hs
    exact (h.resolved t ht).labelled_successors s hs

/-- The class behind the next signature is pending: another signature of that class would have
the same name. -/
theorem next_pending (h : Progress u roots taken a) (hroots : ∀ r ∈ roots, u.Labelled r)
    {queue : List Signature} {id : ClassId} (hnext : a.queue = s :: queue)
    (hid : s.descriptor = some id) : id ∈ a.pending := by
  have hs : s ∈ taken ++ a.queue := by
    rw [hnext]
    exact List.mem_append_right _ List.mem_cons_self
  obtain ⟨id', hid', hname, hclass⟩ := h.labelled hroots s hs
  obtain rfl : id = id' := Option.some.inj (hid.symm.trans hid')
  rcases h.pending id hclass with hpending | ⟨t, ht, htid⟩
  · exact hpending
  -- the class was resolved for a signature of the same name
  · obtain ⟨idt, hidt, htname, -⟩ := h.resolved t ht
    obtain rfl : id = idt := Option.some.inj (htid.symm.trans hidt)
    have hmem : s.name ∈ taken.map (·.name) := by
      rw [hname, ← htname]
      exact List.mem_map_of_mem ht
    exact absurd hmem (h.next_name hnext)

/-- The keys of both tables are names that were taken. -/
theorem keys_taken (h : Progress u roots taken a) {name : String}
    (hname : name ∈ a.structs.keys ∨ name ∈ a.enums.keys) : name ∈ taken.map (·.name) := by
  rcases hname with hname | hname
  · rw [Table.keys, h.structs, List.map_map, List.mem_map] at hname
    obtain ⟨st, hst, rfl⟩ := hname
    exact Universe.name_mem_of_mem_definitionsBehind h.resolved (mem_filterMap_struct?.1 hst)
  · rw [Table.keys, h.enums, List.map_map, List.mem_map] at hname
    obtain ⟨e, he, rfl⟩ := hname
    exact Universe.name_mem_of_mem_definitionsBehind h.resolved (mem_filterMap_enum?.1 he)

/-- Taking the next signature queues the first mentions in the definition behind it. -/
theorem discovered_turn (h : Progress u roots taken a) {queue : List Signature}
    (hnext : a.queue = s :: queue) :
    taken ++ [s] ++ (queue ++ fresh a.visited (u.successors s)) =
      fresh [] (roots ++ (taken ++ [s]).flatMap u.successors) := by
  calc taken ++ [s] ++ (queue ++ fresh a.visited (u.successors s))
      = taken ++ a.queue ++ fresh ((taken ++ a.queue).map (·.name)) (u.successors s) := by
        rw [h.visited, hnext]
        simp
    _ = fresh [] (roots ++ taken.flatMap u.successors ++ u.successors s) := by
        rw [h.discovered, fresh_append [] (roots ++ _), List.nil_append]
    _ = fresh [] (roots ++ (taken ++ [s]).flatMap u.successors) := by
        rw [List.flatMap_append, List.flatMap_singleton, List.append_assoc]

/-- The next signature is taken in order. -/
theorem order_turn (h : Progress u roots taken a) {queue : List Signature}
    (hnext : a.queue = s :: queue) (before : List Signature) (t : Signature)
    (after : List Signature) (hsplit : taken ++ [s] = before ++ t :: after) :
    ∃ more, before ++ t :: more = fresh [] (roots ++ before.flatMap u.successors) := by
  rcases List.eq_nil_or_concat after with rfl | ⟨after, last, rfl⟩
  · obtain ⟨rfl, hlast⟩ := List.append_inj' hsplit rfl
    obtain rfl := List.singleton_inj.1 hlast
    exact ⟨queue, hnext ▸ h.discovered⟩
  · rw [List.concat_eq_append, ← List.cons_append, ← List.append_assoc] at hsplit
    exact h.order before t after (List.append_inj' hsplit rfl).1

/-- **One turn of the walk is one step of the search.** -/
theorem turn (h : Progress u roots taken a) (hroots : ∀ r ∈ roots, u.Labelled r)
    (hturn : Assembly.Turn u Resolver.default a s b) : Progress u roots (taken ++ [s]) b := by
  have hlabelled : ∀ queue, a.queue = s :: queue → u.Labelled s := by
    intro queue hnext
    exact h.labelled hroots s (by simp [hnext])
  cases hturn with
  -- the first two kinds of turns do not occur: a class stands behind the signature, and it is
  -- pending
  | @undescribed queue next unknown =>
    obtain ⟨id, hid, -⟩ := hlabelled queue next
    rw [unknown] at hid
    cases hid
  | @again queue id next described done =>
    exact absurd (h.next_pending hroots next described) done
  | @resolved queue id answer next described pending answered =>
    obtain ⟨id', hid', hname, -⟩ := hlabelled queue next
    obtain rfl : id = id' := Option.some.inj (described.symm.trans hid')
    obtain rfl := Universe.definition?_of_resolve described answered
    have hresolves : u.Resolves s := ⟨id, described, hname, answered⟩
    have hnew : ∀ d, u.definition? s = some d → d.name ∉ taken.map (·.name) := by
      intro d hd
      rw [hresolves.name hd]
      exact h.next_name next
    have hqueue := h.discovered_turn next
    rw [Assembly.absorb_eq]
    constructor
    case discovered => exact hqueue
    case order => exact h.order_turn next
    case visited =>
      rw [h.visited, next]
      simp
    case pending =>
      intro id' hid'
      by_cases heq : id' = id
      · exact .inr ⟨s, by simp, heq ▸ described⟩
      · rcases h.pending id' hid' with hpending | ⟨t, ht, htid⟩
        · exact .inl ((List.mem_erase_of_ne heq).2 hpending)
        · exact .inr ⟨t, List.mem_append_left _ ht, htid⟩
    case resolved =>
      intro t ht
      rcases List.mem_append.1 ht with ht | ht
      · exact h.resolved t ht
      · exact List.mem_singleton.1 ht ▸ hresolves
    -- the tables keep the first definition of a name, and this name is new to both of them
    case structs =>
      rw [Universe.structsBehind, Universe.filterMap_definitionsBehind_concat]
      refine Table.entries_setNew_named h.structs ?_
      intro st hst hkey
      obtain ⟨d, hd, hpick⟩ := Option.bind_eq_some_iff.1 hst
      obtain rfl := Definition.struct?_eq_some.1 hpick
      exact hnew _ hd (h.keys_taken (.inl hkey))
    case enums =>
      rw [Universe.enumsBehind, Universe.filterMap_definitionsBehind_concat]
      refine Table.entries_setNew_named h.enums ?_
      intro e he hkey
      obtain ⟨d, hd, hpick⟩ := Option.bind_eq_some_iff.1 he
      obtain rfl := Definition.enum?_eq_some.1 hpick
      exact hnew _ hd (h.keys_taken (.inr hkey))

/-- **A whole walk is a whole search.** -/
theorem run (h : Progress u roots taken a) (hroots : ∀ r ∈ roots, u.Labelled r)
    {more : List Signature} {c : Assembly} (hrun : Assembly.Run u Resolver.default a more c) :
    Progress u roots (taken ++ more) c ∧ c.queue = [] := by
  refine hrun.preserves ?_ h
  intro taken a s b h hturn
  exact h.turn hroots hturn

end Progress

/-! ## The search of a specification -/

/-- What the search of a specification starts from: what the methods of its services mention, and
then what the structs mention that describe its exceptions. -/
def searchRoots (services : List Service) (answers : List (Option Definition)) : List Signature :=
  mentions (serviceSignatures services ++ (answeredStructs answers).flatMap Struct.signatures)

/-- The search that a specification was assembled by: the exceptions were answered, and then
signatures were taken until nothing was left. -/
structure Search (u : Universe) (services : List Service) (exceptions : List Annotation)
    (answers : List (Option Definition)) (taken : List Signature) (spec : Specification) :
    Prop where
  grounded : ∀ s ∈ serviceSignatures services, u.Grounded s
  answered : List.Forall₂ (fun target answer =>
    (Resolver.default.resolve u target).outcome = .ok answer) exceptions answers
  complete : taken = fresh [] (searchRoots services answers ++ taken.flatMap u.successors)
  order : ∀ (before : List Signature) (s : Signature) (after : List Signature),
    taken = before ++ s :: after →
      ∃ more, before ++ s :: more =
        fresh [] (searchRoots services answers ++ before.flatMap u.successors)
  resolved : ∀ s ∈ taken, u.Resolves s
  assembled : spec = { services, structs := u.structsBehind taken, enums := u.enumsBehind taken
                       exceptions := answeredStructs answers }

/-- What the default resolver describes is a class. -/
theorem Universe.class_of_resolve {u : Universe} {target : Annotation} {d : Definition}
    (h : (Resolver.default.resolve u target).outcome = .ok (some d)) :
    ∃ id, target = .cls id ∧ u.Answered id (some d) := by
  cases target with
  | cls id => exact ⟨id, rfl, answered_of_resolve h⟩
  | _ => cases h

theorem mem_answeredStructs {answers : List (Option Definition)} {st : Struct} :
    st ∈ answeredStructs answers ↔ some (.struct st) ∈ answers := by
  simp [answeredStructs, Option.bind_eq_some_iff, Definition.struct?_eq_some]

/-- The structs that describe exceptions are read off classes. -/
theorem exists_class_of_answeredStructs {u : Universe} {exceptions : List Annotation}
    {answers : List (Option Definition)} (hanswers : List.Forall₂ (fun target answer =>
      (Resolver.default.resolve u target).outcome = .ok answer) exceptions answers)
    {st : Struct} (hst : st ∈ answeredStructs answers) :
    ∃ id, .cls id ∈ exceptions ∧
      (Resolver.default.resolve u (.cls id)).outcome = .ok (some (.struct st)) := by
  obtain ⟨target, htarget, hresolve⟩ :=
    exists_left_of_forall₂ hanswers (mem_answeredStructs.1 hst)
  obtain ⟨id, rfl, -⟩ := Universe.class_of_resolve hresolve
  exact ⟨id, htarget, hresolve⟩

/-- The roots of a search are mentioned by a method or by the struct of an exception. -/
theorem mem_searchRoots {services : List Service} {answers : List (Option Definition)}
    {r : Signature} : r ∈ searchRoots services answers ↔
      r ∈ mentions (serviceSignatures services) ∨
        ∃ st ∈ answeredStructs answers, r ∈ mentions st.signatures := by
  rw [searchRoots, mentions, List.flatMap_append, List.mem_append, List.flatMap_assoc]
  exact or_congr Iff.rfl List.mem_flatMap

/-- A class stands behind every root of a search. -/
theorem labelled_searchRoots {u : Universe} {services : List Service}
    {exceptions : List Annotation} {answers : List (Option Definition)}
    (hservices : ∀ s ∈ serviceSignatures services, u.Grounded s)
    (hanswers : List.Forall₂ (fun target answer =>
      (Resolver.default.resolve u target).outcome = .ok answer) exceptions answers) :
    ∀ r ∈ searchRoots services answers, u.Labelled r := by
  intro r hr
  rcases mem_searchRoots.1 hr with hr | ⟨st, hst, hr⟩
  · exact Universe.labelled_of_mem_mentions hservices r hr
  · obtain ⟨id, -, hresolve⟩ := exists_class_of_answeredStructs hanswers hst
    exact Universe.labelled_of_struct (Universe.answered_of_resolve hresolve) r hr

/-- The walk leaves the exceptions as they are. -/
theorem Assembly.Run.exceptions {u : Universe} {resolver : Resolver} {a c : Assembly}
    {taken : List Signature} (h : Run u resolver a taken c) : c.exceptions = a.exceptions := by
  induction h with
  | done _ => rfl
  | turn first _ ih =>
    rw [ih]
    cases first with
    | undescribed _ _ => rfl
    | again _ _ _ => rfl
    | resolved _ _ _ _ => rw [absorb_eq]

/-- **Every specification of classes is assembled by a search.** -/
theorem exists_search {u : Universe} {services : List Service} {resolver : Option Resolver}
    {exceptions : List Annotation} {spec : Specification}
    (hservices : ∀ s ∈ serviceSignatures services, u.Grounded s)
    (hresolver : Universe.effectiveResolver resolver = Resolver.default)
    (h : (u.specification services resolver exceptions).outcome = .ok spec) :
    ∃ answers taken, Search u services exceptions answers taken spec := by
  obtain ⟨-, answers, hanswers, c, hwalk, rfl⟩ := Universe.specification_eq_ok.1 h
  rw [hresolver] at hanswers hwalk
  obtain ⟨taken, hrun⟩ := Assembly.walk_eq_ok.1 hwalk
  have hroots := labelled_searchRoots hservices hanswers
  obtain ⟨hprogress, hqueue⟩ := (Progress.start u _ _).run hroots hrun
  refine ⟨answers, taken, hservices, hanswers, ?_, hprogress.order, hprogress.resolved, ?_⟩
  · have hdiscovered := hprogress.discovered
    rwa [hqueue, List.append_nil, List.nil_append] at hdiscovered
  · have hexceptions : c.exceptions = answeredStructs answers := by
      rw [hrun.exceptions, Assembly.start, Assembly.enqueueAll_eq]
    simp [Table.values, hprogress.structs, hprogress.enums, hexceptions, Function.comp_def]

end ServiceSchema

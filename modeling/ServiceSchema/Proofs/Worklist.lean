/-
The loop that works off a growing queue.

A round takes the next signature off the queue, consults the chain about the class behind it and
queues what the answer mentions under a name that is new. Only the queue decides whether there
is another round. Answers mention classes of the universe, or what fixed answers mention, so the
names that can be new run out, however the classes refer to each other: the loop comes to an
end. What it takes off the queue are the first mentions among what was queued and what the
answers mention, and each round consults the chain once at most.
-/
import Mathlib.Data.Finset.Card
import ServiceSchema.Proofs.Discovery

set_option autoImplicit false

namespace ServiceSchema

open Log.Traced

/-! ## What answers mention -/

/-- What a rule mentions whatever it is asked. -/
def ResolverRule.fixedMentions : ResolverRule → List Signature
  | fixed answer => answerMentions answer
  | _ => []

/-- What the fixed answers of a chain mention. -/
def Resolver.fixedMentions (chain : Resolver) : List Signature :=
  chain.rules.flatMap ResolverRule.fixedMentions

namespace Universe

variable {u : Universe} {chain : Resolver}

/-- The class behind a signature, if there is one, is a class of the universe. -/
def Known (u : Universe) (r : Signature) : Prop := ∀ id, r.descriptor = some id → id ∈ u.allClasses

theorem Labelled.known {r : Signature} (h : u.Labelled r) : u.Known r := by
  obtain ⟨id, hid, -, hclass⟩ := h
  intro id' hid'
  exact Option.some.inj (hid.symm.trans hid') ▸ hclass

theorem Answered.labelled {id : ClassId} {answer : Option Definition} (h : u.Answered id answer) :
    ∀ r ∈ answerMentions answer, u.Labelled r := by
  intro r hr
  match answer, h, hr with
  | some (.struct st), h, hr =>
    exact labelled_of_struct h r (by simpa [answerMentions, Definition.struct?] using hr)

/-- A structural answer mentions classes of the universe, also if the class is marked as a union
and a chain without the other rule overlooks it. -/
theorem labelled_of_structural {id : ClassId} {answer : Option Definition}
    (h : (u.structural id).outcome = .ok answer) : ∀ r ∈ answerMentions answer, u.Labelled r := by
  intro r hr
  unfold structural at h
  split at h
  · obtain ⟨e, -, rfl⟩ := defined_eq_ok.1 h
    simp [answerMentions, Definition.struct?] at hr
  · split at h
    · obtain rfl := Except.ok.inj h
      simp [answerMentions] at hr
    · obtain ⟨fields, hfields, h⟩ := bind_eq_ok.1 h
      obtain ⟨st, hst, rfl⟩ := defined_eq_ok.1 h
      obtain ⟨-, -, hstfields, -, honeOf, -⟩ := Struct.make?_eq_ok hst
      have hmentions : answerMentions (some (.struct st)) = mentions (fields.map (·.type)) := by
        simp [answerMentions, Definition.struct?, Struct.signatures, hstfields, honeOf]
      rw [hmentions] at hr
      refine labelled_of_mem_mentions ?_ r hr
      intro s hs
      obtain ⟨f, hf, rfl⟩ := List.mem_map.1 hs
      exact grounded_fields hfields f hf

theorem labelled_of_polymorphic {id : ClassId} {answer : Option Definition}
    (h : (u.polymorphic id).outcome = .ok answer) : ∀ r ∈ answerMentions answer, u.Labelled r := by
  cases hmarks : u.polymorphism? id with
  | none =>
    simp only [polymorphic, hmarks, outcome_pure] at h
    obtain rfl := Except.ok.inj h
    intro r hr
    simp [answerMentions] at hr
  | some marks => exact (answered_polymorphic (by rw [hmarks]; rfl) h).1.labelled

theorem labelled_or_fixed_of_rule {rule : ResolverRule} {target : Annotation}
    {answer : Option Definition} (h : (rule.resolve u target).outcome = .ok answer) :
    ∀ r ∈ answerMentions answer, u.Labelled r ∨ r ∈ rule.fixedMentions := by
  intro r hr
  cases rule with
  | fixed given =>
    obtain rfl := Except.ok.inj h
    exact .inr hr
  | structural =>
    cases target with
    | cls id => exact .inl (labelled_of_structural h r hr)
    | none => cases h
    | _ =>
      obtain rfl := Except.ok.inj h
      simp [answerMentions] at hr
  | polymorphic =>
    cases target with
    | cls id => exact .inl (labelled_of_polymorphic h r hr)
    | none => cases h
    | _ =>
      obtain rfl := Except.ok.inj h
      simp [answerMentions] at hr

mutual

/-- **The answers of a chain mention nothing but classes of the universe** and what its fixed
answers mention. -/
theorem labelled_or_fixed {target : Annotation} {answer : Option Definition} :
    ∀ {chain : Resolver}, (chain.resolve u target).outcome = .ok answer →
      ∀ r ∈ answerMentions answer, u.Labelled r ∨ r ∈ chain.fixedMentions
  | .single rule, h, r, hr => by
    have hrule : u.Labelled r ∨ r ∈ rule.fixedMentions := labelled_or_fixed_of_rule h r hr
    simpa [Resolver.fixedMentions, ResolverOf.rules] using hrule
  | .chain members, h, r, hr => by
    have hfirst : (ResolverOf.firstAnswer u target members).outcome = .ok answer := by
      cases target with
      | none => cases h
      | _ => exact h
    exact labelled_or_fixed_among hfirst r hr

/-- The same of the members of a chain. -/
theorem labelled_or_fixed_among {target : Annotation} {answer : Option Definition} :
    ∀ {members : List Resolver},
      (ResolverOf.firstAnswer u target members).outcome = .ok answer →
      ∀ r ∈ answerMentions answer,
        u.Labelled r ∨ r ∈ (ResolverOf.rulesAmong members).flatMap ResolverRule.fixedMentions
  | [], h, r, hr => by
    obtain rfl := Except.ok.inj h
    simp [answerMentions] at hr
  | member :: rest, h, r, hr => by
    rw [ResolverOf.rulesAmong, List.flatMap_append, List.mem_append]
    rcases firstAnswer_cons_eq_ok.1 h with ⟨-, hrest⟩ | ⟨d, hd, rfl⟩
    · exact (labelled_or_fixed_among hrest r hr).imp_right .inr
    · exact (labelled_or_fixed hd r hr).imp_right .inl

end

/-- The names that answers of a chain can mention. -/
def mentionable (u : Universe) (chain : Resolver) : Finset String :=
  (u.allClasses.map u.fullName ++ chain.fixedMentions.map (·.name)).toFinset

theorem name_mem_mentionable {target : Annotation} {answer : Option Definition}
    (h : (chain.resolve u target).outcome = .ok answer) {r : Signature}
    (hr : r ∈ answerMentions answer) : r.name ∈ u.mentionable chain := by
  rw [mentionable, List.mem_toFinset, List.mem_append]
  rcases labelled_or_fixed h r hr with ⟨id, -, hname, hclass⟩ | hfixed
  · exact .inl (hname ▸ List.mem_map_of_mem hclass)
  · exact .inr (List.mem_map_of_mem hfixed)

/-- The answer of a chain, where it has one. -/
def answer? (u : Universe) (chain : Resolver) (target : Annotation) : Option Definition :=
  (chain.resolve u target).outcome.toOption.join

/-- What the answers to consultations mention. -/
def answersMention (u : Universe) (chain : Resolver) (consulted : List Annotation) :
    List Signature :=
  consulted.flatMap fun target => answerMentions (u.answer? chain target)

theorem answer?_of_ok {target : Annotation} {answer : Option Definition}
    (h : (chain.resolve u target).outcome = .ok answer) : u.answer? chain target = answer := by
  simp [answer?, h, Except.toOption]

end Universe

/-! ## The loop -/

namespace Assembly

variable {u : Universe} {chain : Resolver}

/-- The loop from a state to its end: the signatures that its rounds take off the queue, the
classes that they consult the chain about, and the last state, unless the chain raises. -/
inductive Loop (u : Universe) (chain : Resolver) :
    Assembly → List Signature → List ClassId → Except ClassError Assembly → Prop where
  | done {a : Assembly} (empty : a.queue = []) : Loop u chain a [] [] (.ok a)
  | undescribed {a : Assembly} {s : Signature} {queue popped : List Signature}
      {asked : List ClassId} {result : Except ClassError Assembly} (next : a.queue = s :: queue)
      (unknown : s.descriptor = none) (more : Loop u chain { a with queue } popped asked result) :
      Loop u chain a (s :: popped) asked result
  | raised {a : Assembly} {s : Signature} {queue : List Signature} {id : ClassId} {e : ClassError}
      (next : a.queue = s :: queue) (described : s.descriptor = some id)
      (error : (chain.resolve u (.cls id)).outcome = .error e) :
      Loop u chain a [s] [id] (.error e)
  | answered {a : Assembly} {s : Signature} {queue popped : List Signature} {id : ClassId}
      {asked : List ClassId} {answer : Option Definition} {result : Except ClassError Assembly}
      (next : a.queue = s :: queue) (described : s.descriptor = some id)
      (resolved : (chain.resolve u (.cls id)).outcome = .ok answer)
      (more : Loop u chain ({ a with queue }.absorb answer) popped asked result) :
      Loop u chain a (s :: popped) (id :: asked) result

/-! ### Termination -/

/-- What is queued and what can still be queued. -/
def remaining (u : Universe) (chain : Resolver) (a : Assembly) : Nat :=
  a.queue.length + (u.mentionable chain \ a.visited.toFinset).card

/-- New names are as many less that are not known. -/
theorem card_sdiff_append (all : Finset String) {known more : List String}
    (hnodup : (known ++ more).Nodup) (hmore : ∀ name ∈ more, name ∈ all) :
    (all \ (known ++ more).toFinset).card + more.length = (all \ known.toFinset).card := by
  obtain ⟨-, hnames, hdisjoint⟩ := List.nodup_append.1 hnodup
  have hsub : more.toFinset ⊆ all \ known.toFinset := by
    intro name hname
    have hname := List.mem_toFinset.1 hname
    rw [Finset.mem_sdiff, List.mem_toFinset]
    exact ⟨hmore name hname, fun hknown => hdisjoint name hknown name hname rfl⟩
  calc (all \ (known ++ more).toFinset).card + more.length
      = ((all \ known.toFinset) \ more.toFinset).card + more.toFinset.card := by
        rw [List.toFinset_append, Finset.sdiff_union_distrib, ← Finset.sdiff_sdiff_left',
          List.toFinset_card_of_nodup hnames]
    _ = (all \ known.toFinset).card := Finset.card_sdiff_add_card_eq_card hsub

/-- A mention that is queued is one less that can still be queued. -/
theorem remaining_absorb {a : Assembly} (hvisited : a.visited.Nodup) {target : Annotation}
    {answer : Option Definition} (h : (chain.resolve u target).outcome = .ok answer) :
    remaining u chain (a.absorb answer) = remaining u chain a := by
  have hcard := card_sdiff_append (u.mentionable chain)
    (nodup_fresh hvisited (answerMentions answer)) (by
      intro name hname
      obtain ⟨r, hr, rfl⟩ := List.mem_map.1 hname
      exact Universe.name_mem_mentionable h (mem_of_mem_fresh hr))
  rw [List.length_map] at hcard
  rw [remaining, remaining, absorb_eq]
  dsimp only
  rw [List.length_append]
  omega

theorem nodup_visited_absorb {a : Assembly} (h : a.visited.Nodup) (answer : Option Definition) :
    (a.absorb answer).visited.Nodup := by
  rw [absorb_eq]
  exact nodup_fresh h (answerMentions answer)

/-- **The loop comes to an end**: every round leaves one signature less. -/
theorem exists_loop (u : Universe) (chain : Resolver) {a : Assembly} (hvisited : a.visited.Nodup) :
    ∃ popped asked result, Loop u chain a popped asked result := by
  -- the induction is on what is left: the queue alone may well grow in a round
  induction hn : remaining u chain a generalizing a with
  | zero =>
    have hqueue : a.queue = [] := by
      rw [remaining] at hn
      exact List.eq_nil_of_length_eq_zero (by omega)
    exact ⟨[], [], _, .done hqueue⟩
  | succ n ih =>
    cases hqueue : a.queue with
    | nil => exact ⟨[], [], _, .done hqueue⟩
    | cons s queue =>
      have hless : remaining u chain { a with queue } = n := by
        rw [remaining, hqueue, List.length_cons] at hn
        rw [remaining]
        dsimp only
        omega
      cases hid : s.descriptor with
      | none =>
        obtain ⟨popped, asked, result, hmore⟩ := ih (a := { a with queue }) hvisited hless
        exact ⟨_, _, _, .undescribed hqueue hid hmore⟩
      | some id =>
        cases hresolve : (chain.resolve u (.cls id)).outcome with
        | error e => exact ⟨_, _, _, .raised hqueue hid hresolve⟩
        | ok answer =>
          have hstate : ({ a with queue } : Assembly).visited.Nodup := hvisited
          obtain ⟨popped, asked, result, hmore⟩ := ih (nodup_visited_absorb hstate answer)
            ((remaining_absorb hstate hresolve).trans hless)
          exact ⟨_, _, _, .answered hqueue hid hresolve hmore⟩

/-! ### Determinism

What the next round does is settled by the queue, the signature and the answer. -/

section Inversion

variable {a : Assembly} {s : Signature} {queue popped : List Signature} {asked : List ClassId}
variable {result : Except ClassError Assembly}

theorem Loop.eq_of_done (h : Loop u chain a popped asked result) (hqueue : a.queue = []) :
    popped = [] ∧ asked = [] ∧ result = .ok a := by
  cases h with
  | done _ => exact ⟨rfl, rfl, rfl⟩
  | undescribed next _ _ | raised next _ _ | answered next _ _ _ =>
    rw [hqueue] at next
    cases next

theorem Loop.exists_of_undescribed (h : Loop u chain a popped asked result)
    (hqueue : a.queue = s :: queue) (hunknown : s.descriptor = none) :
    ∃ more, popped = s :: more ∧ Loop u chain { a with queue } more asked result := by
  cases h with
  | done empty =>
    rw [hqueue] at empty
    cases empty
  | undescribed next _ more =>
    obtain ⟨rfl, rfl⟩ := List.cons.inj (hqueue.symm.trans next)
    exact ⟨_, rfl, more⟩
  | raised next described _ | answered next described _ _ =>
    obtain ⟨rfl, -⟩ := List.cons.inj (hqueue.symm.trans next)
    rw [hunknown] at described
    cases described

variable {id : ClassId}

theorem Loop.exists_of_described (h : Loop u chain a popped asked result)
    (hqueue : a.queue = s :: queue) (hid : s.descriptor = some id) :
    (∃ e, (chain.resolve u (.cls id)).outcome = .error e ∧
      popped = [s] ∧ asked = [id] ∧ result = .error e) ∨
    ∃ answer more rest, (chain.resolve u (.cls id)).outcome = .ok answer ∧
      popped = s :: more ∧ asked = id :: rest ∧
      Loop u chain ({ a with queue }.absorb answer) more rest result := by
  cases h with
  | done empty =>
    rw [hqueue] at empty
    cases empty
  | undescribed next unknown _ =>
    obtain ⟨rfl, -⟩ := List.cons.inj (hqueue.symm.trans next)
    rw [hid] at unknown
    cases unknown
  | raised next described error =>
    obtain ⟨rfl, -⟩ := List.cons.inj (hqueue.symm.trans next)
    obtain rfl := Option.some.inj (hid.symm.trans described)
    exact .inl ⟨_, error, rfl, rfl, rfl⟩
  | answered next described resolved more =>
    obtain ⟨rfl, rfl⟩ := List.cons.inj (hqueue.symm.trans next)
    obtain rfl := Option.some.inj (hid.symm.trans described)
    exact .inr ⟨_, _, _, resolved, rfl, rfl, more⟩

end Inversion

/-- The loop goes one way only. -/
theorem Loop.unique {a : Assembly} {popped popped' : List Signature} {asked asked' : List ClassId}
    {result result' : Except ClassError Assembly} (h : Loop u chain a popped asked result)
    (h' : Loop u chain a popped' asked' result') :
    popped' = popped ∧ asked' = asked ∧ result' = result := by
  induction h generalizing popped' asked' result' with
  | done empty => exact h'.eq_of_done empty
  | undescribed next unknown _ ih =>
    obtain ⟨more, rfl, hmore⟩ := h'.exists_of_undescribed next unknown
    obtain ⟨rfl, rfl, rfl⟩ := ih hmore
    exact ⟨rfl, rfl, rfl⟩
  | raised next described error =>
    rcases h'.exists_of_described next described with
      ⟨e, herror, rfl, rfl, rfl⟩ | ⟨answer, _, _, hanswer, -⟩
    · obtain rfl := Except.error.inj (error.symm.trans herror)
      exact ⟨rfl, rfl, rfl⟩
    · cases error.symm.trans hanswer
  | answered next described resolved _ ih =>
    rcases h'.exists_of_described next described with
      ⟨e, herror, -⟩ | ⟨answer, more, rest, hanswer, rfl, rfl, hmore⟩
    · cases resolved.symm.trans herror
    · obtain rfl := Except.ok.inj (resolved.symm.trans hanswer)
      obtain ⟨rfl, rfl, rfl⟩ := ih hmore
      exact ⟨rfl, rfl, rfl⟩

/-! ### Rounds and consultations -/

/-- Every round consults the chain about the class behind its signature, if there is one. -/
theorem Loop.asked_eq {a : Assembly} {popped : List Signature} {asked : List ClassId}
    {result : Except ClassError Assembly} (h : Loop u chain a popped asked result) :
    asked = popped.filterMap (·.descriptor) := by
  induction h with
  | done _ => rfl
  | undescribed _ unknown _ ih => rw [List.filterMap_cons_none unknown, ih]
  | raised _ described _ => rw [List.filterMap_cons_some described, List.filterMap_nil]
  | answered _ described _ _ ih => rw [List.filterMap_cons_some described, ih]

/-- **What the loop takes off the queue** is what was queued, followed by the first mentions in
the answers. All of it is taken unless the chain raises. -/
theorem Loop.popped_eq {a : Assembly} {popped : List Signature} {asked : List ClassId}
    {result : Except ClassError Assembly} (h : Loop u chain a popped asked result) :
    ∃ rest, popped ++ rest =
        a.queue ++ fresh a.visited (u.answersMention chain (asked.map .cls)) ∧
      ∀ c, result = .ok c → rest = [] := by
  induction h with
  | done empty => exact ⟨[], by simp [empty, Universe.answersMention, fresh], fun _ _ => rfl⟩
  | undescribed next _ _ ih =>
    obtain ⟨rest, hpopped, hrest⟩ := ih
    exact ⟨rest, by rw [next, List.cons_append, hpopped, List.cons_append], hrest⟩
  | @raised a s queue id e next _ error =>
    refine ⟨queue ++ fresh a.visited (u.answersMention chain [.cls id]), ?_, ?_⟩
    · rw [next]
      rfl
    · intro c hc
      cases hc
  | @answered a s queue popped id asked answer result next _ hanswer _ ih =>
    obtain ⟨rest, hpopped, hrest⟩ := ih
    refine ⟨rest, ?_, hrest⟩
    have hmention : u.answersMention chain ((id :: asked).map .cls) =
        answerMentions answer ++ u.answersMention chain (asked.map .cls) := by
      rw [Universe.answersMention, List.map_cons, List.flatMap_cons,
        Universe.answer?_of_ok hanswer]
      rfl
    rw [absorb_eq] at hpopped
    rw [next, List.cons_append, hpopped, hmention, fresh_append, List.cons_append,
      List.append_assoc]

/-! ### The loop and the walk

The walk leaves out what it has resolved before, and the loop would consult the chain again. That
makes no difference: an answer that was taken in adds nothing when it is taken in again. -/

/-- An answer that adds nothing to a state. -/
def Absorbed (a : Assembly) (answer : Option Definition) : Prop :=
  (∀ s, answer.bind Definition.struct? = some s → s.name ∈ a.structs.keys) ∧
  (∀ e, answer.bind Definition.enum? = some e → e.name ∈ a.enums.keys) ∧
  ∀ r ∈ answerMentions answer, r.name ∈ a.visited

theorem fresh_eq_nil {known : List String} {all : List Signature}
    (h : ∀ r ∈ all, r.name ∈ known) : fresh known all = [] := by
  induction all with
  | nil => rfl
  | cons s rest ih =>
    have hs : known.contains s.name = true := by simpa using h s List.mem_cons_self
    rw [fresh, if_pos hs]
    exact ih fun r hr => h r (List.mem_cons_of_mem s hr)

theorem Absorbed.absorb_eq_self {a : Assembly} {answer : Option Definition}
    (h : a.Absorbed answer) : a.absorb answer = a := by
  obtain ⟨hstruct, henum, hmentioned⟩ := h
  rw [absorb_eq, fresh_eq_nil hmentioned, List.map_nil, List.append_nil, List.append_nil]
  match answer with
  | none => rfl
  | some (.enum e) =>
    have hkey := henum e rfl
    simp [Definition.struct?, Definition.enum?, Table.setNew, hkey]
  | some (.struct s) =>
    have hkey := hstruct s rfl
    simp [Definition.struct?, Definition.enum?, Table.setNew, hkey]

end Assembly

theorem Table.mem_keys_setNew {α : Type} {t : Table α} {key k : String} {value : α} :
    k ∈ (t.setNew key value).keys ↔ k = key ∨ k ∈ t.keys := by
  rw [setNew]
  split
  · next hkey =>
    constructor
    · exact .inr
    · rintro (rfl | h)
      · exact hkey
      · exact h
  · exact mem_keys_setEntry key k value t.entries

namespace Assembly

variable {u : Universe} {chain : Resolver}

theorem absorbed_absorb (a : Assembly) (answer : Option Definition) :
    (a.absorb answer).Absorbed answer := by
  rw [absorb_eq]
  refine ⟨?_, ?_, fun r hr => name_mem_of_mem hr⟩
  · intro s hs
    simp [hs, Table.mem_keys_setNew]
  · intro e he
    simp [he, Table.mem_keys_setNew]

/-- What adds nothing to a state adds nothing to what comes of the state. -/
theorem Absorbed.absorb {a : Assembly} {answer : Option Definition} (h : a.Absorbed answer)
    (other : Option Definition) : (a.absorb other).Absorbed answer := by
  obtain ⟨hstruct, henum, hmentioned⟩ := h
  rw [absorb_eq]
  refine ⟨?_, ?_, fun r hr => List.mem_append_left _ (hmentioned r hr)⟩
  · intro s hs
    cases other.bind Definition.struct? with
    | none => exact hstruct s hs
    | some _ => exact Table.mem_keys_setNew.2 (.inr (hstruct s hs))
  · intro e he
    cases other.bind Definition.enum? with
    | none => exact henum e he
    | some _ => exact Table.mem_keys_setNew.2 (.inr (henum e he))

/-- The specification that a state amounts to. -/
def assembled (services : List Service) (a : Assembly) : Specification where
  services := services
  enums := a.enums.values
  structs := a.structs.values
  exceptions := a.exceptions

/-- **The walk yields what the loop yields.** The induction is on the rounds of the loop; what
was resolved before is left out by the walk and absorbed by the loop. -/
theorem Loop.outcome_walk {a : Assembly} {popped : List Signature} {asked : List ClassId}
    {result : Except ClassError Assembly} (h : Loop u chain a popped asked result)
    (hfixed : ∀ r ∈ chain.fixedMentions, u.Known r) {pending : List ClassId}
    (hqueue : ∀ r ∈ a.queue, u.Known r)
    (hpending : ∀ id ∈ u.allClasses, id ∈ pending ∨
      ∃ answer, (chain.resolve u (.cls id)).outcome = .ok answer ∧ a.Absorbed answer)
    (services : List Service) :
    (walk u chain { a with pending }).outcome.map (assembled services)
      = result.map (assembled services) := by
  induction h generalizing pending with
  | @done a empty =>
    rw [walk_done (a := { a with pending }) empty]
    rfl
  | @undescribed a s queue popped asked result next unknown _ ih =>
    rw [walk_undescribed (a := { a with pending }) next unknown]
    refine ih ?_ hpending
    intro r hr
    exact hqueue r (next ▸ List.mem_cons_of_mem s hr)
  | @raised a s queue id e next described error =>
    have hclass : id ∈ u.allClasses := hqueue s (next ▸ List.mem_cons_self) id described
    rcases hpending id hclass with hid | ⟨answer, hanswer, -⟩
    · simp only [walk_cons (a := { a with pending }) next, described, if_pos hid, outcome_bind,
        error]
      rfl
    · cases error.symm.trans hanswer
  | @answered a s queue popped id asked answer result next described hanswer _ ih =>
    have hclass : id ∈ u.allClasses := hqueue s (next ▸ List.mem_cons_self) id described
    have hrest : ∀ r ∈ queue, u.Known r := by
      intro r hr
      exact hqueue r (next ▸ List.mem_cons_of_mem s hr)
    by_cases hid : id ∈ pending
    -- the class is resolved for the first time, and from now on its answer is absorbed
    · have hstep : (walk u chain { a with pending }).outcome =
          (walk u chain ({ a with queue, pending := pending.erase id }.absorb answer)).outcome := by
        simp only [walk_cons (a := { a with pending }) next, described, if_pos hid, outcome_bind,
          hanswer, outcome_remark]
        rfl
      rw [hstep]
      have hstate : ({ a with queue, pending := pending.erase id } : Assembly).absorb answer =
          { ({ a with queue } : Assembly).absorb answer with pending := pending.erase id } := by
        rw [absorb_eq, absorb_eq]
      rw [hstate]
      refine ih ?_ ?_
      · intro r hr
        rw [absorb_eq, List.mem_append] at hr
        rcases hr with hr | hr
        · exact hrest r hr
        · rcases Universe.labelled_or_fixed hanswer r (mem_of_mem_fresh hr) with hlabelled | hr
          · exact hlabelled.known
          · exact hfixed r hr
      · intro id' hid'
        by_cases heq : id' = id
        · exact .inr ⟨answer, heq ▸ hanswer, absorbed_absorb _ answer⟩
        · rcases hpending id' hid' with hp | ⟨answer', hanswer', habsorbed⟩
          · exact .inl ((List.mem_erase_of_ne heq).2 hp)
          · exact .inr ⟨answer', hanswer', Absorbed.absorb (a := { a with queue }) habsorbed answer⟩
    -- the chain was consulted about this class before, so its answer is known
    · rcases hpending id hclass with hp | ⟨answer', hanswer', habsorbed⟩
      · exact absurd hp hid
      · obtain rfl := Except.ok.inj (hanswer.symm.trans hanswer')
        have hsame : ({ a with queue } : Assembly).absorb answer = { a with queue } :=
          Absorbed.absorb_eq_self (a := { a with queue }) habsorbed
        rw [hsame] at ih
        rw [walk_again (a := { a with pending }) next described hid]
        exact ih hrest hpending

end Assembly

end ServiceSchema

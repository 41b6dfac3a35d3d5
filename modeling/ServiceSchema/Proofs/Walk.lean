/-
The walk over the types of a specification, one signature after another.

Taking in signatures adds to the queue what is mentioned for the first time, and to the
visited names what those are called. A turn of the walk takes one signature off the queue;
a run lists the signatures that its turns took. The walk succeeds exactly if there is a run
to its end, so whatever every turn preserves holds of the specification that is assembled.
-/
import ServiceSchema.Class.Assembly
import ServiceSchema.Proofs.ClassDefinitions
import ServiceSchema.Proofs.Tables

set_option autoImplicit false

namespace ServiceSchema

open Log.Traced

/-! ## First mentions -/

/-- The signatures whose names are neither known nor those of earlier ones. -/
def fresh (known : List String) : List Signature → List Signature
  | [] => []
  | s :: rest =>
    if known.contains s.name then fresh known rest else s :: fresh (known ++ [s.name]) rest

theorem mem_of_mem_fresh {known : List String} {all : List Signature} {s : Signature}
    (h : s ∈ fresh known all) : s ∈ all := by
  induction all generalizing known with
  | nil => exact h
  | cons first rest ih =>
    rw [fresh] at h
    split at h
    · exact List.mem_cons_of_mem first (ih h)
    · rcases List.mem_cons.1 h with rfl | h
      · exact List.mem_cons_self
      · exact List.mem_cons_of_mem first (ih h)

/-- What the first part mentions for the first time is known when the second part is searched. -/
theorem fresh_append (known : List String) (first second : List Signature) :
    fresh known (first ++ second)
      = fresh known first ++ fresh (known ++ (fresh known first).map (·.name)) second := by
  induction first generalizing known with
  | nil => simp [fresh]
  | cons s rest ih =>
    rw [List.cons_append, fresh, fresh]
    split
    · exact ih known
    · rw [ih]
      simp [List.append_assoc]

/-- Every mention is known by name after the first mentions are. -/
theorem name_mem_of_mem {known : List String} {all : List Signature} {s : Signature}
    (h : s ∈ all) : s.name ∈ known ++ (fresh known all).map (·.name) := by
  induction all generalizing known with
  | nil => exact absurd h List.not_mem_nil
  | cons first rest ih =>
    rw [fresh]
    rcases List.mem_cons.1 h with rfl | h
    · split
      · next hknown => exact List.mem_append_left _ (by simpa using hknown)
      · exact List.mem_append_right _ (by simp)
    · split
      · exact ih h
      -- the name of the first mention moves from the list in front into the names that are known
      · have hrest : s.name ∈ (known ++ [first.name]) ++
            (fresh (known ++ [first.name]) rest).map (·.name) := ih h
        rwa [List.append_assoc, List.singleton_append, ← List.map_cons] at hrest

/-- The names of first mentions are new and occur once. -/
theorem nodup_fresh {known : List String} (hknown : known.Nodup) (all : List Signature) :
    (known ++ (fresh known all).map (·.name)).Nodup := by
  induction all generalizing known with
  | nil => simpa [fresh] using hknown
  | cons s rest ih =>
    rw [fresh]
    split
    · exact ih hknown
    · next hnew =>
      -- the name is not known yet, so the names that are known stay different with it
      have hmore : (known ++ [s.name]).Nodup := by
        rw [List.nodup_append]
        refine ⟨hknown, List.nodup_singleton _, ?_⟩
        rintro name hname _ hself rfl
        rw [List.mem_singleton.1 hself] at hname
        exact hnew (by simpa using hname)
      have := ih hmore
      rwa [List.append_assoc, List.singleton_append, ← List.map_cons] at this

/-! ## Taking in signatures -/

/-- What signatures mention, in order. -/
def mentions (signatures : List Signature) : List Signature :=
  signatures.flatMap Signature.references

/-- The struct that a definition is, if it is one. -/
def Definition.struct? : Definition → Option Struct
  | struct s => some s
  | enum _ => none

/-- The enum that a definition is, if it is one. -/
def Definition.enum? : Definition → Option Enumeration
  | struct _ => none
  | enum e => some e

theorem Definition.struct?_eq_some {d : Definition} {s : Struct} :
    d.struct? = some s ↔ d = .struct s := by
  cases d <;> simp [struct?]

theorem Definition.enum?_eq_some {d : Definition} {e : Enumeration} :
    d.enum? = some e ↔ d = .enum e := by
  cases d <;> simp [enum?]

/-- What an answer mentions. -/
def answerMentions (answer : Option Definition) : List Signature :=
  ((answer.bind Definition.struct?).toList.flatMap fun s => mentions s.signatures)

namespace Assembly

/-- Mentions add what is mentioned for the first time, and nothing else. -/
theorem foldl_mention (a : Assembly) (all : List Signature) :
    all.foldl mention a =
      { a with
        visited := a.visited ++ (fresh a.visited all).map (·.name)
        queue := a.queue ++ fresh a.visited all } := by
  induction all generalizing a with
  | nil => simp [fresh]
  | cons s rest ih =>
    rw [List.foldl_cons, ih, mention, fresh]
    split
    · rfl
    · simp [List.append_assoc]

theorem enqueueAll_eq_foldl (a : Assembly) (signatures : List Signature) :
    a.enqueueAll signatures = (mentions signatures).foldl mention a := by
  rw [mentions, List.foldl_flatMap]
  rfl

/-- Taking in signatures adds their first mentions, and nothing else. -/
theorem enqueueAll_eq (a : Assembly) (signatures : List Signature) :
    a.enqueueAll signatures =
      { a with
        visited := a.visited ++ (fresh a.visited (mentions signatures)).map (·.name)
        queue := a.queue ++ fresh a.visited (mentions signatures) } := by
  rw [enqueueAll_eq_foldl, foldl_mention]

theorem enqueueAll_append (a : Assembly) (first second : List Signature) :
    a.enqueueAll (first ++ second) = (a.enqueueAll first).enqueueAll second :=
  List.foldl_append

/-- An answer is taken in by its definition, which keeps an earlier one of its name, and by
the first mentions of its struct. -/
theorem absorb_eq (a : Assembly) (answer : Option Definition) :
    a.absorb answer =
      { a with
        structs := (answer.bind Definition.struct?).elim a.structs
          fun s => a.structs.setNew s.name s
        enums := (answer.bind Definition.enum?).elim a.enums fun e => a.enums.setNew e.name e
        visited := a.visited ++ (fresh a.visited (answerMentions answer)).map (·.name)
        queue := a.queue ++ fresh a.visited (answerMentions answer) } := by
  match answer with
  | none => simp [absorb, answerMentions, fresh]
  | some (.enum e) => simp [absorb, answerMentions, fresh, Definition.struct?, Definition.enum?]
  | some (.struct s) =>
    simp [absorb, answerMentions, enqueueAll_eq, Definition.struct?, Definition.enum?]

/-! ## Turns and runs -/

variable {u : Universe} {resolver : Resolver}

/-- One turn of the walk takes a signature off the queue. It resolves the class behind the
signature, unless there is none or the class was resolved before. -/
inductive Turn (u : Universe) (resolver : Resolver) : Assembly → Signature → Assembly → Prop where
  | undescribed {a : Assembly} {s : Signature} {queue : List Signature}
      (next : a.queue = s :: queue) (unknown : s.descriptor = none) :
      Turn u resolver a s { a with queue }
  | again {a : Assembly} {s : Signature} {queue : List Signature} {id : ClassId}
      (next : a.queue = s :: queue) (described : s.descriptor = some id)
      (done : id ∉ a.pending) : Turn u resolver a s { a with queue }
  | resolved {a : Assembly} {s : Signature} {queue : List Signature} {id : ClassId}
      {answer : Option Definition} (next : a.queue = s :: queue)
      (described : s.descriptor = some id) (pending : id ∈ a.pending)
      (answered : (resolver.resolve u (.cls id)).outcome = .ok answer) :
      Turn u resolver a s ({ a with queue, pending := a.pending.erase id }.absorb answer)

/-- A run takes signatures off the queue until it is empty. -/
inductive Run (u : Universe) (resolver : Resolver) :
    Assembly → List Signature → Assembly → Prop where
  | done {a : Assembly} (empty : a.queue = []) : Run u resolver a [] a
  | turn {a b c : Assembly} {s : Signature} {rest : List Signature}
      (first : Turn u resolver a s b) (more : Run u resolver b rest c) :
      Run u resolver a (s :: rest) c

/-- Remarks on an answer never fail. -/
theorem outcome_remark (s : Signature) (id : ClassId) (answer : Option Definition) :
    (remark u s id answer).outcome = .ok () := by
  match answer with
  | none => rfl
  | some (.enum _) => rfl
  | some (.struct _) =>
    simp only [remark]
    split <;> rfl

theorem walk_done {a : Assembly} (h : a.queue = []) : (a.walk u resolver).outcome = .ok a := by
  rw [walk]
  split
  · rfl
  · next s queue hqueue =>
    rw [h] at hqueue
    cases hqueue

/-- What the walk does with the first signature of the queue. -/
theorem walk_cons {a : Assembly} {s : Signature} {queue : List Signature}
    (h : a.queue = s :: queue) :
    a.walk u resolver =
      match s.descriptor with
      | none => do
        warn ("No descriptor for " ++ s.kind.word ++ " " ++ Text.quoted s.name
          ++ "; leaving it unresolved")
        walk u resolver { a with queue }
      | some id =>
        if id ∈ a.pending then do
          let answer ← resolver.resolve u (.cls id)
          remark u s id answer
          walk u resolver ({ a with queue, pending := a.pending.erase id }.absorb answer)
        else walk u resolver { a with queue } := by
  -- the definition looks at the queue together with a proof of what it is, so the queue cannot
  -- be rewritten in it
  rw [walk]
  split
  · next hnil =>
    rw [h] at hnil
    cases hnil
  · next s' queue' hqueue =>
    obtain ⟨rfl, rfl⟩ := List.cons.inj (h.symm.trans hqueue)
    cases s.descriptor with
    | none => rfl
    | some id =>
      by_cases hpending : id ∈ a.pending
      · simp only [dif_pos hpending, if_pos hpending]
      · simp only [dif_neg hpending, if_neg hpending]

theorem walk_undescribed {a : Assembly} {s : Signature} {queue : List Signature}
    (h : a.queue = s :: queue) (hunknown : s.descriptor = none) :
    (a.walk u resolver).outcome = (walk u resolver { a with queue }).outcome := by
  simp only [walk_cons h, hunknown, warn, report_bind_outcome]

theorem walk_again {a : Assembly} {s : Signature} {queue : List Signature} {id : ClassId}
    (h : a.queue = s :: queue) (hid : s.descriptor = some id) (hdone : id ∉ a.pending) :
    (a.walk u resolver).outcome = (walk u resolver { a with queue }).outcome := by
  simp only [walk_cons h, hid, if_neg hdone]

/-- A pending class is resolved, and the walk goes on with what its answer mentions. -/
theorem walk_resolved {a c : Assembly} {s : Signature} {queue : List Signature} {id : ClassId}
    (h : a.queue = s :: queue) (hid : s.descriptor = some id) (hpending : id ∈ a.pending) :
    (a.walk u resolver).outcome = .ok c ↔
      ∃ answer, (resolver.resolve u (.cls id)).outcome = .ok answer ∧
        (walk u resolver
          ({ a with queue, pending := a.pending.erase id }.absorb answer)).outcome = .ok c := by
  simp only [walk_cons h, hid, if_pos hpending, bind_eq_ok, outcome_remark, true_and,
    exists_const]

/-- **The walk succeeds exactly if there is a run to its end.** The induction follows the walk;
each of its cases is one kind of turn. -/
theorem walk_eq_ok {a c : Assembly} :
    (a.walk u resolver).outcome = .ok c ↔ ∃ taken, Run u resolver a taken c := by
  constructor
  · intro h
    induction a using walk.induct with
    | case1 a hqueue =>
      rw [walk_done hqueue] at h
      obtain rfl := Except.ok.inj h
      exact ⟨[], .done hqueue⟩
    | case2 a s queue hqueue _ hunknown ih =>
      rw [walk_undescribed hqueue hunknown] at h
      obtain ⟨taken, hrun⟩ := ih h
      exact ⟨s :: taken, .turn (.undescribed hqueue hunknown) hrun⟩
    | case3 a s queue hqueue _ id hid hpending _ ih =>
      obtain ⟨answer, hanswer, h⟩ := (walk_resolved hqueue hid hpending).1 h
      obtain ⟨taken, hrun⟩ := ih answer h
      exact ⟨s :: taken, .turn (.resolved hqueue hid hpending hanswer) hrun⟩
    | case4 a s queue hqueue _ id hid hdone ih =>
      rw [walk_again hqueue hid hdone] at h
      obtain ⟨taken, hrun⟩ := ih h
      exact ⟨s :: taken, .turn (.again hqueue hid hdone) hrun⟩
  · rintro ⟨taken, hrun⟩
    induction hrun with
    | done empty => exact walk_done empty
    | turn first _ ih =>
      cases first with
      | undescribed next unknown => rw [walk_undescribed next unknown, ih]
      | again next described done => rw [walk_again next described done, ih]
      | resolved next described pending answered =>
        exact (walk_resolved next described pending).2 ⟨_, answered, ih⟩

/-- What every turn preserves holds at the end of a run. The list grows by what is taken. -/
theorem Run.preserves {P : List Signature → Assembly → Prop}
    (hturn : ∀ taken a s b, P taken a → Turn u resolver a s b → P (taken ++ [s]) b)
    {a c : Assembly} {before taken : List Signature} (hrun : Run u resolver a taken c)
    (ha : P before a) : P (before ++ taken) c ∧ c.queue = [] := by
  induction hrun generalizing before with
  | done empty => exact ⟨by rwa [List.append_nil], empty⟩
  | turn first _ ih =>
    have := ih (hturn _ _ _ _ ha first)
    rwa [List.append_assoc, List.singleton_append] at this

/-- The walk over what can be resolved succeeds: it is enough that whatever is queued has a
property that a resolved class hands on to all that its definition mentions. -/
theorem walk_succeeds {P : Signature → Prop}
    (hanswer : ∀ s id, P s → s.descriptor = some id →
      ∃ answer, (resolver.resolve u (.cls id)).outcome = .ok answer ∧
        ∀ r ∈ answerMentions answer, P r)
    (a : Assembly) (hready : ∀ s ∈ a.queue, P s) : ∃ c, (a.walk u resolver).outcome = .ok c := by
  induction a using walk.induct with
  | case1 a hqueue => exact ⟨a, walk_done hqueue⟩
  | case2 a s queue hqueue _ hunknown ih =>
    rw [walk_undescribed hqueue hunknown]
    refine ih ?_
    intro r hr
    exact hready r (hqueue ▸ List.mem_cons_of_mem s hr)
  | case3 a s queue hqueue _ id hid hpending _ ih =>
    have hs : P s := hready s (hqueue ▸ List.mem_cons_self)
    obtain ⟨answer, hresolve, hmentions⟩ := hanswer s id hs hid
    obtain ⟨c, hc⟩ := ih answer (by
      intro r hr
      rw [absorb_eq, List.mem_append] at hr
      rcases hr with hr | hr
      · exact hready r (hqueue ▸ List.mem_cons_of_mem s hr)
      · exact hmentions r (mem_of_mem_fresh hr))
    exact ⟨c, (walk_resolved hqueue hid hpending).2 ⟨answer, hresolve, hc⟩⟩
  | case4 a s queue hqueue _ id hid hdone ih =>
    rw [walk_again hqueue hid hdone]
    refine ih ?_
    intro r hr
    exact hready r (hqueue ▸ List.mem_cons_of_mem s hr)

end Assembly

end ServiceSchema

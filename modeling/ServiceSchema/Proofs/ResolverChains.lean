/-
Composed resolvers.

Resolvers are composed into chains, and chains into longer chains, in any nesting. Composing looks
only one level deep, and still no chain is ever found among the members of another: what is
composed has single rules for members, those at the leaves of the composition from left to right.
So all that the nesting tells is the order in which the rules are asked. The first rule that does
not decline decides, and no rule after it is asked.
-/
import ServiceSchema.Class.Resolver

set_option autoImplicit false

namespace ServiceSchema

open Log

variable {ρ : Type}

/-! ## Composing -/

namespace ResolverOf

/-- Asking one resolver after another and a third one after both is asking the second and the
third one after the first. -/
theorem orElse_assoc (a b c : ResolverOf ρ) : (a.orElse b).orElse c = a.orElse (b.orElse c) := by
  simp only [orElse, ofList, members, List.flatMap_cons, List.flatMap_nil, List.append_nil,
    List.append_assoc]

/-- The empty chain adds nothing in front of a resolver. -/
theorem empty_orElse (a : ResolverOf ρ) : (ofList []).orElse a = ofList [a] := by
  simp only [orElse, ofList, members, List.flatMap_cons, List.flatMap_nil, List.nil_append]

/-- The empty chain adds nothing after a resolver. -/
theorem orElse_empty (a : ResolverOf ρ) : a.orElse (ofList []) = ofList [a] := by
  simp only [orElse, ofList, members, List.flatMap_cons, List.flatMap_nil, List.append_nil]

end ResolverOf

/-- A way to compose resolvers of rules. -/
inductive Composition (ρ : Type) where
  | leaf (rule : ρ)
  | chain (parts : List (Composition ρ))
  | orElse (first second : Composition ρ)

namespace Composition

/-- Whether there is more to a composition than a single rule. -/
def composed : Composition ρ → Bool
  | leaf _ => false
  | _ => true

mutual

/-- The resolver that a composition makes. -/
def build : Composition ρ → ResolverOf ρ
  | leaf rule => .single rule
  | chain parts => .ofList (buildAll parts)
  | orElse first second => first.build.orElse second.build

/-- The resolvers that several compositions make. -/
def buildAll : List (Composition ρ) → List (ResolverOf ρ)
  | [] => []
  | part :: rest => part.build :: buildAll rest

end

mutual

/-- The rules at the leaves of a composition, from left to right. -/
def leaves : Composition ρ → List ρ
  | leaf rule => [rule]
  | chain parts => leavesOfAll parts
  | orElse first second => first.leaves ++ second.leaves

/-- The rules at the leaves of several compositions, from left to right. -/
def leavesOfAll : List (Composition ρ) → List ρ
  | [] => []
  | part :: rest => part.leaves ++ leavesOfAll rest

end

mutual

/-- What is composed contributes single rules to a chain: those at its leaves. Chains below are
made in the same way, so one level is all there is to look at. -/
theorem members_build : ∀ t : Composition ρ, t.build.members = t.leaves.map .single
  | leaf _ => rfl
  | chain parts => by
    show (buildAll parts).flatMap ResolverOf.members = (leavesOfAll parts).map .single
    exact members_buildAll parts
  | orElse first second => by
    show [first.build, second.build].flatMap ResolverOf.members
      = (first.leaves ++ second.leaves).map .single
    rw [List.flatMap_cons, List.flatMap_singleton, members_build first, members_build second,
      List.map_append]

theorem members_buildAll : ∀ parts : List (Composition ρ),
    (buildAll parts).flatMap ResolverOf.members = (leavesOfAll parts).map .single
  | [] => rfl
  | part :: rest => by
    show part.build.members ++ (buildAll rest).flatMap ResolverOf.members
      = (part.leaves ++ leavesOfAll rest).map .single
    rw [members_build part, members_buildAll rest, List.map_append]

end

/-- A composition makes the chain of its leaves. -/
theorem build_eq_chain {t : Composition ρ} (h : t.composed = true) :
    t.build = .chain (t.leaves.map .single) := by
  rw [← members_build t]
  cases t with
  | leaf rule => cases h
  | chain parts => rfl
  | orElse first second => rfl

end Composition

/-! ## Asking -/

section Asking

variable [Resolving ρ] {u : Universe} {target : Annotation}

/-- A rule has no answer for a target and lets another one try. -/
def Declines (u : Universe) (target : Annotation) (rule : ρ) : Prop :=
  (Resolving.resolve u target rule).outcome = .ok none

/-- What a rule reports by itself. -/
def ownEvents (u : Universe) (target : Annotation) (rule : ρ) : List Event :=
  (Resolving.resolve u target rule).events

/-- What a chain reports of the answer of a rule, if it has one. -/
def resolvedEvents (u : Universe) (target : Annotation) (rule : ρ) : List Event :=
  match (Resolving.resolve u target rule).outcome with
  | .ok (some _) =>
    [⟨debug, resolverSource, "Resolved " ++ target.source u ++ " with " ++ Resolving.name rule⟩]
  | _ => []

namespace ResolverOf

theorem resolve_chain (members : List (ResolverOf ρ)) (h : target ≠ .none) :
    (chain members).resolve u target = firstAnswer u target members := by
  cases target with
  | none => exact absurd rfl h
  | _ => rfl

theorem asked_chain (members : List (ResolverOf ρ)) (h : target ≠ .none) :
    (chain members).asked u target = askedAmong u target members := by
  cases target with
  | none => exact absurd rfl h
  | _ => rfl

/-- After a rule that declines the rest of the chain is asked. -/
theorem firstAnswer_of_declines {rule : ρ} (rest : List (ResolverOf ρ))
    (h : Declines u target rule) :
    firstAnswer u target (.single rule :: rest) =
      ⟨ownEvents u target rule ++ (firstAnswer u target rest).events,
        (firstAnswer u target rest).outcome⟩ := by
  show Traced.andThen (Resolving.resolve u target rule) _ = _
  unfold Declines at h
  simp only [Traced.andThen, h, ownEvents]

/-- A rule that does not decline decides, whatever comes after it. -/
theorem firstAnswer_of_not_declines {rule : ρ} (rest : List (ResolverOf ρ))
    (h : ¬ Declines u target rule) :
    firstAnswer u target (.single rule :: rest) =
      ⟨ownEvents u target rule ++ resolvedEvents u target rule,
        (Resolving.resolve u target rule).outcome⟩ := by
  show Traced.andThen (Resolving.resolve u target rule) _ = _
  unfold Declines at h
  cases houtcome : (Resolving.resolve u target rule).outcome with
  | error e => simp only [Traced.andThen, houtcome, ownEvents, resolvedEvents, List.append_nil]
  | ok answer =>
    cases answer with
    | none => exact absurd houtcome h
    | some d =>
      simp only [Traced.andThen, houtcome, ownEvents, resolvedEvents]
      rfl

/-- Rules that decline hand on to what comes after them. -/
theorem firstAnswer_append {declined : List ρ} (rest : List (ResolverOf ρ))
    (h : ∀ rule ∈ declined, Declines u target rule) :
    firstAnswer u target (declined.map .single ++ rest) =
      ⟨declined.flatMap (ownEvents u target) ++ (firstAnswer u target rest).events,
        (firstAnswer u target rest).outcome⟩ := by
  induction declined with
  | nil => rfl
  | cons rule declined ih =>
    have hrule : Declines u target rule := h rule List.mem_cons_self
    have hdeclined : ∀ other ∈ declined, Declines u target other :=
      fun other hother => h other (List.mem_cons_of_mem _ hother)
    rw [List.map_cons, List.cons_append, firstAnswer_of_declines _ hrule, ih hdeclined,
      List.flatMap_cons, List.append_assoc]

/-- Rules that decline are all asked, and then what comes after them. -/
theorem askedAmong_append {declined : List ρ} (rest : List (ResolverOf ρ))
    (h : ∀ rule ∈ declined, Declines u target rule) :
    askedAmong u target (declined.map .single ++ rest) =
      declined.length + askedAmong u target rest := by
  induction declined with
  | nil => rw [List.map_nil, List.nil_append, List.length_nil, Nat.zero_add]
  | cons rule declined ih =>
    have hrule : ((single rule).resolve u target).outcome = .ok none := h rule List.mem_cons_self
    have hdeclined : ∀ other ∈ declined, Declines u target other :=
      fun other hother => h other (List.mem_cons_of_mem _ hother)
    have hasked : (single rule).asked u target = 1 := by rw [asked]
    simp only [List.map_cons, List.cons_append, askedAmong, hrule, hasked, ih hdeclined,
      List.length_cons]
    omega

/-- No rule is asked after one that does not decline. -/
theorem askedAmong_of_not_declines {rule : ρ} (rest : List (ResolverOf ρ))
    (h : ¬ Declines u target rule) : askedAmong u target (.single rule :: rest) = 1 := by
  have hasked : (single rule).asked u target = 1 := by rw [asked]
  have hresolve : (single rule).resolve u target = Resolving.resolve u target rule := by
    rw [resolve]
  simp only [askedAmong, hasked, hresolve]
  split
  · next hdeclines => exact absurd hdeclines h
  · rfl

end ResolverOf

/-- Either all rules decline, or there is a first one that does not. -/
theorem all_decline_or_exists_first (u : Universe) (target : Annotation) (rules : List ρ) :
    (∀ rule ∈ rules, Declines u target rule) ∨
    ∃ declined rule later, rules = declined ++ rule :: later ∧
      (∀ other ∈ declined, Declines u target other) ∧ ¬ Declines u target rule := by
  induction rules with
  | nil => exact .inl fun rule hrule => absurd hrule List.not_mem_nil
  | cons rule rules ih =>
    by_cases hrule : Declines u target rule
    · rcases ih with hall | ⟨declined, decisive, later, hrules, hdeclined, hdecisive⟩
      · exact .inl (List.forall_mem_cons.2 ⟨hrule, hall⟩)
      · refine .inr ⟨rule :: declined, decisive, later, ?_, ?_, hdecisive⟩
        · rw [hrules, List.cons_append]
        · exact List.forall_mem_cons.2 ⟨hrule, hdeclined⟩
    · exact .inr ⟨[], rule, rules, rfl, fun _ hother => absurd hother List.not_mem_nil, hrule⟩

/-- How rules answer a target, the first one that does not decline deciding: the answer with all
that is reported, and how many rules are asked. What is reported is due to the rules up to the
decisive one, so the rules after it are not heard. -/
inductive AnsweredInOrder (u : Universe) (target : Annotation) (rules : List ρ)
    (answer : Reading (Option Definition)) (asked : Nat) : Prop where
  | declined (all : ∀ rule ∈ rules, Declines u target rule)
      (outcome : answer.outcome = .ok none)
      (events : answer.events = rules.flatMap (ownEvents u target))
      (count : asked = rules.length)
  | decided {before : List ρ} {rule : ρ} {later : List ρ}
      (first : rules = before ++ rule :: later)
      (declined : ∀ other ∈ before, Declines u target other)
      (decisive : ¬ Declines u target rule)
      (outcome : answer.outcome = (Resolving.resolve u target rule).outcome)
      (events : answer.events = before.flatMap (ownEvents u target) ++
        (ownEvents u target rule ++ resolvedEvents u target rule))
      (count : asked = before.length + 1)

theorem answeredInOrder_firstAnswer (u : Universe) (target : Annotation) (rules : List ρ) :
    AnsweredInOrder u target rules (ResolverOf.firstAnswer u target (rules.map .single))
      (ResolverOf.askedAmong u target (rules.map .single)) := by
  rcases all_decline_or_exists_first u target rules with
    hall | ⟨before, rule, later, rfl, hbefore, hrule⟩
  · have hanswer := ResolverOf.firstAnswer_append [] hall
    have hcount := ResolverOf.askedAmong_append [] hall
    rw [List.append_nil] at hanswer hcount
    refine .declined hall ?_ ?_ hcount
    · rw [hanswer]
      rfl
    · rw [hanswer]
      exact List.append_nil _
  · rw [List.map_append, List.map_cons, ResolverOf.firstAnswer_append _ hbefore,
      ResolverOf.firstAnswer_of_not_declines _ hrule, ResolverOf.askedAmong_append _ hbefore,
      ResolverOf.askedAmong_of_not_declines _ hrule]
    exact .decided rfl hbefore hrule rfl rfl rfl

end Asking

/-! ## Composed resolvers -/

namespace Composition

variable [Resolving ρ]

theorem answeredInOrder_build {t : Composition ρ} (h : t.composed = true) (u : Universe)
    {target : Annotation} (htarget : target ≠ .none) :
    AnsweredInOrder u target t.leaves (t.build.resolve u target) (t.build.asked u target) := by
  rw [build_eq_chain h, ResolverOf.resolve_chain _ htarget, ResolverOf.asked_chain _ htarget]
  exact answeredInOrder_firstAnswer u target t.leaves

/-- A rule that is not composed with others answers like the chain of it alone. -/
theorem outcome_resolve_build (t : Composition ρ) (u : Universe) {target : Annotation}
    (htarget : target ≠ .none) :
    (t.build.resolve u target).outcome =
      (ResolverOf.firstAnswer u target (t.leaves.map .single)).outcome := by
  cases t with
  | leaf rule =>
    -- what a chain reports besides makes no difference to the outcome
    have hbuild : ((leaf rule).build.resolve u target).outcome =
        (Resolving.resolve u target rule).outcome := rfl
    rw [hbuild]
    by_cases hrule : Declines u target rule
    · rw [leaves, List.map_singleton, ResolverOf.firstAnswer_of_declines _ hrule, hrule]
      rfl
    · rw [leaves, List.map_singleton, ResolverOf.firstAnswer_of_not_declines _ hrule]
  | _ => rw [build_eq_chain rfl, ResolverOf.resolve_chain _ htarget]

/-- **Composed resolvers are flat chains, and the first answer counts.** However chains are nested,
the chain has the rules at the leaves for members, from left to right. So compositions with the
same leaves answer everything alike, a single rule included where there is something to resolve.
The first rule that does not decline decides, and the rules after it are not asked. -/
theorem composition_is_flat_chain {t : Composition ρ} (h : t.composed = true) :
    t.build = .chain (t.leaves.map .single) ∧
    (∀ other : Composition ρ, other.leaves = t.leaves →
      (other.composed = true → ∀ u target,
        other.build.resolve u target = t.build.resolve u target) ∧
      ∀ u target, target ≠ .none →
        (other.build.resolve u target).outcome = (t.build.resolve u target).outcome) ∧
    ∀ u target, target ≠ .none →
      AnsweredInOrder u target t.leaves (t.build.resolve u target) (t.build.asked u target) := by
  refine ⟨build_eq_chain h, ?_, fun u target => answeredInOrder_build h u⟩
  intro other hleaves
  constructor
  · intro hother u target
    rw [build_eq_chain h, build_eq_chain hother, hleaves]
  · intro u target htarget
    rw [outcome_resolve_build other u htarget, outcome_resolve_build t u htarget, hleaves]

/-- A nest of chains, with an empty one in it. -/
def nest : Composition ResolverRule :=
  .orElse (.chain [.chain [], .leaf (.fixed none), .chain [.leaf .polymorphic]]) (.leaf .structural)

/-- The rules of the nest, in the order in which they are asked. -/
def nestRules : List ResolverRule := [.fixed none, .polymorphic, .structural]

/-- The nest is the chain of three rules. -/
theorem nest_is_flat_chain :
    nest.build = .chain (nestRules.map .single) ∧
    (∀ other : Composition ResolverRule, other.leaves = nestRules →
      (other.composed = true → ∀ u target,
        other.build.resolve u target = nest.build.resolve u target) ∧
      ∀ u target, target ≠ .none →
        (other.build.resolve u target).outcome = (nest.build.resolve u target).outcome) ∧
    ∀ u target, target ≠ .none →
      AnsweredInOrder u target nestRules (nest.build.resolve u target)
        (nest.build.asked u target) :=
  composition_is_flat_chain (t := nest) rfl

end Composition

end ServiceSchema

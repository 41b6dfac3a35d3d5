/-
The grammar of type texts, and that the parser reads exactly it.

`Denotes` is the grammar with its meaning: which lists of tokens are a type, and
which signature each of them means. It knows nothing of fuel, of the tokens that
follow or of the order in which the parser makes its checks. The parser is sound for
it by an induction on the fuel, in which a parameter list is carried along as
`DenotesParams`; it is complete by an induction on the derivation, generalised over
the tokens that follow. A bare name is the one place where what follows matters: an
opening bracket after it would be read as the start of its parameters.
-/
import ServiceSchema.TypeText.Parser

set_option autoImplicit false

namespace ServiceSchema.TypeText

/-! ## The grammar -/

/-- The tokens are one type, and the signature is what it means. The brackets of a
container match in style, each level on its own; the keyword of a container may be
written in any case, and an iterable is named by its lower case. A bare name is never
a keyword, whatever it is spelled like. -/
inductive Denotes (names : Names) : List Token → Signature → Prop
  | struct {name : String} (declared : name ∈ names.structs) :
      Denotes names [.name name] (.struct name none)
  | enum {name : String} (undeclared : name ∉ names.structs) (declared : name ∈ names.enums) :
      Denotes names [.name name] (.enum name none)
  | base {name : String} (noStruct : name ∉ names.structs) (noEnum : name ∉ names.enums) :
      Denotes names [.name name] (.base name)
  | iterable {name : String} {bracket : Bracket} {ts : List Token} {s : Signature}
      (keyword : Text.lowerAscii name ∈ iterableKeywords) (element : Denotes names ts s) :
      Denotes names (.name name :: .opening bracket :: (ts ++ [.closing bracket]))
        (.iterable (Text.lowerAscii name) s)
  | map {name : String} {bracket : Bracket} {ks vs : List Token} {k v : Signature}
      (keyword : Text.lowerAscii name ∈ mapKeywords) (key : Denotes names ks k)
      (value : Denotes names vs v) :
      Denotes names (.name name :: .opening bracket :: (ks ++ .comma :: (vs ++ [.closing bracket])))
        (.map "map" k v)

/-- The tokens are a list of types with commas between them and the closing bracket
after them. -/
inductive DenotesParams (names : Names) (bracket : Bracket) :
    List Token → List Signature → Prop
  | last {ts : List Token} {s : Signature} (only : Denotes names ts s) :
      DenotesParams names bracket (ts ++ [.closing bracket]) [s]
  | cons {ts us : List Token} {s : Signature} {ss : List Signature} (first : Denotes names ts s)
      (more : DenotesParams names bracket us ss) :
      DenotesParams names bracket (ts ++ .comma :: us) (s :: ss)

variable {names : Names}

theorem denotes_leaf (name : String) : Denotes names [.name name] (names.leaf name) := by
  unfold Names.leaf
  by_cases hs : name ∈ names.structs
  · rw [if_pos hs]
    exact .struct hs
  · rw [if_neg hs]
    by_cases he : name ∈ names.enums
    · rw [if_pos he]
      exact .enum hs he
    · rw [if_neg he]
      exact .base hs he

theorem Denotes.ne_nil {ts : List Token} {s : Signature} (h : Denotes names ts s) : ts ≠ [] := by
  cases h <;> exact List.cons_ne_nil _ _

/-! ## Soundness -/

/-- A name with parameters is a container only if the grammar has it. -/
theorem container_sound {name : String} {bracket : Bracket} {used : List Token}
    {params : List Signature} {s : Signature} (hc : container name params = .ok s)
    (hp : DenotesParams names bracket used params) :
    Denotes names (.name name :: .opening bracket :: used) s := by
  cases hp with
  | last only =>
    simp only [container] at hc
    split at hc
    · next keyword =>
      injection hc with hc
      exact hc ▸ .iterable keyword only
    · cases hc
  | cons first more =>
    cases more with
    | last second =>
      simp only [container] at hc
      split at hc
      · next keyword =>
        injection hc with hc
        exact hc ▸ .map keyword first second
      · cases hc
    | cons second more =>
      -- three parameters or more belong to no container
      cases more <;> cases hc

/-- What the parser takes off the front of the tokens is derived by the grammar, for a
type and for a parameter list alike. The induction is on the fuel, which both hand down. -/
theorem parse_sound (fuel : Nat) :
    (∀ ts s rest, parseType names fuel ts = .ok (s, rest) →
      ∃ used, ts = used ++ rest ∧ Denotes names used s) ∧
    (∀ bracket ts params rest, parseParams names fuel bracket ts = .ok (params, rest) →
      ∃ used, ts = used ++ rest ∧ DenotesParams names bracket used params) := by
  induction fuel with
  | zero =>
    constructor
    · intro ts s rest h
      cases h
    · intro bracket ts params rest h
      cases h
  | succ fuel ih =>
    obtain ⟨ihType, ihParams⟩ := ih
    constructor
    · intro ts s rest h
      match ts with
      | [] => cases h
      | .name name :: .opening bracket :: tail =>
        simp only [parseType, bind, Except.bind] at h
        split at h
        · cases h
        · next result hparams =>
          obtain ⟨params, rest'⟩ := result
          dsimp only at h
          split at h
          · cases h
          · next s' hcontainer =>
            cases h
            obtain ⟨used, rfl, hused⟩ := ihParams bracket tail params rest hparams
            exact ⟨.name name :: .opening bracket :: used, rfl, container_sound hcontainer hused⟩
      -- no bracket opens after the name, so it stands for itself
      | [.name name] | .name name :: .name _ :: _ | .name name :: .closing _ :: _
      | .name name :: .comma :: _ =>
        simp only [parseType, Except.ok.injEq, Prod.mk.injEq] at h
        obtain ⟨rfl, rfl⟩ := h
        exact ⟨[.name name], rfl, denotes_leaf name⟩
      | .opening _ :: _ | .closing _ :: _ | .comma :: _ => cases h
    · intro bracket ts params rest h
      simp only [parseParams, bind, Except.bind] at h
      split at h
      · cases h
      · next result hfirst =>
        obtain ⟨first, tail⟩ := result
        obtain ⟨used, rfl, hused⟩ := ihType ts first tail hfirst
        dsimp only at h
        split at h
        · next tail' =>
          split at h
          · cases h
          · next result' hmore =>
            obtain ⟨more, rest'⟩ := result'
            cases h
            obtain ⟨used', rfl, hused'⟩ := ihParams bracket tail' more rest' hmore
            exact ⟨used ++ .comma :: used', by simp, .cons hused hused'⟩
        · next other tail' =>
          split at h
          · next hother =>
            cases h
            exact ⟨used ++ [.closing bracket], by simp [hother], .last hused⟩
          · cases h
        · cases h

/-! ## Completeness -/

/-- Whether the tokens start with an opening bracket. -/
def startsOpening : List Token → Bool
  | .opening _ :: _ => true
  | _ => false

/-- A bare name is read as a leaf unless a bracket opens after it. -/
theorem parseType_name (fuel : Nat) (name : String) {rest : List Token}
    (hrest : startsOpening rest = false) :
    parseType names (fuel + 1) (.name name :: rest) = .ok (names.leaf name, rest) := by
  match rest with
  | [] => rfl
  | .opening _ :: _ => cases hrest
  | .name _ :: _ => rfl
  | .closing _ :: _ => rfl
  | .comma :: _ => rfl

theorem parseParams_last {fuel : Nat} {bracket : Bracket} {ts rest : List Token} {s : Signature}
    (h : parseType names fuel ts = .ok (s, .closing bracket :: rest)) :
    parseParams names (fuel + 1) bracket ts = .ok ([s], rest) := by
  simp only [parseParams, h, bind, Except.bind, if_pos]
  rfl

theorem parseParams_cons {fuel : Nat} {bracket : Bracket} {ts us rest : List Token}
    {s : Signature} {ss : List Signature} (h : parseType names fuel ts = .ok (s, .comma :: us))
    (hmore : parseParams names fuel bracket us = .ok (ss, rest)) :
    parseParams names (fuel + 1) bracket ts = .ok (s :: ss, rest) := by
  simp only [parseParams, h, hmore, bind, Except.bind]
  rfl

theorem parseType_container {fuel : Nat} {name : String} {bracket : Bracket}
    {ts rest : List Token} {params : List Signature} {s : Signature}
    (hparams : parseParams names fuel bracket ts = .ok (params, rest))
    (hs : container name params = .ok s) :
    parseType names (fuel + 1) (.name name :: .opening bracket :: ts) = .ok (s, rest) := by
  simp only [parseType, hparams, hs, bind, Except.bind]
  rfl

/-- Every type that the grammar derives is read off the front of the tokens, whatever
follows it, as long as the fuel exceeds its length and no bracket opens after it. Each
level of brackets spends two units of fuel and takes two tokens at least. -/
theorem parseType_complete {ts : List Token} {s : Signature} (h : Denotes names ts s) :
    ∀ (fuel : Nat) (rest : List Token), ts.length < fuel → startsOpening rest = false →
      parseType names fuel (ts ++ rest) = .ok (s, rest) := by
  induction h with
  | @struct name declared =>
    intro fuel rest hfuel hrest
    obtain ⟨f, rfl⟩ := Nat.exists_eq_add_of_lt hfuel
    rw [List.singleton_append, parseType_name _ name hrest, Names.leaf, if_pos declared]
  | @enum name undeclared declared =>
    intro fuel rest hfuel hrest
    obtain ⟨f, rfl⟩ := Nat.exists_eq_add_of_lt hfuel
    rw [List.singleton_append, parseType_name _ name hrest, Names.leaf, if_neg undeclared,
      if_pos declared]
  | @base name noStruct noEnum =>
    intro fuel rest hfuel hrest
    obtain ⟨f, rfl⟩ := Nat.exists_eq_add_of_lt hfuel
    rw [List.singleton_append, parseType_name _ name hrest, Names.leaf, if_neg noStruct,
      if_neg noEnum]
  | @iterable name bracket ts s keyword element ih =>
    intro fuel rest hfuel hrest
    simp only [List.length_cons, List.length_append, List.length_nil] at hfuel
    obtain ⟨f, rfl⟩ : ∃ f, fuel = f + 2 := ⟨fuel - 2, by omega⟩
    have hfirst := ih f (.closing bracket :: rest) (by omega) rfl
    have hparams := parseParams_last hfirst
    have hcontainer : container name [s] = .ok (.iterable (Text.lowerAscii name) s) := by
      simp only [container, if_pos keyword]
    simpa using parseType_container hparams hcontainer
  | @map name bracket ks vs k v keyword key value ihKey ihValue =>
    intro fuel rest hfuel hrest
    simp only [List.length_cons, List.length_append, List.length_nil] at hfuel
    -- one unit for the container and one for each of its parameters
    obtain ⟨f, rfl⟩ : ∃ f, fuel = f + 3 := ⟨fuel - 3, by omega⟩
    have hvalue := parseParams_last (ihValue f (.closing bracket :: rest) (by omega) rfl)
    have hkey := ihKey (f + 1) (.comma :: (vs ++ .closing bracket :: rest)) (by omega) rfl
    have hcontainer : container name [k, v] = .ok (.map "map" k v) := by
      simp only [container, if_pos keyword]
      rfl
    simpa using parseType_container (parseParams_cons hkey hvalue) hcontainer

/-! ## The whole text -/

/-- A list of tokens is read as a type exactly if the grammar derives all of it. -/
theorem ofTokens_eq_ok_iff (ts : List Token) (s : Signature) :
    ofTokens names ts = .ok s ↔ Denotes names ts s := by
  constructor
  · intro h
    unfold ofTokens at h
    by_cases hts : ts = []
    · subst hts
      cases h
    · have hempty : ts.isEmpty = false := by simpa using hts
      simp only [hempty, bind, Except.bind, Bool.false_eq_true, if_false, pure, Except.pure] at h
      split at h
      · cases h
      · next result hparse =>
        obtain ⟨s', rest⟩ := result
        dsimp only at h
        split at h
        · next hrest =>
          cases h
          obtain ⟨used, rfl, hused⟩ := (parse_sound _).1 ts s rest hparse
          have hnil : rest = [] := by simpa using hrest
          subst hnil
          simpa using hused
        · cases h
  · intro h
    have hparse := parseType_complete h (ts.length + 1) [] (Nat.lt_succ_self _) rfl
    rw [List.append_nil] at hparse
    have hempty : ts.isEmpty = false := by simpa using h.ne_nil
    simp only [ofTokens, hempty, hparse, bind, Except.bind, Bool.false_eq_true, if_false, pure,
      Except.pure]
    rfl

/-- A text is read as a type exactly if it splits into tokens that the grammar derives. -/
theorem parse_eq_ok_iff {text : String} {s : Signature} :
    parse names text = .ok s ↔ ∃ ts, tokens text = .ok ts ∧ Denotes names ts s := by
  unfold parse
  cases htokens : tokens text with
  | error position => simp
  | ok ts => simp [ofTokens_eq_ok_iff]

/-- **The parser reads exactly the grammar.** A text is read as a signature if and only
if it splits into tokens and all of them are derived with that meaning; every other text
is refused. -/
theorem parse_reads_grammar (names : Names) (text : String) :
    (∀ s, parse names text = .ok s ↔ ∃ ts, tokens text = .ok ts ∧ Denotes names ts s) ∧
    ((∃ error, parse names text = .error error) ↔
      ¬ ∃ ts s, tokens text = .ok ts ∧ Denotes names ts s) := by
  have hok : ∀ s, parse names text = .ok s ↔ ∃ ts, tokens text = .ok ts ∧ Denotes names ts s := by
    intro s
    exact parse_eq_ok_iff
  refine ⟨hok, ?_⟩
  constructor
  · rintro ⟨error, herror⟩ ⟨ts, s, hts⟩
    have hs := (hok s).2 ⟨ts, hts⟩
    rw [herror] at hs
    cases hs
  · intro hnone
    cases hparse : parse names text with
    | error error => exact ⟨error, rfl⟩
    | ok s =>
      obtain ⟨ts, hts⟩ := (hok s).1 hparse
      exact absurd ⟨ts, s, hts⟩ hnone

end ServiceSchema.TypeText

/-
What the tokens of a type text are.

`tokens` is one pass over the characters, with a name that is open and the place where the last
token ended. `rounds` is what that pass amounts to: it cuts the blanks off the end of the text
and then takes one token after another off the front, blanks first, as long as characters are
left. Every round takes at least one character, so the rounds end. Between two rounds nothing is
remembered but what is left of the text, and so everything about the tokens follows from what a
single round takes: no character gets lost but the blanks, names go on as long as they can, and
the only failure is a round that finds neither a name nor a symbol.
-/
import Mathlib.Data.List.DropRight
import ServiceSchema.Proofs.TypePrinting

set_option autoImplicit false

namespace ServiceSchema.TypeText

/-! ## Rounds -/

/-- What one round takes off the front of the characters: the blanks, and the token after them. It
takes nothing where no token follows the blanks. -/
def round? (cs : List Char) : Option (Token × List Char) :=
  match Text.dropBlanks cs with
  | [] => none
  | c :: rest =>
    if isNameStart c then
      some (.name (String.ofList (c :: rest.takeWhile isNameChar)), rest.dropWhile isNameChar)
    else (symbol? c).map fun token => (token, rest)

theorem length_dropBlanks_le (cs : List Char) : (Text.dropBlanks cs).length ≤ cs.length :=
  (List.dropWhile_sublist _).length_le

/-- Every round takes at least one character. -/
theorem length_lt_of_round? {cs rest : List Char} {token : Token}
    (h : round? cs = some (token, rest)) : rest.length < cs.length := by
  have hle := length_dropBlanks_le cs
  unfold round? at h
  match hblanks : Text.dropBlanks cs, h with
  | c :: tail, h =>
    rw [hblanks, List.length_cons] at hle
    dsimp only at h
    split at h
    · obtain ⟨-, rfl⟩ := Prod.mk.inj (Option.some.inj h)
      have htail := (List.dropWhile_sublist (l := tail) isNameChar).length_le
      omega
    · obtain ⟨_, -, heq⟩ := Option.map_eq_some_iff.1 h
      obtain ⟨-, rfl⟩ := Prod.mk.inj heq
      omega

/-- The tokens that the rounds take off the characters, which start at a position, or the position
of the first round that takes nothing. -/
def rounds (position : Nat) (cs : List Char) : Except Nat (List Token) :=
  if cs.isEmpty then .ok []
  else match _taken : round? cs with
    | none => .error position
    | some (token, rest) =>
      (token :: ·) <$> rounds (position + (cs.length - rest.length)) rest
termination_by cs.length
decreasing_by exact length_lt_of_round? _taken

/-- Whether a token is a bracket, a comma or a name that goes on as long as it can in front of what
follows it. -/
def Token.IsWhole (rest : List Char) : Token → Prop
  | .name word => isNameWord word = true ∧ continuesName rest = false
  | _ => True

/-! ### What a round can do -/

theorem forall_isBlank_takeWhile (cs : List Char) :
    ∀ c ∈ cs.takeWhile Text.isBlank, Text.isBlank c = true :=
  fun _ hc => List.all_eq_true.1 List.all_takeWhile _ hc

@[simp] theorem rounds_nil (position : Nat) : rounds position [] = .ok [] := by
  rw [rounds]
  rfl

theorem rounds_of_none {cs : List Char} (hne : cs ≠ []) (h : round? cs = none) (position : Nat) :
    rounds position cs = .error position := by
  rw [rounds, if_neg (mt List.isEmpty_iff.1 hne)]
  split
  · rfl
  · next htaken =>
    rw [h] at htaken
    cases htaken

theorem rounds_of_some {cs rest : List Char} {token : Token} (h : round? cs = some (token, rest))
    (position : Nat) :
    rounds position cs =
      (token :: ·) <$> rounds (position + (cs.length - rest.length)) rest := by
  have hne : cs ≠ [] := List.ne_nil_of_length_pos (Nat.zero_lt_of_lt (length_lt_of_round? h))
  rw [rounds, if_neg (mt List.isEmpty_iff.1 hne)]
  split
  · next hnone =>
    rw [h] at hnone
    cases hnone
  · next htaken =>
    rw [h] at htaken
    obtain ⟨rfl, rfl⟩ := Prod.mk.inj (Option.some.inj htaken)
    rfl

/-- The text without the blanks at its end. -/
def trimmed (text : String) : List Char := Text.dropTrailing Text.isBlank text.toList

/-- What is left without the blanks at the front stands behind these blanks. -/
theorem exists_blanks (cs : List Char) :
    ∃ blanks, (∀ c ∈ blanks, Text.isBlank c = true) ∧ cs = blanks ++ Text.dropBlanks cs :=
  ⟨_, forall_isBlank_takeWhile cs, List.takeWhile_append_dropWhile.symm⟩

theorem isBlank_of_dropBlanks_eq_cons {cs rest : List Char} {c : Char}
    (h : Text.dropBlanks cs = c :: rest) : Text.isBlank c = false := by
  have hhead := List.head?_dropWhile_not Text.isBlank cs
  rw [show cs.dropWhile Text.isBlank = c :: rest from h] at hhead
  simpa using hhead

/-- The characters that are tokens by themselves. -/
def symbols : List Char := ['[', ']', '<', '>', ',']

theorem symbol?_eq_none_iff {c : Char} : symbol? c = none ↔ c ∉ symbols := by
  unfold symbol? symbols
  grind

/-- A symbol is its own text, whatever follows it. -/
theorem text_of_symbol? {c : Char} {token : Token} (h : symbol? c = some token) :
    token.text.toList = [c] ∧ ∀ rest, token.IsWhole rest := by
  have hc : c ∈ symbols := by
    by_contra hnot
    rw [symbol?_eq_none_iff.2 hnot] at h
    cases h
  simp only [symbols, List.mem_cons, List.not_mem_nil, or_false] at hc
  rcases hc with rfl | rfl | rfl | rfl | rfl
  all_goals
    obtain rfl := Option.some.inj h
    exact ⟨rfl, fun _ => trivial⟩

/-- The first characters that can go on with a name and what is left make up a whole name. -/
theorem isWhole_name {c : Char} (h : isNameStart c = true) (rest : List Char) :
    (Token.name (String.ofList (c :: rest.takeWhile isNameChar))).IsWhole
      (rest.dropWhile isNameChar) := by
  refine ⟨by simp [isNameWord, h], ?_⟩
  have hhead := List.head?_dropWhile_not isNameChar rest
  cases hrest : rest.dropWhile isNameChar with
  | nil => rfl
  | cons d more =>
    rw [hrest] at hhead
    simpa [continuesName] using hhead

/-- **What a round takes**: blanks, and behind them a whole token. -/
theorem round?_eq_some {cs rest : List Char} {token : Token} (h : round? cs = some (token, rest)) :
    ∃ blanks, (∀ c ∈ blanks, Text.isBlank c = true) ∧
      cs = blanks ++ (token.text.toList ++ rest) ∧ token.IsWhole rest := by
  obtain ⟨blanks, hblanks, hcs⟩ := exists_blanks cs
  refine ⟨blanks, hblanks, ?_⟩
  unfold round? at h
  match hdrop : Text.dropBlanks cs, h with
  | c :: tail, h =>
    rw [hdrop] at hcs
    dsimp only at h
    split at h
    · next hstart =>
      obtain ⟨rfl, rfl⟩ := Prod.mk.inj (Option.some.inj h)
      refine ⟨?_, isWhole_name hstart tail⟩
      rw [hcs]
      simp [Token.text, List.takeWhile_append_dropWhile]
    · obtain ⟨_, hsymbol, heq⟩ := Option.map_eq_some_iff.1 h
      obtain ⟨rfl, rfl⟩ := Prod.mk.inj heq
      obtain ⟨htext, hwhole⟩ := text_of_symbol? hsymbol
      exact ⟨by rw [hcs, htext]; rfl, hwhole tail⟩

/-- Whether no token can start with a character. -/
def StartsNothing (c : Char) : Prop := isNameStart c = false ∧ c ∉ symbols

/-- **When a round takes nothing**: nothing but blanks is left, or no token starts behind them. -/
theorem round?_eq_none_iff {cs : List Char} :
    round? cs = none ↔
      Text.dropBlanks cs = [] ∨ ∃ c rest, Text.dropBlanks cs = c :: rest ∧ StartsNothing c := by
  unfold round?
  match Text.dropBlanks cs with
  | [] => simp
  | c :: rest =>
    cases hstart : isNameStart c with
    | true => simp [StartsNothing, hstart]
    | false => simp [StartsNothing, hstart, symbol?_eq_none_iff]

/-! ## Rounds and the scan -/

/-- Blanks in front are passed over. -/
theorem scan_blanks {blanks : List Char} (h : ∀ c ∈ blanks, Text.isBlank c = true)
    (lastEnd here : Nat) (rest : List Char) :
    scan lastEnd here [] (blanks ++ rest) = scan lastEnd (here + blanks.length) [] rest := by
  induction blanks generalizing here with
  | nil => rfl
  | cons c blanks ih =>
    rw [List.cons_append, scan_blank (h c List.mem_cons_self),
      ih fun d hd => h d (List.mem_cons_of_mem c hd), List.length_cons]
    congr 1
    omega

/-- A whole token in front is scanned as that token. -/
theorem scan_whole {token : Token} {rest : List Char} (h : token.IsWhole rest)
    (lastEnd here : Nat) :
    scan lastEnd here [] (token.text.toList ++ rest) = (token :: ·) <$>
      scan (here + token.text.toList.length) (here + token.text.toList.length) [] rest := by
  cases token with
  | name word =>
    rw [String.length_toList]
    exact scan_name h.1 h.2 lastEnd here
  | opening bracket => cases bracket <;> exact scan_symbol rfl rfl lastEnd here rest
  | closing bracket => cases bracket <;> exact scan_symbol rfl rfl lastEnd here rest
  | comma => exact scan_symbol rfl rfl lastEnd here rest

/-- The scan of what a round reads is the round and the scan of what it leaves. -/
theorem scan_round {cs rest : List Char} {token : Token} (h : round? cs = some (token, rest))
    {more : List Char} (hmore : token.IsWhole (rest ++ more)) (lastEnd here : Nat) :
    scan lastEnd here [] (cs ++ more) = (token :: ·) <$>
      scan (here + (cs.length - rest.length)) (here + (cs.length - rest.length)) [] (rest ++ more) := by
  obtain ⟨blanks, hblanks, rfl, -⟩ := round?_eq_some h
  rw [List.append_assoc, List.append_assoc, scan_blanks hblanks, scan_whole hmore]
  have hlength : here + blanks.length + token.text.toList.length =
      here + ((blanks ++ (token.text.toList ++ rest)).length - rest.length) := by
    simp only [List.length_append]
    omega
  rw [hlength]

/-- Where nothing starts, the scan fails at the end of the last token. -/
theorem scan_unexpected {c : Char} (h : StartsNothing c) (hblank : Text.isBlank c = false)
    (lastEnd here : Nat) (rest : List Char) :
    scan lastEnd here [] (c :: rest) = .error lastEnd := by
  rw [scan]
  simp [h.1, symbol?_eq_none_iff.2 h.2, hblank, Functor.map, Except.map]

/-- The blanks by their code points. -/
def blankCodes : List Nat :=
  List.range' 9 5 ++ List.range' 28 5 ++ [0x85, 0xA0, 0x1680] ++ List.range' 0x2000 11
    ++ [0x2028, 0x2029, 0x202F, 0x205F, 0x3000]

theorem toNat_mem_blankCodes {c : Char} (h : Text.isBlank c = true) : c.toNat ∈ blankCodes := by
  simp only [Text.isBlank, Bool.or_eq_true, Bool.and_eq_true, decide_eq_true_eq, beq_iff_eq] at h
  simp only [blankCodes, List.mem_append, List.mem_range'_1, List.mem_cons, List.not_mem_nil,
    or_false]
  omega

/-- No blank goes on with a name. -/
theorem isNameChar_of_isBlank {c : Char} (h : Text.isBlank c = true) : isNameChar c = false := by
  have hcodes : ∀ n ∈ blankCodes, isNameChar (Char.ofNat n) = false := by decide +kernel
  have hc := hcodes c.toNat (toNat_mem_blankCodes h)
  rwa [Char.ofNat_toNat] at hc

/-- Blanks at the end make no difference to the name in front of them. -/
theorem continuesName_append_blanks {rest blanks : List Char}
    (h : ∀ c ∈ blanks, Text.isBlank c = true) (hrest : continuesName rest = false) :
    continuesName (rest ++ blanks) = false := by
  match rest, blanks with
  | c :: _, _ => exact hrest
  | [], [] => rfl
  | [], c :: _ => exact isNameChar_of_isBlank (h c List.mem_cons_self)

theorem Token.IsWhole.append_blanks {token : Token} {rest blanks : List Char}
    (h : token.IsWhole rest) (hblanks : ∀ c ∈ blanks, Text.isBlank c = true) :
    token.IsWhole (rest ++ blanks) := by
  cases token with
  | name word => exact ⟨h.1, continuesName_append_blanks hblanks h.2⟩
  | _ => exact trivial

/-- Whether characters do not end in a blank. -/
def EndsBare (cs : List Char) : Prop := ∀ c, cs.getLast? = some c → Text.isBlank c = false

theorem EndsBare.of_append (front : List Char) {rest : List Char}
    (h : EndsBare (front ++ rest)) : EndsBare rest := by
  intro c hc
  exact h c (by rw [List.getLast?_append, hc]; rfl)

/-- Characters that do not end in a blank are not all blanks. -/
theorem EndsBare.dropBlanks_ne_nil {cs : List Char} (h : EndsBare cs) (hcs : cs ≠ []) :
    Text.dropBlanks cs ≠ [] := by
  intro hnil
  have hall : ∀ c ∈ cs, Text.isBlank c = true := List.dropWhile_eq_nil_iff.1 hnil
  have hlast := h _ (List.getLast?_eq_some_getLast hcs)
  rw [hall _ (List.getLast_mem hcs)] at hlast
  cases hlast

/-- **The scan makes rounds.** Where a round starts, the scan goes on as the rounds do, and blanks
at the end of the text count for nothing. The induction is on the rounds; what they leave does not
end in a blank either. -/
theorem scan_eq_rounds {blanks : List Char} (hblanks : ∀ c ∈ blanks, Text.isBlank c = true)
    (position : Nat) (cs : List Char) (hbare : EndsBare cs) :
    scan position position [] (cs ++ blanks) = rounds position cs := by
  induction position, cs using rounds.induct with
  | case1 position cs hcs =>
    obtain rfl := List.isEmpty_iff.1 hcs
    have hend : scan position position [] (blanks ++ []) = .ok [] := by
      rw [scan_blanks hblanks]
      rfl
    rw [rounds_nil, List.nil_append, ← List.append_nil blanks, hend]
  | case2 position cs hcs hround =>
    have hne : cs ≠ [] := mt List.isEmpty_iff.2 hcs
    obtain ⟨c, rest, hdrop, hnothing⟩ :=
      (round?_eq_none_iff.1 hround).resolve_left (hbare.dropBlanks_ne_nil hne)
    obtain ⟨front, hfront, hcs'⟩ := exists_blanks cs
    rw [rounds_of_none hne hround, hcs', hdrop, List.append_assoc, scan_blanks hfront]
    exact scan_unexpected hnothing (isBlank_of_dropBlanks_eq_cons hdrop) _ _ _
  | case3 position cs hcs token rest hround ih =>
    obtain ⟨front, -, hcs', hwhole⟩ := round?_eq_some hround
    have hrest : EndsBare rest := by
      refine EndsBare.of_append (front ++ token.text.toList) ?_
      rwa [List.append_assoc, ← hcs']
    rw [scan_round hround (hwhole.append_blanks hblanks), ih hrest, rounds_of_some hround]

theorem endsBare_trimmed (text : String) : EndsBare (trimmed text) := by
  intro c hc
  have hne : trimmed text ≠ [] := by
    intro hnil
    rw [hnil] at hc
    cases hc
  have hlast : ¬ Text.isBlank ((trimmed text).getLast hne) = true :=
    List.rdropWhile_last_not Text.isBlank text.toList hne
  rw [List.getLast?_eq_some_getLast hne] at hc
  obtain rfl := Option.some.inj hc
  simpa using hlast

/-- A text is what is left without the blanks at its end, and these blanks. -/
theorem exists_blanks_trimmed (text : String) :
    ∃ blanks, (∀ c ∈ blanks, Text.isBlank c = true) ∧ text.toList = trimmed text ++ blanks :=
  ⟨_, fun _ hc => List.mem_rtakeWhile_imp hc, List.rdropWhile_append_rtakeWhile.symm⟩

/-- The tokens of a text are those that the rounds take off it. -/
theorem tokens_eq_rounds (text : String) : tokens text = rounds 0 (trimmed text) := by
  obtain ⟨blanks, hblanks, htext⟩ := exists_blanks_trimmed text
  rw [tokens, htext]
  exact scan_eq_rounds hblanks 0 (trimmed text) (endsBare_trimmed text)

/-! ## Boundaries

A boundary is a place that the rounds come to: some tokens are taken, some characters are left. -/

/-- The rounds take tokens off the front of some characters and leave others. -/
inductive Taken : List Char → List Token → List Char → Prop
  | nothing (cs : List Char) : Taken cs [] cs
  | round {cs middle rest : List Char} {token : Token} {ts : List Token}
      (first : round? cs = some (token, middle)) (more : Taken middle ts rest) :
      Taken cs (token :: ts) rest

variable {cs rest : List Char} {ts : List Token}

/-- Tokens are no more than the characters that they are taken from. -/
theorem Taken.length_le (h : Taken cs ts rest) : ts.length + rest.length ≤ cs.length := by
  induction h with
  | nothing cs => simp
  | round first more ih =>
    have hlt := length_lt_of_round? first
    rw [List.length_cons]
    omega

/-- A boundary splits the tokens that are taken up to a later one. -/
theorem Taken.split {before after : List Token} (h : Taken cs (before ++ after) rest) :
    ∃ middle, Taken cs before middle ∧ Taken middle after rest := by
  induction before generalizing cs with
  | nil => exact ⟨cs, .nothing cs, h⟩
  | cons token before ih =>
    cases h with
    | round first more =>
      obtain ⟨middle, hbefore, hafter⟩ := ih more
      exact ⟨middle, .round first hbefore, hafter⟩

/-- The characters without the blanks among them. -/
def withoutBlanks (cs : List Char) : List Char := cs.filter (!Text.isBlank ·)

theorem withoutBlanks_append (cs more : List Char) :
    withoutBlanks (cs ++ more) = withoutBlanks cs ++ withoutBlanks more := List.filter_append ..

theorem withoutBlanks_eq_nil {blanks : List Char} (h : ∀ c ∈ blanks, Text.isBlank c = true) :
    withoutBlanks blanks = [] := by
  refine List.filter_eq_nil_iff.2 fun c hc => ?_
  simp [h c hc]

/-- No blank is part of a token. -/
theorem Token.IsWhole.withoutBlanks_text {token : Token} (h : token.IsWhole rest) :
    withoutBlanks token.text.toList = token.text.toList := by
  cases token with
  | name word =>
    refine List.filter_eq_self.2 fun c hc => ?_
    have hname := h.1
    unfold isNameWord at hname
    match hword : word.toList, hname with
    | first :: more, hname =>
      simp only [Bool.and_eq_true, List.all_eq_true] at hname
      rw [Token.text, hword] at hc
      rcases List.mem_cons.1 hc with rfl | hmore
      · simp [isBlank_of_isNameStart hname.1]
      · by_contra hblank
        have hchar := hname.2 c hmore
        rw [isNameChar_of_isBlank (by simpa using hblank)] at hchar
        cases hchar
  | opening bracket => cases bracket <;> rfl
  | closing bracket => cases bracket <;> rfl
  | comma => rfl

/-- What is left at a boundary stands at the end of the characters, and in front of it are the
tokens, with nothing but blanks around them. -/
theorem Taken.exists_front (h : Taken cs ts rest) :
    ∃ front, cs = front ++ rest ∧ withoutBlanks front = ts.flatMap (·.text.toList) := by
  induction h with
  | nothing cs => exact ⟨[], rfl, rfl⟩
  | @round cs middle rest token ts first more ih =>
    obtain ⟨blanks, hblanks, rfl, hwhole⟩ := round?_eq_some first
    obtain ⟨front, rfl, hfront⟩ := ih
    refine ⟨blanks ++ (token.text.toList ++ front), by simp, ?_⟩
    rw [withoutBlanks_append, withoutBlanks_append, withoutBlanks_eq_nil hblanks,
      hwhole.withoutBlanks_text, hfront]
    rfl

theorem Token.IsWhole.alone {token : Token} (h : token.IsWhole rest) : token.IsWhole [] := by
  cases token with
  | name word => exact ⟨h.1, rfl⟩
  | _ => exact trivial

/-- Every token that is taken is whole. -/
theorem Taken.isWhole (h : Taken cs ts rest) {token : Token} (htoken : token ∈ ts) :
    token.IsWhole [] := by
  induction h with
  | nothing cs => cases htoken
  | @round cs middle rest first ts hround more ih =>
    rcases List.mem_cons.1 htoken with rfl | hmore
    · obtain ⟨_, -, -, hwhole⟩ := round?_eq_some hround
      exact hwhole.alone
    · exact ih hmore

/-- The rounds end well exactly if they leave nothing. -/
theorem rounds_eq_ok_iff {position : Nat} : rounds position cs = .ok ts ↔ Taken cs ts [] := by
  constructor
  · intro h
    induction position, cs using rounds.induct generalizing ts with
    | case1 position cs hcs =>
      obtain rfl := List.isEmpty_iff.1 hcs
      rw [rounds_nil] at h
      obtain rfl := Except.ok.inj h
      exact .nothing []
    | case2 position cs hcs hround =>
      rw [rounds_of_none (mt List.isEmpty_iff.2 hcs) hround] at h
      cases h
    | case3 position cs hcs token rest hround ih =>
      rw [rounds_of_some hround] at h
      obtain ⟨more, hmore, rfl⟩ := Except.map_eq_ok.1 h
      exact .round hround (ih hmore)
  · intro h
    generalize hrest : ([] : List Char) = rest at h
    induction h generalizing position with
    | nothing cs =>
      subst hrest
      exact rounds_nil position
    | round first more ih =>
      rw [rounds_of_some first, ih hrest]
      rfl

/-- The rounds fail exactly if they come to a boundary from which the next one takes nothing. -/
theorem rounds_eq_error_iff {position place : Nat} :
    rounds position cs = .error place ↔ ∃ ts rest, Taken cs ts rest ∧ rest ≠ [] ∧
      round? rest = none ∧ place = position + (cs.length - rest.length) := by
  constructor
  · intro h
    induction position, cs using rounds.induct with
    | case1 position cs hcs =>
      obtain rfl := List.isEmpty_iff.1 hcs
      rw [rounds_nil] at h
      cases h
    | case2 position cs hcs hround =>
      have hne : cs ≠ [] := mt List.isEmpty_iff.2 hcs
      rw [rounds_of_none hne hround] at h
      obtain rfl := Except.error.inj h
      exact ⟨[], cs, .nothing cs, hne, hround, by simp⟩
    | case3 position cs hcs token middle hround ih =>
      rw [rounds_of_some hround] at h
      obtain ⟨ts, rest, htaken, hne, hnone, rfl⟩ := ih (Except.map_eq_error.1 h)
      refine ⟨token :: ts, rest, .round hround htaken, hne, hnone, ?_⟩
      have hlt := length_lt_of_round? hround
      have hle := htaken.length_le
      omega
  · rintro ⟨ts, rest, htaken, hne, hnone, rfl⟩
    induction htaken generalizing position with
    | nothing cs =>
      rw [rounds_of_none hne hnone]
      simp
    | @round cs middle rest token ts first more ih =>
      have hlt := length_lt_of_round? first
      have hle := more.length_le
      have hplace : position + (cs.length - middle.length) + (middle.length - rest.length) =
          position + (cs.length - rest.length) := by omega
      rw [rounds_of_some first, ih hne hnone, hplace]
      rfl

/-- A whole token is a symbol or a name. -/
theorem Token.IsWhole.symbol_or_name {token : Token} (h : token.IsWhole []) :
    (∃ c ∈ symbols, token.text.toList = [c]) ∨ isNameWord token.text = true := by
  cases token with
  | name word => exact .inr h.1
  | opening bracket => cases bracket <;> exact .inl ⟨_, by decide, rfl⟩
  | closing bracket => cases bracket <;> exact .inl ⟨_, by decide, rfl⟩
  | comma => exact .inl ⟨_, by decide, rfl⟩

/-! ## Tokens that are written apart -/

/-- The texts of tokens with a blank between any two of them. -/
def spaced (ts : List Token) : String := String.intercalate " " (ts.map Token.text)

/-- Whole tokens that are written apart are scanned as these tokens: no blank goes on with a name. -/
theorem scan_spaced (h : ∀ token ∈ ts, token.IsWhole []) (lastEnd here : Nat) :
    scan lastEnd here [] (spaced ts).toList = .ok ts := by
  induction ts generalizing lastEnd here with
  | nil => rfl
  | cons token more ih =>
    have htoken := h token List.mem_cons_self
    have hmore := ih fun other hother => h other (List.mem_cons_of_mem token hother)
    cases more with
    | nil =>
      have htext : (spaced [token]).toList = token.text.toList ++ [] := by simp [spaced]
      rw [htext, scan_whole htoken]
      rfl
    | cons next more =>
      have htext : (spaced (token :: next :: more)).toList =
          token.text.toList ++ ([' '] ++ (spaced (next :: more)).toList) := by
        simp [spaced]
      have hblank : ∀ c ∈ [' '], Text.isBlank c = true := List.forall_mem_singleton.2 rfl
      have hwhole : token.IsWhole ([' '] ++ (spaced (next :: more)).toList) := by
        cases token with
        | name word => exact ⟨htoken.1, rfl⟩
        | _ => exact trivial
      rw [htext, scan_whole hwhole, scan_blanks hblank, hmore]
      rfl

/-! ## Tokens of texts -/

theorem tokens_eq_ok_iff {text : String} : tokens text = .ok ts ↔ Taken (trimmed text) ts [] := by
  rw [tokens_eq_rounds, rounds_eq_ok_iff]

/-- A text has no tokens exactly if its rounds come to a boundary behind which, blanks aside, no
token starts. -/
theorem tokens_eq_error_iff {text : String} {position : Nat} :
    tokens text = .error position ↔ ∃ ts rest c after, Taken (trimmed text) ts rest ∧
      Text.dropBlanks rest = c :: after ∧ StartsNothing c ∧
      position = (trimmed text).length - rest.length := by
  rw [tokens_eq_rounds, rounds_eq_error_iff]
  constructor
  · rintro ⟨ts, rest, htaken, hne, hnone, rfl⟩
    obtain ⟨front, hfront, -⟩ := htaken.exists_front
    have hbare : EndsBare rest := EndsBare.of_append front (hfront ▸ endsBare_trimmed text)
    obtain ⟨c, after, hdrop, hnothing⟩ :=
      (round?_eq_none_iff.1 hnone).resolve_left (hbare.dropBlanks_ne_nil hne)
    exact ⟨ts, rest, c, after, htaken, hdrop, hnothing, Nat.zero_add _⟩
  · rintro ⟨ts, rest, c, after, htaken, hdrop, hnothing, rfl⟩
    have hne : rest ≠ [] := by
      rintro rfl
      cases hdrop
    exact ⟨ts, rest, htaken, hne, round?_eq_none_iff.2 (.inr ⟨c, after, hdrop, hnothing⟩),
      (Nat.zero_add _).symm⟩

/-- Without blanks a text and its tokens are the same. -/
theorem flatMap_text_of_tokens {text : String} (h : tokens text = .ok ts) :
    ts.flatMap (·.text.toList) = withoutBlanks text.toList := by
  obtain ⟨blanks, hblanks, htext⟩ := exists_blanks_trimmed text
  obtain ⟨front, hfront, htokens⟩ := (tokens_eq_ok_iff.1 h).exists_front
  rw [htext, withoutBlanks_append, withoutBlanks_eq_nil hblanks, hfront, List.append_nil,
    List.append_nil, htokens]

/-- A name among the tokens of a text stands in it behind the tokens before it, and what follows it
does not go on with it. -/
theorem exists_place_of_tokens {text : String} {before after : List Token} {word : String}
    (h : tokens text = .ok (before ++ .name word :: after)) :
    ∃ front rest, text.toList = front ++ (word.toList ++ rest) ∧
      withoutBlanks front = before.flatMap (·.text.toList) ∧ continuesName rest = false := by
  obtain ⟨blanks, hblanks, htext⟩ := exists_blanks_trimmed text
  obtain ⟨middle, hbefore, hname⟩ := (tokens_eq_ok_iff.1 h).split
  obtain ⟨front, hfront, hwithout⟩ := hbefore.exists_front
  cases hname with
  | @round _ rest _ _ _ hround _ =>
    obtain ⟨gap, hgap, hmiddle, hwhole⟩ := round?_eq_some hround
    refine ⟨front ++ gap, rest ++ blanks, ?_, ?_, continuesName_append_blanks hblanks hwhole.2⟩
    · rw [htext, hfront, hmiddle]
      simp [Token.text]
    · rw [withoutBlanks_append, withoutBlanks_eq_nil hgap, List.append_nil, hwithout]

/-- **Tokens lose nothing, are as long as they can be, and are stable.** They are what the rounds
take off the text, each of them at least one character. What the tokens of a text are made of is the
text without its blanks; each of them is a symbol or a name; a name goes on as long as the text
lets it; and the tokens of what they are written as, with blanks between them, are they themselves.
A text has no tokens exactly if, at some boundary in front of the blanks at its end, the next
character that is no blank starts neither a name nor a symbol; the failure is that boundary. -/
theorem tokens_lossless_and_stable (text : String) :
    tokens text = rounds 0 (trimmed text) ∧
    (∀ cs token rest, round? cs = some (token, rest) → rest.length < cs.length) ∧
    (∀ ts, tokens text = .ok ts ↔ Taken (trimmed text) ts []) ∧
    (∀ ts, tokens text = .ok ts →
      (String.join (ts.map Token.text)).toList = withoutBlanks text.toList ∧
      (∀ token ∈ ts, (∃ c ∈ symbols, token.text.toList = [c]) ∨ isNameWord token.text = true) ∧
      (∀ before word after, ts = before ++ .name word :: after →
        ∃ front rest, text.toList = front ++ (word.toList ++ rest) ∧
          withoutBlanks front = before.flatMap (·.text.toList) ∧ continuesName rest = false) ∧
      tokens (spaced ts) = .ok ts) ∧
    ∀ position, tokens text = .error position ↔ ∃ ts rest c after, Taken (trimmed text) ts rest ∧
      Text.dropBlanks rest = c :: after ∧ StartsNothing c ∧
      position = (trimmed text).length - rest.length := by
  refine ⟨tokens_eq_rounds text, fun cs token rest => length_lt_of_round?, fun ts => tokens_eq_ok_iff,
    fun ts h => ?_, fun position => tokens_eq_error_iff⟩
  have hwhole : ∀ token ∈ ts, token.IsWhole [] := fun token => (tokens_eq_ok_iff.1 h).isWhole
  refine ⟨?_, fun token htoken => (hwhole token htoken).symbol_or_name, ?_, scan_spaced hwhole 0 0⟩
  · rw [String.toList_join, List.flatMap_map, flatMap_text_of_tokens h]
  · rintro before word after rfl
    exact exists_place_of_tokens h

/-- A type with blanks of several sorts, and a name with a letter and a digit beyond ASCII. -/
def looseMap : String := "\t Map [Dogé٣_2 ,list<a$-1.b>]\u3000\n"

/-- The tokens of the type. -/
def looseMapTokens : List Token :=
  [.name "Map", .opening .square, .name "Dogé٣_2", .comma, .name "list", .opening .angle,
   .name "a$-1.b", .closing .angle, .closing .square]

/-- The type without its blanks, and its tokens in a row and apart. With a character behind it that
starts no token it fails where its last token ends. -/
theorem looseMap_tokens :
    tokens looseMap = .ok looseMapTokens ∧
    (String.join (looseMapTokens.map Token.text)).toList = withoutBlanks looseMap.toList ∧
    tokens "Map [ Dogé٣_2 , list < a$-1.b > ]" = .ok looseMapTokens ∧
    tokens (looseMap ++ "?") = .error 29 ∧
    ∃ ts rest c after, Taken (trimmed (looseMap ++ "?")) ts rest ∧
      Text.dropBlanks rest = c :: after ∧ StartsNothing c ∧
      29 = (trimmed (looseMap ++ "?")).length - rest.length := by
  have htokens : tokens looseMap = .ok looseMapTokens := by decide +kernel
  have hfails : tokens (looseMap ++ "?") = .error 29 := by decide +kernel
  have hspaced : spaced looseMapTokens = "Map [ Dogé٣_2 , list < a$-1.b > ]" := by decide +kernel
  obtain ⟨-, -, -, hlossless, -⟩ := tokens_lossless_and_stable looseMap
  obtain ⟨-, -, -, -, herror⟩ := tokens_lossless_and_stable (looseMap ++ "?")
  obtain ⟨hjoined, -, -, hstable⟩ := hlossless looseMapTokens htokens
  rw [hspaced] at hstable
  exact ⟨htokens, hjoined, hstable, hfails, (herror 29).1 hfails⟩

end ServiceSchema.TypeText

/-
What reading a YAML text may raise.

A fault makes a text malformed, or it is that of a scalar. Everything that reads text finds it
malformed or goes on, with one exception: an escape may ask for a character that there is not.
`OnlyRaises` carries this through the scalars, the lexer and the descent, function by function.
-/
import ServiceSchema.Proofs.Outcomes
import ServiceSchema.Yaml.Node

set_option autoImplicit false

namespace ServiceSchema.Yaml

/-! ## Faults that a step may raise -/

/-- The faults of scalars that a step raises have the property. Nothing is said of faults
that make a text malformed. -/
def OnlyRaises {α : Type} (P : ScalarFault → Prop) (x : Except Fault α) : Prop :=
  ∀ fault, x = .error (.scalar fault) → P fault

section Steps

variable {α β : Type} {P : ScalarFault → Prop}

@[simp] theorem onlyRaises_ok (a : α) : OnlyRaises P (.ok a) := nofun

@[simp] theorem onlyRaises_pure (a : α) : OnlyRaises P (pure a) := nofun

@[simp] theorem onlyRaises_malformed (rule : Malformation) :
    OnlyRaises P (.error (.malformed rule) : Except Fault α) := nofun

@[simp] theorem onlyRaises_throw (rule : Malformation) :
    OnlyRaises P (throw (.malformed rule) : Except Fault α) := nofun

/-- What a sequence raises its first step raises, or its second after a first that succeeds. -/
@[simp] theorem onlyRaises_bind {x : Except Fault α} {f : α → Except Fault β} :
    OnlyRaises P (x >>= f) ↔ OnlyRaises P x ∧ ∀ a, x = .ok a → OnlyRaises P (f a) := by
  simp only [OnlyRaises, Except.bind_eq_error]
  constructor
  · intro h
    exact ⟨fun fault hx => h fault (.inl hx), fun a ha fault hf => h fault (.inr ⟨a, ha, hf⟩)⟩
  · rintro ⟨hx, hf⟩ fault (h | ⟨a, ha, h⟩)
    · exact hx fault h
    · exact hf a ha fault h

@[simp] theorem onlyRaises_map {x : Except Fault α} {f : α → β} :
    OnlyRaises P (f <$> x) ↔ OnlyRaises P x := by
  cases x <;> simp [OnlyRaises, Functor.map, Except.map]

@[simp] theorem onlyRaises_ite {c : Prop} [Decidable c] {x y : Except Fault α} :
    OnlyRaises P (if c then x else y) ↔ (c → OnlyRaises P x) ∧ (¬ c → OnlyRaises P y) := by
  split <;> simp [*]

theorem OnlyRaises.ite {c : Prop} [Decidable c] {x y : Except Fault α} (hx : OnlyRaises P x)
    (hy : OnlyRaises P y) : OnlyRaises P (if c then x else y) :=
  onlyRaises_ite.2 ⟨fun _ => hx, fun _ => hy⟩

theorem onlyRaises_mapM {f : α → Except Fault β} {xs : List α}
    (h : ∀ x ∈ xs, OnlyRaises P (f x)) : OnlyRaises P (xs.mapM f) := by
  intro fault hfault
  obtain ⟨x, hx, hfx⟩ := Except.exists_of_mapM_eq_error hfault
  exact h x hx fault hfx

end Steps

/-! ## Reading text -/

/-- The fault of an escape whose number no character has. -/
def EscapeFault (fault : ScalarFault) : Prop := ∃ c, escapedChars c = .error (.scalar fault)

variable {P : ScalarFault → Prop}

@[simp] theorem onlyRaises_quotedBreaks (fuel : Nat) (c : Cursor) (acc : List Char) :
    OnlyRaises P (quotedBreaks fuel c acc) := by
  induction fuel generalizing c acc with
  | zero => simp [quotedBreaks]
  | succ fuel ih =>
    unfold quotedBreaks
    split
    · simp
    · dsimp only
      split <;> simp [ih]

@[simp] theorem onlyRaises_quotedSpaces (c : Cursor) : OnlyRaises P (quotedSpaces c) := by
  unfold quotedSpaces
  dsimp only
  split
  · simp
  · split <;> simp

@[simp] theorem onlyRaises_escapedChars (c : Cursor) : OnlyRaises EscapeFault (escapedChars c) :=
  fun _ h => ⟨c, h⟩

@[simp] theorem onlyRaises_quotedContent (double : Bool) (fuel : Nat) (c : Cursor)
    (acc : List Char) : OnlyRaises EscapeFault (quotedContent double fuel c acc) := by
  induction fuel generalizing c acc with
  | zero => simp [quotedContent]
  | succ fuel ih => simp [quotedContent, ih]

@[simp] theorem onlyRaises_quotedScalar (c : Cursor) : OnlyRaises EscapeFault (quotedScalar c) := by
  simp [quotedScalar]

@[simp] theorem onlyRaises_increment? (c : Cursor) : OnlyRaises P (increment? c) := by
  simp [increment?]

@[simp] theorem onlyRaises_blockIndicators (c : Cursor) : OnlyRaises P (blockIndicators c) := by
  unfold blockIndicators
  split
  · simp only [onlyRaises_bind, onlyRaises_increment?, true_and]
    intro n hn
    split <;> simp
  · simp only [onlyRaises_bind, onlyRaises_increment?, true_and]
    intro n hn
    split
    · split <;> simp
    · simp

@[simp] theorem onlyRaises_ignoredLine (rule : Malformation) (c : Cursor) :
    OnlyRaises P (ignoredLine rule c) := by
  simp [ignoredLine]

@[simp] theorem onlyRaises_blockScalar (folded : Bool) (indent : Int) (c : Cursor) :
    OnlyRaises P (blockScalar folded indent c) := by
  simp [blockScalar]

@[simp] theorem onlyRaises_nameWord (rule : Malformation) (ends : Char → Bool) (c : Cursor) :
    OnlyRaises P (nameWord rule ends c) := by
  simp [nameWord]

@[simp] theorem onlyRaises_anchorName (c : Cursor) : OnlyRaises P (anchorName c) := by
  simp [anchorName]

@[simp] theorem onlyRaises_tagEscapes (fuel : Nat) (c : Cursor) (acc : List Nat) :
    OnlyRaises P (tagEscapes fuel c acc) := by
  induction fuel generalizing c acc with
  | zero => simp [tagEscapes]
  | succ fuel ih => simp [tagEscapes, ih]

@[simp] theorem onlyRaises_tagChars (fuel : Nat) (c : Cursor) (acc : List Char) :
    OnlyRaises P (tagChars fuel c acc) := by
  induction fuel generalizing c acc with
  | zero => simp [tagChars]
  | succ fuel ih =>
    simp only [tagChars, onlyRaises_ite, onlyRaises_bind, onlyRaises_tagEscapes, ih, true_and]
    refine ⟨fun _ bytes _ => ?_, by simp⟩
    split <;> simp [ih]

@[simp] theorem onlyRaises_tagWord (c : Cursor) : OnlyRaises P (tagWord c) := by
  simp [tagWord]

@[simp] theorem onlyRaises_tagHandle (c : Cursor) : OnlyRaises P (tagHandle c) := by
  simp [tagHandle]

@[simp] theorem onlyRaises_tagToken (c : Cursor) : OnlyRaises P (tagToken c) := by
  simp [tagToken]

@[simp] theorem onlyRaises_versionNumber (c : Cursor) : OnlyRaises P (versionNumber c) := by
  simp [versionNumber]

@[simp] theorem onlyRaises_directiveToken (c : Cursor) : OnlyRaises P (directiveToken c) := by
  simp [directiveToken]

/-! ## The lexer -/

namespace Lexer

@[simp] theorem onlyRaises_dropStaleKeys (l : Lexer) : OnlyRaises P l.dropStaleKeys := by
  simp [dropStaleKeys]

@[simp] theorem onlyRaises_dropKey (l : Lexer) : OnlyRaises P l.dropKey := by
  unfold dropKey
  split <;> simp

@[simp] theorem onlyRaises_saveKey (l : Lexer) : OnlyRaises P l.saveKey := by
  simp [saveKey]

@[simp] theorem onlyRaises_separator (l : Lexer) : OnlyRaises P l.separator := by
  simp [separator]

theorem onlyRaises_content (l : Lexer) {read : Cursor → Except Fault (Token × Cursor)}
    (hread : ∀ c, OnlyRaises P (read c)) : OnlyRaises P (l.content read) := by
  simp [content, hread]

@[simp] theorem onlyRaises_plain (l : Lexer) : OnlyRaises P l.plain := by
  simp [plain]

@[simp] theorem onlyRaises_block (l : Lexer) (folded : Bool) : OnlyRaises P (l.block folded) := by
  simp [block]

@[simp] theorem onlyRaises_entry (l : Lexer) (start t : Token) (keyAllowed : Bool) :
    OnlyRaises P (l.entry start t keyAllowed) := by
  simp [entry]

@[simp] theorem onlyRaises_valueStart (l : Lexer) : OnlyRaises P l.valueStart := by
  unfold valueStart
  split <;> simp

@[simp] theorem onlyRaises_flowStart (l : Lexer) (t : Token) : OnlyRaises P (l.flowStart t) := by
  simp [flowStart]

@[simp] theorem onlyRaises_flowEnd (l : Lexer) (t : Token) : OnlyRaises P (l.flowEnd t) := by
  simp [flowEnd]

theorem onlyRaises_readToken (l : Lexer) : OnlyRaises EscapeFault l.readToken := by
  unfold readToken
  dsimp only
  repeat' apply OnlyRaises.ite
  all_goals simp [onlyRaises_content]

/-- What a round of the lexer does from the place of its token on. -/
def round (l : Lexer) : Except Fault Lexer := do
  let l ← l.dropStaleKeys
  let l := l.closeBlocks l.cursor.column
  if l.cursor.here = endMark then return (← l.separator).emit .streamEnd else l.readToken

-- unfolding the run must not unfold the skipping in front of it, whose fuel is a successor too
attribute [local irreducible] skipToToken in
theorem run_succ (fuel : Nat) (l : Lexer) :
    run (fuel + 1) l =
      match (skipToToken l.cursor.fuel l).round with
      | .error fault => (l.settled, some fault)
      | .ok l =>
        if l.tokens.head? = some .streamEnd then (l.tokens.reverse, none) else run fuel l :=
  rfl

theorem onlyRaises_round (l : Lexer) : OnlyRaises EscapeFault l.round := by
  simp [round, onlyRaises_readToken]

/-- The fault that ends the tokens, if one does, is that of an escape or makes the text
malformed. -/
theorem escapeFault_of_run {fuel : Nat} {l : Lexer} {fault : ScalarFault}
    (h : (run fuel l).2 = some (.scalar fault)) : EscapeFault fault := by
  induction fuel generalizing l with
  | zero => cases h
  | succ fuel ih =>
    rw [run_succ] at h
    split at h
    · next hround =>
      cases h
      exact onlyRaises_round _ fault hround
    · split at h
      · cases h
      · exact ih h

end Lexer

theorem escapeFault_of_tokens {text : String} {fault : ScalarFault}
    (h : (tokens text).2 = some (.scalar fault)) : EscapeFault fault := by
  unfold tokens at h
  dsimp only at h
  split at h
  · exact Lexer.escapeFault_of_run h
  · cases h

/-! ## The reader -/

open Reading

@[simp] theorem onlyRaises_refuse {α : Type} (r : Reading) :
    OnlyRaises P (r.refuse : Except Fault α) := nofun

@[simp] theorem onlyRaises_anchored (r : Reading) (anchor : Option String) :
    OnlyRaises P (r.bind anchor) := by
  unfold Reading.bind
  split <;> simp

@[simp] theorem onlyRaises_resolveTag (handles : List (String × String))
    (words : Option (Option String × String)) : OnlyRaises P (resolveTag handles words) := by
  unfold resolveTag
  split
  · simp
  · simp
  · split <;> simp

@[simp] theorem onlyRaises_readProperties (handles : List (String × String)) (r : Reading) :
    OnlyRaises P (readProperties handles r) := by
  unfold readProperties
  simp

/-- No function of the descent raises a fault of its own. The induction is on the fuel, which
all of them hand down. -/
theorem onlyRaises_descent (handles : List (String × String)) (fuel : Nat) :
    (∀ block indentless r, OnlyRaises P (readNode handles fuel block indentless r)) ∧
    (∀ r, OnlyRaises P (readBlockItems handles fuel r)) ∧
    (∀ r, OnlyRaises P (readIndentlessItems handles fuel r)) ∧
    (∀ r, OnlyRaises P (readBlockEntries handles fuel r)) ∧
    (∀ r, OnlyRaises P (readBlockValue handles fuel r)) ∧
    (∀ first r, OnlyRaises P (readFlowItems handles fuel first r)) ∧
    (∀ first r, OnlyRaises P (readFlowEntries handles fuel first r)) ∧
    (∀ close r, OnlyRaises P (readFlowValue handles fuel close r)) := by
  induction fuel with
  | zero =>
    simp [readNode, readBlockItems, readIndentlessItems, readBlockEntries, readBlockValue,
      readFlowItems, readFlowEntries, readFlowValue]
  | succ fuel ih =>
    obtain ⟨hnode, hblock, hindentless, hentries, hvalue, hitems, hpairs, hflow⟩ := ih
    refine ⟨?_, ?_, ?_, ?_, ?_, ?_, ?_, ?_⟩
    · intro block indentless r
      unfold readNode
      split
      · simp
      · simp only [onlyRaises_bind, onlyRaises_readProperties, true_and]
        intro properties _
        split <;> simp [hblock, hindentless, hentries, hitems, hpairs]
    · intro r
      unfold readBlockItems
      split <;> simp [hnode, hblock]
    · intro r
      unfold readIndentlessItems
      split <;> simp [hnode, hindentless]
    · intro r
      unfold readBlockEntries
      split <;> simp [hnode, hvalue, hentries]
    · intro r
      unfold readBlockValue
      split <;> simp [hnode]
    · intro first r
      simp [readFlowItems, hnode, hflow, hitems]
    · intro first r
      simp [readFlowEntries, hnode, hflow, hpairs]
    · intro close r
      unfold readFlowValue
      split <;> simp [hnode]

@[simp] theorem onlyRaises_readNode (handles : List (String × String)) (fuel : Nat)
    (block indentless : Bool) (r : Reading) :
    OnlyRaises P (readNode handles fuel block indentless r) :=
  (onlyRaises_descent handles fuel).1 block indentless r

@[simp] theorem onlyRaises_readDirectives (ts : List Token) (versionSeen : Bool)
    (handles : List (String × String)) : OnlyRaises P (readDirectives ts versionSeen handles) := by
  induction ts, versionSeen, handles using readDirectives.induct <;> simp [readDirectives, *]

@[simp] theorem onlyRaises_readDocument (ts : List Token) : OnlyRaises P (readDocument ts) := by
  unfold readDocument
  dsimp only
  split
  · simp
  all_goals
    simp only [onlyRaises_bind, onlyRaises_readDirectives, onlyRaises_readNode, onlyRaises_pure,
      implies_true, true_and]
  -- behind directives the document may be left out
  all_goals
    intro prolog _
    split
    · simp only [onlyRaises_bind, onlyRaises_refuse, true_and]
      intro _ _
      split <;> simp
    · split <;> simp

@[simp] theorem onlyRaises_readEnd (ts : List Token) : OnlyRaises P (readEnd ts) := by
  unfold readEnd
  dsimp only
  split <;> simp

/-- The fault that reading a text ends with, if one does, is that of an escape or makes the text
malformed. -/
theorem onlyRaises_read (text : String) : OnlyRaises EscapeFault (read text) := by
  unfold read
  dsimp only
  split
  · next fault hfault _ =>
    rintro cause ⟨⟩
    exact escapeFault_of_tokens hfault
  · simp

end ServiceSchema.Yaml

/-
Printing types, and that the parser reads back what was printed.

A container is printed with angle brackets, and a map with a comma and a blank between its key
and its value. Two things decide whether the parser finds its way back. The scan has to end each
name where the printer ended it, which it does because no bracket, comma or blank can go on a
name. And the names have to mean on the way back what they meant before: the name of a container
has to be its own keyword, and a leaf has to be what the declared names make of it. `Writable`
says both, and it says no more: exactly the writable signatures are meanings of texts.
-/
import ServiceSchema.Proofs.DocumentReferences

set_option autoImplicit false

namespace ServiceSchema.TypeText

/-! ## Scanning names, symbols and blanks -/

/-- Whether a text is a single name. -/
def isNameWord (word : String) : Bool :=
  match word.toList with
  | [] => false
  | first :: rest => isNameStart first && rest.all isNameChar

/-- Whether characters that follow a name would go on with it. -/
def continuesName : List Char → Bool
  | [] => false
  | c :: _ => isNameChar c

/-- What starts a name is neither a blank nor a symbol. -/
theorem isBlank_of_isNameStart {c : Char} (h : isNameStart c = true) : Text.isBlank c = false := by
  have hrange : (65 ≤ c.toNat ∧ c.toNat ≤ 90) ∨ (97 ≤ c.toNat ∧ c.toNat ≤ 122) ∨ c.toNat = 95 := by
    simp only [isNameStart, Bool.or_eq_true, beq_iff_eq] at h
    rcases h with h | rfl
    · have hletter : c.isUpper = true ∨ c.isLower = true := Bool.or_eq_true_iff.1 h
      delta Char.isUpper Char.isLower at hletter
      rcases hletter with h | h
      · simp only [ge_iff_le, decide_eq_true_eq, UInt32.le_iff_toNat_le] at h
        exact .inl h
      · simp only [Bool.and_eq_true, decide_eq_true_eq, UInt32.le_iff_toNat_le] at h
        exact .inr (.inl h)
    · exact .inr (.inr rfl)
  simp only [Text.isBlank, Bool.or_eq_false_iff, Bool.and_eq_false_iff, decide_eq_false_iff_not,
    beq_eq_false_iff_ne]
  omega

theorem symbol?_of_isNameStart {c : Char} (h : isNameStart c = true) : symbol? c = none := by
  have hne : ∀ d, isNameStart d = false → c ≠ d := by
    rintro d hd rfl
    rw [h] at hd
    cases hd
  unfold symbol?
  rw [if_neg (hne '[' rfl), if_neg (hne ']' rfl), if_neg (hne '<' rfl), if_neg (hne '>' rfl),
    if_neg (hne ',' rfl)]

theorem scan_blank {c : Char} (h : Text.isBlank c = true) (lastEnd here : Nat) (rest : List Char) :
    scan lastEnd here [] (c :: rest) = scan lastEnd (here + 1) [] rest := by
  rw [scan]
  simp [h, openName]

theorem scan_symbol {c : Char} {token : Token} (h : symbol? c = some token)
    (hblank : Text.isBlank c = false) (lastEnd here : Nat) (rest : List Char) :
    scan lastEnd here [] (c :: rest) = (token :: ·) <$> scan (here + 1) (here + 1) [] rest := by
  rw [scan]
  simp [h, hblank, openName]

/-- A name that is open ends where the next character does not go on with it. -/
theorem scan_ended {word rest : List Char} (hword : word ≠ []) (hrest : continuesName rest = false)
    (lastEnd here : Nat) :
    scan lastEnd here word rest = (openName word ++ ·) <$> scan here here [] rest := by
  have hempty : word.isEmpty = false := by simpa using hword
  match rest with
  | [] => simp [scan, openName, Functor.map, Except.map]
  | c :: rest =>
    have hc : isNameChar c = false := hrest
    rw [scan, scan]
    simp [hempty, hc, openName]

/-- A name goes on over all characters that can go on with it. The induction is on those
characters; the name that is open takes them in one by one. -/
theorem scan_continued {cs rest : List Char} (hcs : cs.all isNameChar = true)
    (hrest : continuesName rest = false) {word : List Char} (hword : word ≠ [])
    (lastEnd here : Nat) :
    scan lastEnd here word (cs ++ rest) = (openName (cs.reverse ++ word) ++ ·) <$>
      scan (here + cs.length) (here + cs.length) [] rest := by
  induction cs generalizing word here with
  | nil => simpa using scan_ended hword hrest lastEnd here
  | cons c cs ih =>
    simp only [List.all_cons, Bool.and_eq_true] at hcs
    have hempty : word.isEmpty = false := by simpa using hword
    rw [List.cons_append, scan, if_pos (by simp [hempty, hcs.1]),
      ih hcs.2 (List.cons_ne_nil c word)]
    simp [Nat.add_assoc, Nat.add_comm 1]

/-- **A name is scanned as one token**, whatever follows it that cannot go on with it. -/
theorem scan_name {word : String} (h : isNameWord word = true) {rest : List Char}
    (hrest : continuesName rest = false) (lastEnd here : Nat) :
    scan lastEnd here [] (word.toList ++ rest) = (.name word :: ·) <$>
      scan (here + word.length) (here + word.length) [] rest := by
  unfold isNameWord at h
  match hcs : word.toList, h with
  | first :: cs, h =>
    simp only [Bool.and_eq_true] at h
    have hlength : word.length = 1 + cs.length := by
      rw [← String.length_toList, hcs, List.length_cons, Nat.add_comm]
    have hword : String.ofList (first :: cs) = word := by rw [← hcs, String.ofList_toList]
    rw [List.cons_append, scan]
    simp [isBlank_of_isNameStart h.1, symbol?_of_isNameStart h.1, h.1,
      scan_continued h.2 hrest, openName, hlength, hword, Nat.add_assoc]

/-! ## Names among tokens -/

/-- Whether the name that is open, if there is one, is a name by itself. -/
def OpenIsName (word : List Char) : Prop :=
  word = [] ∨ isNameWord (String.ofList word.reverse) = true

theorem OpenIsName.continued {word : List Char} {c : Char} (h : OpenIsName word)
    (hword : word ≠ []) (hc : isNameChar c = true) : OpenIsName (c :: word) := by
  have hname := h.resolve_left hword
  refine .inr ?_
  simp only [isNameWord, String.toList_ofList, List.reverse_cons] at hname ⊢
  match hreverse : word.reverse, hname with
  | first :: rest, hname => simpa [hc] using hname

theorem openIsName_started {c : Char} (h : isNameStart c = true) : OpenIsName [c] :=
  .inr (by simp [isNameWord, h])

theorem OpenIsName.isNameWord {word : List Char} (h : OpenIsName word) {name : String}
    (hname : .name name ∈ openName word) : isNameWord name = true := by
  unfold openName at hname
  split at hname
  · cases hname
  · next hne =>
    obtain rfl := Token.name.inj (List.mem_singleton.1 hname)
    exact h.resolve_left (by simpa using hne)

/-- No symbol is a name. -/
theorem symbol?_ne_name (c : Char) (name : String) : symbol? c ≠ some (.name name) := by
  unfold symbol?
  repeat' split
  all_goals simp

/-- Every name that a scan yields is a name by itself. The induction is on the characters; what
is open when they start has to be a name too. -/
theorem isNameWord_of_scan {cs word : List Char} {lastEnd here : Nat} {ts : List Token}
    (h : scan lastEnd here word cs = .ok ts) (hopen : OpenIsName word) {name : String}
    (hname : .name name ∈ ts) : isNameWord name = true := by
  induction cs generalizing lastEnd here word ts with
  | nil =>
    obtain rfl := Except.ok.inj h
    exact hopen.isNameWord hname
  | cons c cs ih =>
    rw [scan] at h
    split at h
    · next hgoes =>
      simp only [Bool.and_eq_true, Bool.not_eq_true', List.isEmpty_eq_false_iff] at hgoes
      exact ih h (hopen.continued hgoes.1 hgoes.2) hname
    · obtain ⟨more, hmore, rfl⟩ := Except.map_eq_ok.1 h
      rcases List.mem_append.1 hname with hname | hname
      · exact hopen.isNameWord hname
      -- the name that was open has ended, so nothing is open or a new name is
      · split at hmore
        · exact ih hmore (.inl rfl) hname
        · split at hmore
          · next token hsymbol =>
            obtain ⟨rest, hrest, rfl⟩ := Except.map_eq_ok.1 hmore
            rcases List.mem_cons.1 hname with rfl | hname
            · exact absurd hsymbol (symbol?_ne_name c name)
            · exact ih hrest (.inl rfl) hname
          · split at hmore
            · next hstart => exact ih hmore (openIsName_started hstart) hname
            · cases hmore

/-- Every name among the tokens of a text is a name by itself. -/
theorem isNameWord_of_tokens {text : String} {ts : List Token} (h : tokens text = .ok ts)
    {name : String} (hname : .name name ∈ ts) : isNameWord name = true :=
  isNameWord_of_scan h (.inl rfl) hname

/-! ## Signatures that texts can mean -/

/-- A signature that a text can mean: its iterables are called by keywords in lower case, its
maps by the one keyword that maps have, and its leaves are names as the declared names class
them. -/
inductive Writable (names : Names) : Signature → Prop
  | leaf {name : String} (word : isNameWord name = true) : Writable names (names.leaf name)
  | iterable {name : String} {element : Signature} (keyword : name ∈ iterableKeywords)
      (inside : Writable names element) : Writable names (.iterable name element)
  | map {key value : Signature} (left : Writable names key) (right : Writable names value) :
      Writable names (.mapOf key value)

variable {names : Names}

/-- What the grammar derives from names is writable. -/
theorem Denotes.writable {ts : List Token} {s : Signature} (h : Denotes names ts s)
    (hts : ∀ name, .name name ∈ ts → isNameWord name = true) : Writable names s := by
  induction h with
  | @struct name declared =>
    have hleaf : names.leaf name = .struct name none := by rw [Names.leaf, if_pos declared]
    exact hleaf ▸ .leaf (hts name List.mem_cons_self)
  | @enum name undeclared declared =>
    have hleaf : names.leaf name = .enum name none := by
      rw [Names.leaf, if_neg undeclared, if_pos declared]
    exact hleaf ▸ .leaf (hts name List.mem_cons_self)
  | @base name noStruct noEnum =>
    have hleaf : names.leaf name = .base name := by
      rw [Names.leaf, if_neg noStruct, if_neg noEnum]
    exact hleaf ▸ .leaf (hts name List.mem_cons_self)
  | iterable keyword element ih =>
    exact .iterable keyword (ih fun name hname => hts name (by simp [hname]))
  | map keyword key value ihKey ihValue =>
    exact .map (ihKey fun name hname => hts name (by simp [hname]))
      (ihValue fun name hname => hts name (by simp [hname]))

/-- Whatever a text means is writable. -/
theorem writable_of_parse {text : String} {s : Signature} (h : parse names text = .ok s) :
    Writable names s := by
  obtain ⟨ts, hts, hdenotes⟩ := parse_eq_ok_iff.1 h
  exact hdenotes.writable fun name => isNameWord_of_tokens hts

/-! ## Printed tokens -/

/-- The tokens that a signature is printed with. -/
def printed : Signature → List Token
  | .iterable name element =>
    .name name :: .opening .angle :: (printed element ++ [.closing .angle])
  | .map name key value =>
    .name name :: .opening .angle ::
      (printed key ++ .comma :: (printed value ++ [.closing .angle]))
  | s => [.name s.name]

theorem printed_leaf (name : String) : printed (names.leaf name) = [.name name] := by
  unfold Names.leaf
  split
  · rfl
  · split <;> rfl

theorem text_leaf (name : String) : (names.leaf name).text = name := by
  unfold Names.leaf
  split
  · rfl
  · split <;> rfl

theorem toList_text_iterable (name : String) (element : Signature) (rest : List Char) :
    (Signature.iterable name element).text.toList ++ rest
      = name.toList ++ '<' :: (element.text.toList ++ '>' :: rest) := by
  simp [Signature.text]

theorem toList_text_map (name : String) (key value : Signature) (rest : List Char) :
    (Signature.map name key value).text.toList ++ rest
      = name.toList ++ '<' :: (key.text.toList ++ ',' :: ' ' ::
          (value.text.toList ++ '>' :: rest)) := by
  simp [Signature.text]

theorem isNameWord_of_keyword {name : String} (h : name ∈ iterableKeywords) :
    isNameWord name = true ∧ Text.lowerAscii name = name := by
  simp only [iterableKeywords, List.mem_cons, List.not_mem_nil, or_false] at h
  rcases h with rfl | rfl | rfl | rfl | rfl <;> decide

/-- The bracket that closes a printed container is a token of its own. -/
theorem scan_closed {rest : List Char} {ts : List Token}
    (hrest : ∀ lastEnd here, scan lastEnd here [] rest = .ok ts) (lastEnd here : Nat) :
    scan lastEnd here [] ('>' :: rest) = .ok (.closing .angle :: ts) := by
  rw [scan_symbol rfl rfl, hrest]
  rfl

/-- **A text that was printed is scanned as the tokens it was printed with.** The induction is on
the signature, generalised over the characters that follow: these are scanned alike wherever
they stand, and start with nothing that would go on with a name. -/
theorem Writable.scan_text {s : Signature} (h : Writable names s) {rest : List Char}
    {ts : List Token} (hstart : continuesName rest = false)
    (hrest : ∀ lastEnd here, scan lastEnd here [] rest = .ok ts) (lastEnd here : Nat) :
    scan lastEnd here [] (s.text.toList ++ rest) = .ok (printed s ++ ts) := by
  induction h generalizing rest ts lastEnd here with
  | leaf word =>
    rw [text_leaf, printed_leaf, scan_name word hstart, hrest]
    rfl
  | iterable keyword inside ih =>
    rw [toList_text_iterable, scan_name (isNameWord_of_keyword keyword).1 rfl,
      scan_symbol rfl rfl, ih rfl (scan_closed hrest)]
    simp [printed, Functor.map, Except.map]
  | @map key value left right ihKey ihValue =>
    have hvalue : ∀ lastEnd here,
        scan lastEnd here [] (',' :: ' ' :: (value.text.toList ++ '>' :: rest))
          = .ok (.comma :: (printed value ++ .closing .angle :: ts)) := by
      intro lastEnd here
      rw [scan_symbol rfl rfl, scan_blank rfl, ihValue rfl (scan_closed hrest)]
      rfl
    have hname : isNameWord "map" = true := by decide
    rw [Signature.mapOf, toList_text_map, scan_name hname rfl, scan_symbol rfl rfl,
      ihKey rfl hvalue]
    simp [printed, Functor.map, Except.map]

/-- What a writable signature is printed with means that signature. -/
theorem Writable.denotes_printed {s : Signature} (h : Writable names s) :
    Denotes names (printed s) s := by
  induction h with
  | @leaf name word =>
    rw [printed_leaf]
    exact denotes_leaf name
  | @iterable name element keyword inside ih =>
    have hlower := (isNameWord_of_keyword keyword).2
    have hdenotes : Denotes names (printed (.iterable name element))
        (.iterable (Text.lowerAscii name) element) := .iterable (hlower.symm ▸ keyword) ih
    rwa [hlower] at hdenotes
  | map left right ihKey ihValue => exact .map (by decide) ihKey ihValue

/-- What is printed for a writable signature is read as that signature. -/
theorem Writable.parse_text {s : Signature} (h : Writable names s) :
    parse names s.text = .ok s := by
  refine parse_eq_ok_iff.2 ⟨printed s, ?_, h.denotes_printed⟩
  have hscan : scan 0 0 [] (s.text.toList ++ []) = .ok (printed s ++ []) :=
    h.scan_text rfl (fun _ _ => rfl) 0 0
  rwa [List.append_nil, List.append_nil] at hscan

/-- Writable signatures are told apart by what is printed for them. -/
theorem Writable.eq_of_text_eq {s t : Signature} (hs : Writable names s) (ht : Writable names t)
    (htext : s.text = t.text) : s = t := by
  have hparse : parse names t.text = .ok s := htext ▸ hs.parse_text
  exact Except.ok.inj (hparse.symm.trans ht.parse_text)

/-! ## Printing and parsing -/

/-- **Printing and parsing are inverse to each other on what texts can mean.** The meaning of a
text is printed as a text with the same meaning, whatever brackets, blanks and capitals the first
text was written with. The same holds of every writable signature, so no two of them are printed
alike; in particular no two types are that one document is written with. -/
theorem parse_inverts_text (names : Names) :
    (∀ text s, parse names text = .ok s → parse names s.text = .ok s) ∧
    (∀ s, Writable names s → parse names s.text = .ok s) ∧
    (∀ s t, Writable names s → Writable names t → s.text = t.text → s = t) ∧
    ∀ (d : Document) (spec : Specification), d.convert = .ok spec →
      ∀ s t, spec.Uses s → spec.Uses t → s.text = t.text → s = t := by
  refine ⟨fun text s h => (writable_of_parse h).parse_text, fun s h => h.parse_text,
    fun s t hs ht htext => hs.eq_of_text_eq ht htext, ?_⟩
  intro d spec hconvert s t hs ht htext
  have hdescribes := (Document.convert_eq_ok hconvert).2
  obtain ⟨_, hparses⟩ := hdescribes.exists_parse hs
  obtain ⟨_, hparset⟩ := hdescribes.exists_parse ht
  exact (writable_of_parse hparses).eq_of_text_eq (writable_of_parse hparset) htext

/-- A struct that is called like a base type, and an enum that is called like a container. -/
def trickyNames : Names := { structs := ["Dog.v-1", "string"], enums := ["list", "Dog.v-1"] }

/-- A map from the enum that is called like a container to sets of the struct. -/
def trickyType : Signature :=
  .map "map" (.enum "list" none) (.iterable "set" (.struct "Dog.v-1" none))

/-- A text in capitals with mixed brackets and its printed form mean the same. -/
theorem trickyType_text :
    parse trickyNames "DICT [list, Set<Dog.v-1> ]" = .ok trickyType ∧
    trickyType.text = "map<list, set<Dog.v-1>>" ∧
    parse trickyNames trickyType.text = .ok trickyType := by
  have hparse : parse trickyNames "DICT [list, Set<Dog.v-1> ]" = .ok trickyType := by decide +kernel
  exact ⟨hparse, by decide +kernel, (parse_inverts_text trickyNames).1 _ _ hparse⟩

end ServiceSchema.TypeText

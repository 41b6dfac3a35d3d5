/-
Texts as sequences of code points.

A text of the program can hold surrogates: code points that are no characters. An escape can
ask for one, and no file can hold one. Texts are sequences of characters here, so a surrogate
is kept as two of them: a guard, which is the last character there is, and one that tells the
surrogate. The guard itself is kept as two guards, and every other character as itself.
-/

set_option autoImplicit false

namespace ServiceSchema.Text

/-- The number of the last character there is. -/
def guardCode : Nat := 0x10FFFF

/-- The character that stands before what would be no character. -/
def guard : Char := Char.ofNat guardCode

/-- Whether a code point is no character. -/
def isSurrogate (n : Nat) : Bool := 0xD800 ≤ n && n < 0xE000

/-- The distance of a surrogate to the character that tells it. -/
def surrogateShift : Nat := 0x800

/-- The characters for a code point. -/
def ofCode (n : Nat) : List Char :=
  if isSurrogate n then [guard, Char.ofNat (n + surrogateShift)]
  else if n = guardCode then [guard, guard]
  else [Char.ofNat n]

/-- The characters for a character. -/
def guarded (c : Char) : List Char := if c = guard then [guard, guard] else [c]

/-- The code points of a text. -/
def codes : List Char → List Nat
  | first :: second :: rest =>
    if first ≠ guard then first.toNat :: codes (second :: rest)
    else (if second = guard then guardCode else second.toNat - surrogateShift) :: codes rest
  | [last] => [last.toNat]
  | [] => []

/-- Whether a text can be encoded: whether all its code points are characters. -/
def isEncodable (s : String) : Bool := (codes s.toList).all (!isSurrogate ·)

/-! ## Reading code points back -/

theorem toNat_ofNat {n : Nat} (h : n.isValidChar) : (Char.ofNat n).toNat = n := by
  rw [Char.ofNat, dif_pos h]
  rfl

/-- Another number than that of the guard is another character. -/
theorem ofNat_ne_guard {n : Nat} (h : n.isValidChar) (hn : n ≠ guardCode) :
    Char.ofNat n ≠ guard := by
  intro heq
  have hcode : (Char.ofNat n).toNat = guardCode := by rw [heq]; rfl
  exact hn ((toNat_ofNat h).symm.trans hcode)

theorem codes_cons {c : Char} (h : c ≠ guard) (cs : List Char) :
    codes (c :: cs) = c.toNat :: codes cs := by
  cases cs with
  | nil => rfl
  | cons d ds => rw [codes, if_pos h]

theorem codes_guard (c : Char) (cs : List Char) :
    codes (guard :: c :: cs)
      = (if c = guard then guardCode else c.toNat - surrogateShift) :: codes cs := by
  rw [codes, if_neg (Decidable.not_not.2 rfl)]

theorem codes_ofCode {n : Nat} (h : n < 0x110000) (cs : List Char) :
    codes (ofCode n ++ cs) = n :: codes cs := by
  unfold ofCode
  split
  · next hsurrogate =>
    have hrange : 0xD800 ≤ n ∧ n < 0xE000 := by simpa [isSurrogate] using hsurrogate
    have hvalid : (n + surrogateShift).isValidChar := by
      rw [surrogateShift, Nat.isValidChar]
      omega
    have hother : n + surrogateShift ≠ guardCode := by
      rw [surrogateShift, guardCode]
      omega
    rw [List.cons_append, List.cons_append, List.nil_append, codes_guard,
      if_neg (ofNat_ne_guard hvalid hother), toNat_ofNat hvalid, Nat.add_sub_cancel]
  · next hsurrogate =>
    split
    · next hguard =>
      rw [List.cons_append, List.cons_append, List.nil_append, codes_guard, if_pos rfl, hguard]
    · next hguard =>
      have hrange : ¬ (0xD800 ≤ n ∧ n < 0xE000) := by simpa [isSurrogate] using hsurrogate
      have hvalid : n.isValidChar := by
        rw [Nat.isValidChar]
        omega
      rw [List.cons_append, List.nil_append, codes_cons (ofNat_ne_guard hvalid hguard),
        toNat_ofNat hvalid]

/-- A text has the code points that it was made from. -/
theorem codes_flatMap_ofCode {ns : List Nat} (h : ∀ n ∈ ns, n < 0x110000) :
    codes (ns.flatMap ofCode) = ns := by
  induction ns with
  | nil => rfl
  | cons n ns ih =>
    obtain ⟨hn, hns⟩ := List.forall_mem_cons.1 h
    rw [List.flatMap_cons, codes_ofCode hn, ih hns]

end ServiceSchema.Text

/-
Character classes of names and of quoted text.

Four classes matter to the library: the **blanks** that separate tokens and pad
text, the **word characters** that may continue a name, the **printable**
characters that a quoted literal writes as they are, and the **decimal digits**
of every script. Below U+0080 each is decided by comparison; beyond it by a
table of alternating gap and run lengths, so that one short recursion decides
membership and a proof about it is an induction over a list of numbers.
-/
import ServiceSchema.Text.WordTable
import ServiceSchema.Text.PrintableTable

set_option autoImplicit false

namespace ServiceSchema.Text

/-- Whether `n` falls into a run of a table that alternates gap and run lengths. -/
def inRuns : List Nat → Nat → Bool
  | gap :: run :: rest, n =>
    if n < gap then false
    else if n < gap + run then true
    else inRuns rest (n - gap - run)
  | _, _ => false

/-- White space: the separators of Unicode together with the control characters that
text treats as separators (tab to carriage return, U+001C to U+001F, next line). -/
def isBlank (c : Char) : Bool :=
  let n := c.toNat
  (9 ≤ n && n ≤ 13) || (28 ≤ n && n ≤ 32) || n == 0x85 || n == 0xA0 || n == 0x1680
    || (0x2000 ≤ n && n ≤ 0x200A) || n == 0x2028 || n == 0x2029 || n == 0x202F
    || n == 0x205F || n == 0x3000

/-- Letters, digits and other numeric characters of any script. -/
def isLetterOrDigit (c : Char) : Bool :=
  if c.toNat < 128 then c.isAlphanum else inRuns wordRuns c.toNat

/-- Word characters: letters, digits and the underscore. -/
def isWordChar (c : Char) : Bool :=
  c == '_' || isLetterOrDigit c

/-- Characters that a quoted literal shows as they are. -/
def isPrintable (c : Char) : Bool :=
  if c.toNat < 128 then 32 ≤ c.toNat && c.toNat != 127 else !inRuns unprintableRuns c.toNat

/-- The value of a decimal digit of any script. -/
def digitValue? (c : Char) : Option Nat :=
  if c.isDigit then some (c.toNat - 48)
  else (digitZeros.find? fun start => start ≤ c.toNat && c.toNat < start + 10).map (c.toNat - ·)

/-- Every character that core counts as white space is a blank. -/
theorem isBlank_of_isWhitespace {c : Char} (h : c.isWhitespace = true) : isBlank c = true := by
  simp only [Char.isWhitespace, Bool.or_eq_true, decide_eq_true_eq] at h
  rcases h with ((rfl | rfl) | rfl) | rfl <;> rfl

/-- Within ASCII a letter or digit is what core says it is. -/
theorem isLetterOrDigit_ascii {c : Char} (h : c.toNat < 128) :
    isLetterOrDigit c = c.isAlphanum := by
  simp [isLetterOrDigit, h]

/-! ## Trimming -/

/-- The characters without their leading blanks. -/
def dropBlanks (cs : List Char) : List Char := cs.dropWhile isBlank

/-- The characters without their trailing blanks. -/
def dropTrailing (p : Char → Bool) (cs : List Char) : List Char :=
  (cs.reverse.dropWhile p).reverse

/-- The text without its trailing blanks. -/
def trimEnd (s : String) : String := String.ofList (dropTrailing isBlank s.toList)

/-- The text without its leading blanks. -/
def trimStart (s : String) : String := String.ofList (dropBlanks s.toList)

/-- The text without its leading and trailing blanks. -/
def trim (s : String) : String := trimStart (trimEnd s)

end ServiceSchema.Text

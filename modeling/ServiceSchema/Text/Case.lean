/-
Upper and lower case.

Upper case is needed in full: HTTP methods and log levels are raised whatever
script they are written in, and a ligature may become several letters. Lower
case is needed only to compare a name with ASCII keywords. For that `lowerAscii`
is exact: the one character beyond ASCII whose lower case is an ASCII letter is
the Kelvin sign, which becomes `k`, so it is lowered too.
-/
import ServiceSchema.Text.UpperTable

set_option autoImplicit false

namespace ServiceSchema.Text

/-- The offset that a table of runs gives to a code point. -/
def upperOffset? (n : Nat) : List (Nat × Nat × Nat × Int) → Option Int
  | [] => none
  | (start, count, stride, offset) :: rest =>
    if start ≤ n ∧ n < start + count * stride ∧ (n - start) % stride = 0 then some offset
    else upperOffset? n rest

/-- The upper case of one character, which may be several characters. -/
def upperChar (c : Char) : List Char :=
  if c.toNat < 128 then [c.toUpper]
  else match upperOffset? c.toNat upperRuns with
    | some offset => [Char.ofNat (c.toNat + offset).toNat]
    | none => match upperSequences.lookup c.toNat with
      | some codes => codes.map Char.ofNat
      | none => [c]

/-- The text in upper case. -/
def upper (s : String) : String := String.ofList (s.toList.flatMap upperChar)

/-- One character lowered as far as ASCII keywords can tell. -/
def lowerCharAscii (c : Char) : Char :=
  if c.toNat = 0x212A then 'k' else c.toLower

/-- The text in lower case, exact as far as a comparison with ASCII keywords can tell. -/
def lowerAscii (s : String) : String := String.ofList (s.toList.map lowerCharAscii)

end ServiceSchema.Text

/-
Whole numbers as text.

A numeral is an optional sign and digits, possibly grouped by single underscores
that stand between two digits. The reader serves every place that takes an
integer from text; which digits count and which padding is allowed differs from
place to place, so the digit reader is a parameter.
-/
import ServiceSchema.Text.Character

set_option autoImplicit false

namespace ServiceSchema.Number

/-- The value of a digit of a base up to 36. -/
def baseDigit? (base : Nat) (c : Char) : Option Nat :=
  let value :=
    if '0' ≤ c ∧ c ≤ '9' then some (c.toNat - '0'.toNat)
    else if 'a' ≤ c ∧ c ≤ 'z' then some (c.toNat - 'a'.toNat + 10)
    else if 'A' ≤ c ∧ c ≤ 'Z' then some (c.toNat - 'A'.toNat + 10)
    else none
  value.filter (· < base)

/-- The value of digits that continue the number `acc`; a single underscore may stand between
two digits. -/
def digitsFrom (base : Nat) (digit? : Char → Option Nat) : Nat → List Char → Option Nat
  | acc, [] => some acc
  | acc, '_' :: c :: rest => do digitsFrom base digit? (acc * base + (← digit? c)) rest
  | acc, c :: rest => do digitsFrom base digit? (acc * base + (← digit? c)) rest

/-- The value of a non-empty run of digits. -/
def digits? (base : Nat) (digit? : Char → Option Nat) : List Char → Option Nat
  | [] => none
  | c :: rest => do digitsFrom base digit? (← digit? c) rest

/-- Splits off a sign: the first component says whether it was a minus. -/
def splitSign : List Char → Bool × List Char
  | '-' :: rest => (true, rest)
  | '+' :: rest => (false, rest)
  | rest => (false, rest)

/-- A natural number with the sign that `negative` stands for. -/
def signed (negative : Bool) (n : Nat) : Int := if negative then -n else n

/-- The decimal text of an integer. -/
def integerText (n : Int) : String :=
  if n < 0 then "-" ++ Nat.repr n.natAbs else Nat.repr n.natAbs

/-- `n` in decimal, with zeros in front up to `width` digits. -/
def padded (width n : Nat) : String :=
  let digits := Nat.toDigits 10 n
  String.ofList (List.replicate (width - digits.length) '0' ++ digits)

end ServiceSchema.Number

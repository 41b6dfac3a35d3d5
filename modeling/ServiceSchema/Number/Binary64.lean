/-
Binary floating-point numbers of double precision, in exact arithmetic.

A finite number is a sign, a mantissa below `2 ^ 53` and a power of two. Reading
a decimal rounds it to the nearest such number, a tie going to the even mantissa;
whether a number is whole, its integer value and its text with fixed places are
then questions about a quotient of natural numbers.
-/
import ServiceSchema.Number.Decimal

set_option autoImplicit false

namespace ServiceSchema.Number

/-- A number of double precision. The value of `finite n m e` is `m * 2 ^ e`, negated when
`n` holds. -/
inductive Binary64 where
  | finite (negative : Bool) (mantissa : Nat) (exponent : Int)
  | infinite (negative : Bool)
  | undefined
deriving DecidableEq, Inhabited, Repr

/-- The quotient `num / den` rounded to a natural number, a tie going to the even one. -/
def roundDiv (num den : Nat) : Nat :=
  let q := num / den
  let r := 2 * (num % den)
  if r < den then q else if den < r then q + 1 else q + q % 2

namespace Binary64

/-- The least exponent of a finite number. -/
def minExponent : Int := -1074

/-- The largest exponent of a finite number with a full mantissa. -/
def maxExponent : Int := 971

/-- The number `num / den` divided by `2 ^ e`, rounded. -/
def scaledRound (num den : Nat) (e : Int) : Nat :=
  if 0 ≤ e then roundDiv num (den * Nat.pow 2 e.toNat)
  else roundDiv (num * Nat.pow 2 (-e).toNat) den

/-- The finite or infinite number nearest to `num / den`. -/
def nearest (negative : Bool) (num den : Nat) : Binary64 :=
  if num = 0 then finite negative 0 0
  else
    -- the guess is at most two too small: one for the quotient, one for a carry
    let guess : Int := Int.ofNat num.log2 - Int.ofNat den.log2 - 53
    let e := max minExponent guess
    let (m, e) := ((List.range 3).map fun k => (scaledRound num den (e + Int.ofNat k), e + Int.ofNat k)).find?
        (fun (m, _) => m < Nat.pow 2 53) |>.getD (Nat.pow 2 52, e + 2)
    if maxExponent < e then infinite negative else finite negative m e

/-- The number nearest to `digits * 10 ^ exponent`. -/
def ofDecimal (negative : Bool) (digits : Nat) (exponent : Int) : Binary64 :=
  if digits = 0 then finite negative 0 0
  else
    let magnitude := exponent + Int.ofNat (Nat.toDigits 10 digits).length
    -- far outside the range the answer is known without the power of ten
    if 400 < magnitude then infinite negative
    else if magnitude < -400 then finite negative 0 0
    else if 0 ≤ exponent then nearest negative (digits * Nat.pow 10 exponent.toNat) 1
    else nearest negative digits (Nat.pow 10 (-exponent).toNat)

/-- The number nearest to an integer. -/
def ofInt (n : Int) : Binary64 := nearest (n < 0) n.natAbs 1

/-- The magnitude of a finite number as a quotient of natural numbers. -/
def quotient (mantissa : Nat) (exponent : Int) : Nat × Nat :=
  if 0 ≤ exponent then (mantissa * Nat.pow 2 exponent.toNat, 1)
  else (mantissa, Nat.pow 2 (-exponent).toNat)

/-! ## Arithmetic -/

/-- The sum of two numbers. -/
def add : Binary64 → Binary64 → Binary64
  | undefined, _ | _, undefined => undefined
  | infinite n, infinite n' => if n = n' then infinite n else undefined
  | infinite n, finite .. | finite .., infinite n => infinite n
  | finite n m e, finite n' m' e' =>
    let (num, den) := quotient m e
    let (num', den') := quotient m' e'
    let sum := signed n (num * den') + signed n' (num' * den)
    -- a sum of nothing is negative only if both parts are
    if sum = 0 then finite (n && n') 0 0 else nearest (sum < 0) sum.natAbs (den * den')

/-- The product of two numbers. -/
def mul : Binary64 → Binary64 → Binary64
  | undefined, _ | _, undefined => undefined
  | infinite n, infinite n' => infinite (n != n')
  | infinite n, finite n' m _ | finite n' m _, infinite n =>
    if m = 0 then undefined else infinite (n != n')
  | finite n m e, finite n' m' e' =>
    let (num, den) := quotient m e
    let (num', den') := quotient m' e'
    nearest (n != n') (num * num') (den * den')

/-- The number with the other sign. -/
def negate : Binary64 → Binary64
  | finite n m e => finite (!n) m e
  | infinite n => infinite (!n)
  | undefined => undefined

/-! ## Whole numbers and text -/

/-- The integer that a finite number is, if it is whole. -/
def toInt? : Binary64 → Option Int
  | finite negative mantissa exponent =>
    let (num, den) := quotient mantissa exponent
    if num % den = 0 then some (signed negative (num / den)) else none
  | _ => none

/-- Whether the number is neither infinite nor undefined. -/
def isFinite : Binary64 → Bool
  | finite .. => true
  | _ => false

/-- The number with `places` digits after the point. -/
def fixed (places : Nat) : Binary64 → String
  | finite negative mantissa exponent =>
    let (num, den) := quotient mantissa exponent
    let scaled := roundDiv (num * Nat.pow 10 places) den
    let whole := Nat.repr (scaled / Nat.pow 10 places)
    (if negative then "-" else "") ++ whole
      ++ (if places = 0 then "" else "." ++ padded places (scaled % Nat.pow 10 places))
  | infinite negative => if negative then "-inf" else "inf"
  | undefined => "nan"

end Binary64

end ServiceSchema.Number

/-
The shortest decimal text of a number.

The text of a finite number has the fewest digits that read back to it. For one
to seventeen digits the two neighbours of the value on that decimal grid are
tested against the interval of reals that round to the value; the first grid with
a hit wins, and of two hits the nearer. Magnitudes from `0.0001` up to below
`10 ^ 16` are written positionally, others with an exponent of at least two digits.
-/
import ServiceSchema.Number.Binary64

set_option autoImplicit false

namespace ServiceSchema.Number.Binary64

/-- Compares `a * 10 ^ p` with `num / den`. -/
def compareDecimal (a : Nat) (p : Int) (num den : Nat) : Ordering :=
  if 0 ≤ p then compare (a * Nat.pow 10 p.toNat * den) num
  else compare (a * den) (num * Nat.pow 10 (-p).toNat)

/-- The interval of reals that round to `m * 2 ^ e`, as two quotients; whether its ends
belong to it. -/
def roundingInterval (m : Nat) (e : Int) : (Nat × Nat) × (Nat × Nat) × Bool :=
  -- below a power of two the next number is only half as far away
  let below := if m = Nat.pow 2 52 ∧ minExponent < e then 4 * m - 1 else 4 * m - 2
  (quotient below (e - 2), quotient (4 * m + 2) (e - 2), m % 2 = 0)

/-- Whether `a * 10 ^ p` reads back to `m * 2 ^ e`. -/
def readsBack (m : Nat) (e : Int) (a : Nat) (p : Int) : Bool :=
  let (low, high, closed) := roundingInterval m e
  let below := compareDecimal a p low.1 low.2
  let above := compareDecimal a p high.1 high.2
  (below == .gt || (closed && below == .eq)) && (above == .lt || (closed && above == .eq))

/-- The value `num / den` in units of `10 ^ p`, rounded down. -/
def decimalFloor (num den : Nat) (p : Int) : Nat :=
  if 0 ≤ p then num / (den * Nat.pow 10 p.toNat) else num * Nat.pow 10 (-p).toNat / den

/-- The power of ten of the leading digit of `num / den`: the only candidate from which the
quotient leaves a single digit. -/
def leadingPower (num den : Nat) : Int :=
  let guess := Int.ofNat (Nat.toDigits 10 num).length - Int.ofNat (Nat.toDigits 10 den).length
  if 1 ≤ decimalFloor num den guess then guess else guess - 1

/-- The shortest decimal `a * 10 ^ p` that reads back to `m * 2 ^ e`, for `m ≠ 0`. -/
def shortestDecimal (m : Nat) (e : Int) : Nat × Int :=
  let (num, den) := quotient m e
  let top := leadingPower num den
  let candidate (k : Nat) : Option (Nat × Int) :=
    let p := top - Int.ofNat k
    let low := decimalFloor num den p
    match readsBack m e low p, readsBack m e (low + 1) p with
    | true, true =>
      -- twice the value, compared with the sum of the neighbours
      if compareDecimal (2 * low + 1) p (2 * num) den == .lt then some (low + 1, p) else some (low, p)
    | true, false => some (low, p)
    | false, true => some (low + 1, p)
    | false, false => none
  ((List.range 17).findSome? candidate).getD (decimalFloor num den (top - 16), top - 16)

/-- The digits of `a`, without trailing zeros, and the power of ten of the last one kept. -/
def stripZeros (a : Nat) (p : Int) : List Char × Int :=
  let digits := Nat.toDigits 10 a
  let kept := (digits.reverse.dropWhile (· == '0')).reverse
  (kept, p + Int.ofNat (digits.length - kept.length))

/-- The text of digits with the point after the first `point` of them. -/
def pointText (digits : List Char) (point : Int) : List Char :=
  if point ≤ 0 then '0' :: '.' :: List.replicate (-point).toNat '0' ++ digits
  else if digits.length ≤ point.toNat then
    digits ++ List.replicate (point.toNat - digits.length) '0' ++ ['.', '0']
  else digits.take point.toNat ++ '.' :: digits.drop point.toNat

/-- The text of digits with one digit before the point and an exponent. -/
def exponentText (digits : List Char) (exponent : Int) : List Char :=
  let mantissa := match digits with
    | first :: second :: rest => first :: '.' :: second :: rest
    | short => short
  let mark := if exponent < 0 then ['e', '-'] else ['e', '+']
  mantissa ++ mark ++ (padded 2 exponent.natAbs).toList

/-- The shortest text of a number. -/
def text : Binary64 → String
  | finite negative m e =>
    let sign := if negative then "-" else ""
    if m = 0 then sign ++ "0.0"
    else
      let (a, p) := shortestDecimal m e
      let (digits, last) := stripZeros a p
      let point := last + Int.ofNat digits.length
      let body := if -4 < point ∧ point ≤ 16 then pointText digits point
        else exponentText digits (point - 1)
      sign ++ String.ofList body
  | infinite negative => if negative then "-inf" else "inf"
  | undefined => "nan"

end ServiceSchema.Number.Binary64

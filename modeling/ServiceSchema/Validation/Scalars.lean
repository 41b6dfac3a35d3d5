/-
Truth values and whole numbers as input may write them.

Words, digits and numbers without a fraction are accepted beside the values
themselves. A numeral may have a sign, single underscores between its digits and a
point followed by zeros.
-/
import ServiceSchema.Number.Binary64
import ServiceSchema.Text.Case
import ServiceSchema.Validation.Basic

set_option autoImplicit false

namespace ServiceSchema.Validation

open ServiceSchema.Number (Binary64)

/-- The words for true. -/
def trueWords : List String := ["1", "on", "t", "true", "y", "yes"]

/-- The words for false. -/
def falseWords : List String := ["0", "off", "f", "false", "n", "no"]

/-- The truth value that a word stands for, in any case. -/
def boolOfText (s : String) : Checked Bool :=
  let word := Text.lowerAscii s
  if trueWords.contains word then .valid true
  else if falseWords.contains word then .valid false
  else .fail .unclearBool

/-- The truth value that a whole number stands for. -/
def boolOfInt (n : Int) : Checked Bool :=
  if n = 1 then .valid true else if n = 0 then .valid false else .fail .unclearBool

/-- The truth value that a number stands for. -/
def boolOfReal (x : Binary64) : Checked Bool :=
  match x.toInt? with
  | some n => boolOfInt n
  | none => .fail .notBool

/-- White space around a numeral: that of Unicode, which the information separators are not
part of. -/
def isSpace (c : Char) : Bool := Text.isBlank c && !(28 ≤ c.toNat && c.toNat ≤ 31)

/-- The characters between white space. -/
def trimmed (s : String) : List Char :=
  Text.dropTrailing isSpace (s.toList.dropWhile isSpace)

/-- The numeral without a point that only zeros follow. -/
def dropZeroFraction (cs : List Char) : List Char :=
  let fraction := cs.dropWhile (· ≠ '.')
  if !fraction.isEmpty && (fraction.drop 1).all (· = '0') then cs.takeWhile (· ≠ '.') else cs

/-- The value of an ASCII digit. -/
def asciiDigit? (c : Char) : Option Nat := if c.isDigit then some (c.toNat - 48) else none

/-- The whole number that a text is. -/
def intOfText (s : String) : Checked Int :=
  let (negative, body) := Number.splitSign (trimmed s)
  let body := dropZeroFraction body
  match Number.digits? 10 asciiDigit? body with
  | none => .fail .intText
  | some n =>
    if 4300 < (body.filter (· ≠ '_')).length then .fail .intTooLong
    else .valid (Number.signed negative n)

/-- The whole number that a number is. -/
def intOfReal (x : Binary64) : Checked Int :=
  if !x.isFinite then .fail .notFinite
  else match x.toInt? with
    | some n => .valid n
    | none => .fail .fractional

/-- A whole number that is not negative. -/
def natural (n : Int) : Checked Nat := if n < 0 then .fail .negative else .valid n.toNat

end ServiceSchema.Validation

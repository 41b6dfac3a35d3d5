/-
Quoted literals, as messages show names and texts.

A literal stands between single quotes, or between double quotes when the text
holds a single quote and no double one. Inside, the backslash and the closing
quote are escaped, line feed, carriage return and tab have letters of their own,
and any other unprintable character is written as the hexadecimal number of its
code point with two, four or eight digits, and so is a surrogate.
-/
import ServiceSchema.Text.Character
import ServiceSchema.Text.CodePoint

set_option autoImplicit false

namespace ServiceSchema.Text

/-- The hexadecimal digits of `n`, lower case, padded with zeros to `width`. -/
def hex (width n : Nat) : List Char :=
  let digits := Nat.toDigits 16 n
  List.replicate (width - digits.length) '0' ++ digits

/-- The escape of an unprintable character: `\xNN`, `\uNNNN` or `\UNNNNNNNN`. -/
def escapeCode (n : Nat) : List Char :=
  if n < 0x100 then '\\' :: 'x' :: hex 2 n
  else if n < 0x10000 then '\\' :: 'u' :: hex 4 n
  else '\\' :: 'U' :: hex 8 n

/-- One character inside a literal closed by `quote`. -/
def quotedChar (quote c : Char) : List Char :=
  if c = quote ∨ c = '\\' then ['\\', c]
  else if c = '\n' then ['\\', 'n']
  else if c = '\r' then ['\\', 'r']
  else if c = '\t' then ['\\', 't']
  else if isPrintable c then [c]
  else escapeCode c.toNat

/-- One code point inside a literal closed by `quote`. -/
def quotedCode (quote : Char) (n : Nat) : List Char :=
  if isSurrogate n then escapeCode n else quotedChar quote (Char.ofNat n)

/-- The quote that a literal of these characters uses. -/
def quoteFor (cs : List Char) : Char :=
  if cs.contains '\'' && !cs.contains '"' then '"' else '\''

/-- The literal that shows `s`. -/
def quoted (s : String) : String :=
  let cs := s.toList
  let quote := quoteFor cs
  String.ofList (quote :: (codes cs).flatMap (quotedCode quote) ++ [quote])

/-- A list of texts as messages show it: literals between brackets. -/
def quotedList (texts : List String) : String :=
  "[" ++ String.intercalate ", " (texts.map quoted) ++ "]"

end ServiceSchema.Text

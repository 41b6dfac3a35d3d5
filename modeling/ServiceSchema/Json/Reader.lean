/-
Reading JSON text.

The reader works on the list of characters. Every value takes at least one
character, so the length of the text bounds the recursion; that bound is the fuel
which `parse?` supplies and no caller sees. A pair of UTF-16 escapes reads as the
character it encodes, a lone half as a surrogate.
-/
import ServiceSchema.Json.Basic
import ServiceSchema.Text.CodePoint

set_option autoImplicit false

namespace ServiceSchema.Json

/-- White space between the tokens of JSON. -/
def isSpace (c : Char) : Bool := c = ' ' || c = '\n' || c = '\r' || c = '\t'

/-- The characters after white space. -/
def skipSpace (cs : List Char) : List Char := cs.dropWhile isSpace

/-- The value of four hexadecimal digits and what follows them. -/
def unit? : List Char → Option (Nat × List Char)
  | a :: b :: c :: d :: rest => do
    let n ← Number.digits? 16 (Number.baseDigit? 16) [a, b, c, d]
    if [a, b, c, d].contains '_' then none else some (n, rest)
  | _ => none

/-- The code point of a UTF-16 unit, joined with the low half that follows a high half. -/
def unitCode (n : Nat) (rest : List Char) : Nat × List Char :=
  if 0xD800 ≤ n ∧ n < 0xDC00 then
    match rest with
    | '\\' :: 'u' :: more =>
      match unit? more with
      | some (low, rest') =>
        if 0xDC00 ≤ low ∧ low < 0xE000 then
          (0x10000 + (n - 0xD800) * 0x400 + (low - 0xDC00), rest')
        else (n, rest)
      | none => (n, rest)
    | _ => (n, rest)
  else (n, rest)

/-- The characters of a string literal up to its closing quote, added in front of `acc` in
reverse. -/
def string? : Nat → List Char → List Char → Option (String × List Char)
  | 0, _, _ => none
  | fuel + 1, acc, cs =>
    match cs with
    | '"' :: rest => some (String.ofList acc.reverse, rest)
    | '\\' :: 'u' :: rest => do
      let (n, rest) ← unit? rest
      let (code, rest) := unitCode n rest
      string? fuel ((Text.ofCode code).reverse ++ acc) rest
    | '\\' :: c :: rest => do
      let c ← match c with
        | '"' => some '"'
        | '\\' => some '\\'
        | '/' => some '/'
        | 'b' => some (Char.ofNat 8)
        | 'f' => some (Char.ofNat 12)
        | 'n' => some '\n'
        | 'r' => some '\r'
        | 't' => some '\t'
        | _ => none
      string? fuel (c :: acc) rest
    | c :: rest => string? fuel (Text.guarded c ++ acc) rest
    | [] => none

/-- The value of a run of digits. -/
def digitRun (cs : List Char) : Nat :=
  cs.foldl (fun n c => n * 10 + (c.toNat - 48)) 0

/-- A number and what follows it. -/
def number? (cs : List Char) : Option (Json × List Char) :=
  let (negative, cs) := match cs with
    | '-' :: rest => (true, rest)
    | rest => (false, rest)
  let whole := cs.takeWhile Char.isDigit
  let cs := cs.dropWhile Char.isDigit
  if whole.isEmpty then none
  else
    let (fraction, cs) := match cs with
      | '.' :: rest => (rest.takeWhile Char.isDigit, rest.dropWhile Char.isDigit)
      | rest => ([], rest)
    let (power, cs) := match cs with
      | e :: rest =>
        if e = 'e' ∨ e = 'E' then
          let (minus, rest) := Number.splitSign rest
          (some (Number.signed minus (digitRun (rest.takeWhile Char.isDigit))),
            rest.dropWhile Char.isDigit)
        else (none, e :: rest)
      | [] => (none, [])
    if fraction.isEmpty && power.isNone then
      some (int (Number.signed negative (digitRun whole)), cs)
    else
      let exponent := power.getD 0 - Int.ofNat fraction.length
      some (real (.ofDecimal negative (digitRun (whole ++ fraction)) exponent), cs)

/-- A keyword and what follows it. -/
def keyword? (word : String) (value : Json) (cs : List Char) : Option (Json × List Char) :=
  if word.toList.isPrefixOf cs then some (value, cs.drop word.length) else none

mutual

/-- A value and what follows it. -/
def value? : Nat → List Char → Option (Json × List Char)
  | 0, _ => none
  | fuel + 1, cs =>
    match skipSpace cs with
    | '"' :: rest => (string? (rest.length + 1) [] rest).map fun (s, rest) => (text s, rest)
    | '[' :: rest =>
      match skipSpace rest with
      | ']' :: rest => some (list [], rest)
      | rest => (items? fuel [] rest).map fun (items, rest) => (list items, rest)
    | '\x7b' :: rest =>
      match skipSpace rest with
      | '\x7d' :: rest => some (object [], rest)
      | rest => (entries? fuel [] rest).map fun (entries, rest) => (object entries, rest)
    | 't' :: rest => keyword? "true" (bool true) ('t' :: rest)
    | 'f' :: rest => keyword? "false" (bool false) ('f' :: rest)
    | 'n' :: rest => keyword? "null" null ('n' :: rest)
    | 'N' :: rest => keyword? "NaN" (real .undefined) ('N' :: rest)
    | 'I' :: rest => keyword? "Infinity" (real (.infinite false)) ('I' :: rest)
    | '-' :: 'I' :: rest => keyword? "-Infinity" (real (.infinite true)) ('-' :: 'I' :: rest)
    | cs => number? cs

/-- The items of a list up to its closing bracket. -/
def items? : Nat → List Json → List Char → Option (List Json × List Char)
  | 0, _, _ => none
  | fuel + 1, acc, cs => do
    let (item, rest) ← value? fuel cs
    match skipSpace rest with
    | ',' :: rest => items? fuel (item :: acc) rest
    | ']' :: rest => some ((item :: acc).reverse, rest)
    | _ => none

/-- The entries of an object up to its closing brace. -/
def entries? : Nat → List (String × Json) → List Char → Option (List (String × Json) × List Char)
  | 0, _, _ => none
  | fuel + 1, acc, cs => do
    match skipSpace cs with
    | '"' :: rest =>
      let (key, rest) ← string? (rest.length + 1) [] rest
      match skipSpace rest with
      | ':' :: rest =>
        let (item, rest) ← value? fuel rest
        match skipSpace rest with
        | ',' :: rest => entries? fuel ((key, item) :: acc) rest
        | '\x7d' :: rest => some (((key, item) :: acc).reverse, rest)
        | _ => none
      | _ => none
    | _ => none

end

/-- The value that a whole text is. -/
def parse? (s : String) : Option Json := do
  let cs := s.toList
  let (value, rest) ← value? (cs.length + 1) cs
  if (skipSpace rest).isEmpty then some value else none

end ServiceSchema.Json

/-
Reading numbers from text.

Numerals of whole numbers in a given base and of numbers with a point and an
exponent, in the digits of any script, with blanks around them and a sign in front.
What cannot be read is reported in the words of the reader.
-/
import ServiceSchema.Number.Binary64
import ServiceSchema.Text.Case
import ServiceSchema.Text.Quoted

set_option autoImplicit false

namespace ServiceSchema.Number

/-- The value of a digit of any script in a base up to 36. -/
def anyDigit? (base : Nat) (c : Char) : Option Nat :=
  (baseDigit? base c).or ((Text.digitValue? c).filter (· < base))

/-- The letter that marks a base in front of a numeral. -/
def baseMark? : Nat → Option Char
  | 2 => some 'b'
  | 8 => some 'o'
  | 16 => some 'x'
  | _ => none

/-- The digits after the mark of a base, if they have one. -/
def dropBaseMark (base : Nat) : List Char → List Char
  | '0' :: mark :: rest =>
    if baseMark? base = some mark.toLower then
      match rest with
      | '_' :: digits => digits
      | digits => digits
    else '0' :: mark :: rest
  | cs => cs

/-- The longest numeral in base ten that is read. -/
def numeralLimit : Nat := 4300

/-- The whole number that a text is in a base, or why it is none. -/
def wholeNumber (base : Nat) (s : String) : Except String Int :=
  let (negative, body) := splitSign (Text.trim s).toList
  match digits? base (anyDigit? base) (dropBaseMark base body) with
  | none =>
    .error ("invalid literal for int() with base " ++ Nat.repr base ++ ": " ++ Text.quoted s)
  | some n =>
    let length := (body.filter (· ≠ '_')).length
    if base = 10 ∧ numeralLimit < length then
      .error ("Exceeds the limit (4300 digits) for integer string conversion: value has "
        ++ Nat.repr length
        ++ " digits; use sys.set_int_max_str_digits() to increase the limit")
    else .ok (signed negative n)

/-- A run of digits at the front, possibly grouped by single underscores, and what follows. -/
def digitGroup : List Char → List Nat × List Char
  | [] => ([], [])
  | '_' :: c :: rest =>
    match Text.digitValue? c with
    | some d => let (ds, after) := digitGroup rest; (d :: ds, after)
    | none => ([], '_' :: c :: rest)
  | c :: rest =>
    match Text.digitValue? c with
    | some d => let (ds, after) := digitGroup rest; (d :: ds, after)
    | none => ([], c :: rest)

/-- The digits at the front, which have to start with a digit. -/
def digitRun : List Char → List Nat × List Char
  | '_' :: rest => ([], '_' :: rest)
  | cs => digitGroup cs

/-- The number with the given decimal digits. -/
def ofDigits (ds : List Nat) : Nat := ds.foldl (fun n d => 10 * n + d) 0

/-- The exponent at the end of a numeral. -/
def exponent? : List Char → Option Int
  | [] => some 0
  | e :: rest =>
    if e = 'e' ∨ e = 'E' then
      let (negative, rest) := splitSign rest
      let (ds, rest) := digitRun rest
      if ds.isEmpty || !rest.isEmpty then none else some (signed negative (ofDigits ds))
    else none

/-- An unsigned number with a point, an exponent or neither. -/
def unsignedReal? (negative : Bool) (cs : List Char) : Option Binary64 := do
  let (whole, rest) := digitRun cs
  let (fraction, rest) := match rest with
    | '.' :: rest => digitRun rest
    | rest => ([], rest)
  if whole.isEmpty && fraction.isEmpty then none
  else
    let exponent ← exponent? rest
    return .ofDecimal negative (ofDigits (whole ++ fraction)) (exponent - Int.ofNat fraction.length)

/-- The number that a text is. -/
def realNumber? (s : String) : Option Binary64 :=
  let (negative, body) := splitSign (Text.trim s).toList
  let word := Text.lowerAscii (String.ofList body)
  if word = "inf" ∨ word = "infinity" then some (.infinite negative)
  else if word = "nan" then some .undefined
  else unsignedReal? negative body

/-- The number that a text is, or why it is none. -/
def realNumber (s : String) : Except String Binary64 :=
  match realNumber? s with
  | some x => .ok x
  | none => .error ("could not convert string to float: " ++ Text.quoted s)

end ServiceSchema.Number

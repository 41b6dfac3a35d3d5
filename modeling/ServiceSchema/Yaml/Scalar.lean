/-
Scalars: which type a text has, and which value it is.

A plain scalar is typed by its text alone: words for truth and nothing, numbers in
several bases and in base sixty, dates. The patterns are tried by the first
character; what none of them matches is text. Reading a value is a second step that
can still fail, because a pattern admits numerals without digits and dates that no
calendar has.
-/
import ServiceSchema.Number.Numeral
import ServiceSchema.Yaml.Fault

set_option autoImplicit false

namespace ServiceSchema.Yaml

/-- The types of scalars. -/
inductive ScalarType where
  | null
  | bool
  | int
  | real
  | text
  | binary
  | timestamp
  /-- The key `<<`, which merges mappings. -/
  | merge
  /-- The key `=`, which stands for a mapping used as a scalar. -/
  | default
  /-- An indicator alone, which no scalar may be. -/
  | indicator
deriving DecidableEq, Inhabited, Repr

/-! ## Patterns -/

/-- The words for nothing. -/
def nullWords : List String := ["", "~", "null", "Null", "NULL"]

/-- The words for truth values, in their three casings. -/
def boolWords : List String :=
  ["yes", "Yes", "YES", "no", "No", "NO", "true", "True", "TRUE", "false", "False", "FALSE",
   "on", "On", "ON", "off", "Off", "OFF"]

/-- The indicators that look like types of their own. -/
def indicatorWords : List String := ["!", "&", "*"]

/-- Decimal digits and underscores. -/
def isDigitOrLine (c : Char) : Bool := c.isDigit || c = '_'

/-- A digit followed by digits and underscores. -/
def isNumeral : List Char → Bool
  | c :: rest => c.isDigit && rest.all isDigitOrLine
  | [] => false

/-- A part of a number in base sixty: one digit, or two of which the first is at most five. -/
def isSixty : List Char → Bool
  | [c] => c.isDigit
  | [a, b] => '0' ≤ a && a ≤ '5' && b.isDigit
  | _ => false

/-- The parts of a text between its colons. -/
def colonParts (cs : List Char) : List (List Char) := cs.splitOn ':'

/-- The text of a whole number: binary, octal, decimal, hexadecimal or in base sixty. -/
def isIntText (cs : List Char) : Bool :=
  match (Number.splitSign cs).2 with
  | ['0'] => true
  | '0' :: 'b' :: rest => !rest.isEmpty && rest.all fun c => c = '0' || c = '1' || c = '_'
  | '0' :: 'x' :: rest =>
    !rest.isEmpty && rest.all fun c => (Number.baseDigit? 16 c).isSome || c = '_'
  | '0' :: rest => rest.all fun c => ('0' ≤ c && c ≤ '7') || c = '_'
  | body =>
    match colonParts body with
    | first :: rest => isNumeral first && rest.all isSixty
    | [] => false

/-- The exponent of a number with a point: signed, and with digits. -/
def isExponentText : List Char → Bool
  | [] => true
  | e :: sign :: rest =>
    (e = 'e' || e = 'E') && (sign = '+' || sign = '-') && !rest.isEmpty && rest.all Char.isDigit
  | _ => false

/-- The text of a number with a point. A sign is allowed unless the point comes first. -/
def isRealText (cs : List Char) : Bool :=
  let body := (Number.splitSign cs).2
  let words := [".inf", ".Inf", ".INF"].map String.toList
  if words.contains body then true
  else if [".nan", ".NaN", ".NAN"].map String.toList |>.contains cs then true
  else
    let whole := body.takeWhile (· ≠ '.')
    match body.dropWhile (· ≠ '.') with
    | [] => false
    | _ :: fraction =>
      let digits := fraction.takeWhile isDigitOrLine
      let power := fraction.dropWhile isDigitOrLine
      if whole.isEmpty then cs = body && isNumeral digits && isExponentText power
      else if isNumeral whole then isExponentText power
      else match colonParts whole with
        | first :: rest => isNumeral first && !rest.isEmpty && rest.all isSixty && power.isEmpty
        | [] => false

/-! ## Dates -/

/-- The time of day in a date text, with the offset from universal time in minutes if one is
given. -/
structure ClockText where
  hour : Nat
  minute : Nat
  second : Nat
  offset : Option Int
deriving DecidableEq, Inhabited, Repr

/-- A date text: year, month, day and possibly the time. -/
structure DateText where
  year : Nat
  month : Nat
  day : Nat
  clock : Option ClockText
  /-- Month and day are written with two digits each. -/
  full : Bool
deriving DecidableEq, Inhabited, Repr

/-- From `least` to `most` digits at the front, as many as there are, and what follows. -/
def takeDigits? (least most : Nat) (cs : List Char) : Option (List Char × List Char) :=
  let digits := (cs.takeWhile Char.isDigit).take most
  if digits.length < least then none else some (digits, cs.drop digits.length)

/-- What follows a character. -/
def after? (x : Char) : List Char → Option (List Char)
  | c :: rest => if c = x then some rest else none
  | [] => none

/-- The number that digits are. -/
def digitValue (cs : List Char) : Nat := Number.ofDigits (cs.map fun c => c.toNat - 48)

/-- The offset at the end of a date text. -/
def offset? (cs : List Char) : Option (Option Int) :=
  match cs.dropWhile fun c => c = ' ' || c = '\t' with
  | [] => if cs.isEmpty then some none else none
  | ['Z'] => some (some 0)
  | sign :: rest =>
    if sign = '+' ∨ sign = '-' then do
      let (hours, rest) ← takeDigits? 1 2 rest
      let minutes ← match rest with
        | [] => some 0
        | ':' :: rest => do
          let (minutes, rest) ← takeDigits? 2 2 rest
          if rest.isEmpty then some (digitValue minutes) else none
        | _ => none
      some (some (Number.signed (sign = '-') (60 * digitValue hours + minutes)))
    else none

/-- The time at the end of a date text. -/
def clock? (cs : List Char) : Option ClockText := do
  let (hour, rest) ← takeDigits? 1 2 cs
  let (minute, rest) ← takeDigits? 2 2 (← after? ':' rest)
  let (second, rest) ← takeDigits? 2 2 (← after? ':' rest)
  let rest := match rest with
    | '.' :: fraction => fraction.dropWhile Char.isDigit
    | rest => rest
  return ⟨digitValue hour, digitValue minute, digitValue second, ← offset? rest⟩

/-- The parts of a date text. -/
def dateParts? (cs : List Char) : Option DateText := do
  let (year, rest) ← takeDigits? 4 4 cs
  let (month, rest) ← takeDigits? 1 2 (← after? '-' rest)
  let (day, rest) ← takeDigits? 1 2 (← after? '-' rest)
  let clock ← match rest with
    | [] => some none
    | c :: rest =>
      if c = 'T' ∨ c = 't' then (clock? rest).map some
      else if c = ' ' ∨ c = '\t' then
        (clock? (rest.dropWhile fun c => c = ' ' || c = '\t')).map some
      else none
  return ⟨digitValue year, digitValue month, digitValue day, clock,
    month.length = 2 && day.length = 2⟩

/-- The characters before a line feed at the end. Patterns do not see it. -/
def dropFinalBreak (cs : List Char) : List Char :=
  if cs.getLast? = some '\n' then cs.dropLast else cs

/-- The parts of a date text, which a line feed may follow. -/
def dateText? (cs : List Char) : Option DateText := dateParts? (dropFinalBreak cs)

/-- The text of a date: with a time, or with month and day in full. -/
def isDateText (cs : List Char) : Bool :=
  match dateText? cs with
  | some date => date.clock.isSome || date.full
  | none => false

/-- The type of a plain scalar, or of any scalar that is typed like one. -/
def plainType (s : String) : ScalarType :=
  let cs := dropFinalBreak s.toList
  let word := String.ofList cs
  -- a line feed alone is no empty text
  if s ≠ "" ∧ cs = [] then .text
  else if word ∈ nullWords then .null
  else if word ∈ boolWords then .bool
  else if word = "<<" then .merge
  else if word = "=" then .default
  else if word ∈ indicatorWords then .indicator
  else if isRealText cs then .real
  else if isIntText cs then .int
  else if isDateText s.toList then .timestamp
  else .text

/-! ## Values -/

/-- The truth value of a word. -/
def boolValue (s : String) : Except ScalarFault Bool :=
  let word := Text.lowerAscii s
  if ["yes", "true", "on"].contains word then .ok true
  else if ["no", "false", "off"].contains word then .ok false
  else .error .unknownWord

/-- A numeral without underscores, split into its sign and the rest, which is not empty. -/
def signedBody (s : String) : Except ScalarFault (Bool × String) :=
  let cs := s.toList.filter (· ≠ '_')
  if cs.isEmpty then .error .emptyNumber
  else
    let (negative, body) := Number.splitSign cs
    .ok (negative, String.ofList body)

/-- A whole number in a base. -/
def wholeIn (base : Nat) (s : String) : Except ScalarFault Int :=
  (Number.wholeNumber base s).mapError .invalid

/-- The number whose parts in base sixty are given, most significant first. -/
def sixtyValue (parts : List Int) : Int := parts.foldl (fun n d => 60 * n + d) 0

/-- The value of a whole number text. -/
def intValue (s : String) : Except ScalarFault Int := do
  let (negative, body) ← signedBody s
  let cs := body.toList
  let magnitude ←
    if body = "0" then pure 0
    else if "0b".toList.isPrefixOf cs then wholeIn 2 (String.ofList (cs.drop 2))
    else if "0x".toList.isPrefixOf cs then wholeIn 16 (String.ofList (cs.drop 2))
    else match cs with
      | [] => throw .emptyNumber
      | '0' :: _ => wholeIn 8 body
      | cs =>
        if cs.contains ':' then
          sixtyValue <$> (colonParts cs).mapM fun part => wholeIn 10 (String.ofList part)
        else wholeIn 10 body
  return if negative then -magnitude else magnitude

/-- The sum of digits in base sixty, least significant first, each with the value of its place. -/
def sixtyReal (base : Nat) (sum : Number.Binary64) :
    List Number.Binary64 → Except ScalarFault Number.Binary64
  | [] => .ok sum
  | digit :: rest =>
    match Number.Binary64.ofInt base with
    | .infinite _ => .error (.overflow "int too large to convert to float")
    | place => sixtyReal (60 * base) (sum.add (digit.mul place)) rest

/-- The value of a text for a number with a point. -/
def realValue (s : String) : Except ScalarFault Number.Binary64 := do
  let (negative, body) ← signedBody (Text.lowerAscii s)
  let part (cs : List Char) : Except ScalarFault Number.Binary64 :=
    (Number.realNumber (String.ofList cs)).mapError .invalid
  let magnitude ←
    if body = ".inf" then pure (.infinite false)
    else if body = ".nan" then pure .undefined
    else if body.toList.contains ':' then do
      let digits ← (colonParts body.toList).mapM part
      sixtyReal 1 (.ofInt 0) digits.reverse
    else part body.toList
  return if negative then magnitude.negate else magnitude

/-- The number of days of a month. -/
def daysIn (year month : Nat) : Nat :=
  if month = 2 then
    if year % 4 = 0 ∧ (year % 100 ≠ 0 ∨ year % 400 = 0) then 29 else 28
  else if month = 4 ∨ month = 6 ∨ month = 9 ∨ month = 11 then 30
  else 31

/-- The text of an offset of at least a day: whole days, rounded down, and the seconds left. -/
def offsetText (minutes : Int) : String :=
  let days := minutes.fdiv 1440
  let seconds := 60 * minutes.fmod 1440
  "datetime.timedelta(days=" ++ Number.integerText days
    ++ (if seconds = 0 then "" else ", seconds=" ++ Number.integerText seconds) ++ ")"

/-- Checks that a calendar has the date, the clock the time and that the offset is less than a
day; the offset is checked first. -/
def checkDate (date : DateText) : Except String Unit := do
  if let some clock := date.clock then
    if let some offset := clock.offset then
      if 1440 ≤ offset.natAbs then
        throw ("offset must be a timedelta strictly between -timedelta(hours=24) and "
          ++ "timedelta(hours=24), not " ++ offsetText offset ++ ".")
  if date.year = 0 then throw "year 0 is out of range"
  if date.month = 0 ∨ 12 < date.month then throw "month must be in 1..12"
  if date.day = 0 ∨ daysIn date.year date.month < date.day then
    throw "day is out of range for month"
  if let some clock := date.clock then
    if 23 < clock.hour then throw "hour must be in 0..23"
    if 59 < clock.minute then throw "minute must be in 0..59"
    if 59 < clock.second then throw "second must be in 0..59"

/-- The date that a text is; the answer says whether it has a time. -/
def dateValue (s : String) : Except ScalarFault Bool :=
  match dateText? s.toList with
  | none => .error .noDate
  | some date => match checkDate date with
    | .error message => .error (.invalid message)
    | .ok () => .ok date.clock.isSome

/-- The value of a character of base-64 text. -/
def base64Digit? (c : Char) : Option Nat :=
  if 'A' ≤ c ∧ c ≤ 'Z' then some (c.toNat - 65)
  else if 'a' ≤ c ∧ c ≤ 'z' then some (c.toNat - 97 + 26)
  else if '0' ≤ c ∧ c ≤ '9' then some (c.toNat - 48 + 52)
  else if c = '+' then some 62
  else if c = '/' then some 63
  else none

/-- Decodes base-64 text. Characters outside the alphabet are skipped; padding ends the text as
soon as it completes a group. `group` holds the digits of the group that is open. -/
def base64From (group : List Nat) (pads : Nat) : List Char → Option (List Nat)
  | [] => if group.isEmpty then some [] else none
  | c :: rest =>
    if c = '=' then
      if 2 ≤ group.length then
        if 4 ≤ group.length + pads + 1 then
          match group with
          | [a, b] => some [(a * 64 + b) / 16]
          | [a, b, c] => some [(a * 64 + b) / 16, (b % 16 * 64 + c) / 4]
          | _ => some []
        else base64From group (pads + 1) rest
      else base64From group pads rest
    else match base64Digit? c with
      | none => base64From group pads rest
      | some d => match group with
        | [a, b, c] =>
          ([(a * 64 + b) / 16, (b % 16 * 64 + c) / 4, c % 4 * 64 + d] ++ ·)
            <$> base64From [] 0 rest
        | group => base64From (group ++ [d]) 0 rest

/-- The bytes of base-64 text. -/
def base64Value? (s : String) : Option (List Nat) :=
  if s.toList.all (·.toNat < 128) then base64From [] 0 s.toList else none

end ServiceSchema.Yaml

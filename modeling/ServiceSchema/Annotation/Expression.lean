/-
Expressions that references are written in.

A reference by name is the text of an expression: a name with attributes, type
arguments between brackets, bars between alternatives, constants and tuples. The
reader works on tokens; every token is read by at most one rule, so the number of
tokens bounds the recursion, and that bound is the fuel which `ofText?` supplies.
-/
import ServiceSchema.Annotation.Form
import ServiceSchema.Number.Numeral
import ServiceSchema.Text.Character

set_option autoImplicit false

namespace ServiceSchema

/-- An expression that can stand for a type. -/
inductive Expression where
  | name (name : String)
  | member (of : Expression) (name : String)
  /-- Type arguments between brackets. -/
  | index (head : Expression) (arguments : List Expression)
  /-- Alternatives with a bar between them. -/
  | either (left right : Expression)
  | negative (of : Expression)
  | constant (value : Json)
  | dots
  | tuple (items : List Expression)
deriving Inhabited

namespace Expression

/-! ## Tokens -/

/-- A token of an expression. -/
inductive Token where
  | name (name : String)
  | constant (value : Json)
  | dots
  | mark (mark : Char)
deriving Inhabited

/-- Words that are no names. -/
def keywords : List String :=
  ["False", "None", "True", "and", "as", "assert", "async", "await", "break", "class", "continue",
   "def", "del", "elif", "else", "except", "finally", "for", "from", "global", "if", "import",
   "in", "is", "lambda", "nonlocal", "not", "or", "pass", "raise", "return", "try", "while",
   "with", "yield"]

/-- A word as a token, if it may stand in an expression. -/
def word? (s : String) : Option Token :=
  if s = "True" then some (.constant (.bool true))
  else if s = "False" then some (.constant (.bool false))
  else if s = "None" then some (.constant .null)
  else if keywords.contains s then none
  else some (.name s)

/-- Whether a name may begin with a character. -/
def beginsName (c : Char) : Bool := Text.isWordChar c && (Text.digitValue? c).isNone

/-- A numeral as a constant. Whole numbers have no leading zeros unless they are zero. -/
def numeral? (cs : List Char) : Option Json :=
  let s := String.ofList cs
  let based (base : Nat) : Option Json :=
    (Number.wholeNumber base (String.ofList (cs.drop 2))).toOption.map Json.int
  match cs with
  | '0' :: x :: _ =>
    if x = 'x' ∨ x = 'X' then based 16
    else if x = 'o' ∨ x = 'O' then based 8
    else if x = 'b' ∨ x = 'B' then based 2
    else if cs.all fun c => c = '0' ∨ c = '_' then (Number.wholeNumber 10 s).toOption.map Json.int
    else if cs.all fun c => c.isDigit ∨ c = '_' then none
    else (Number.realNumber s).toOption.map Json.real
  | cs =>
    if cs.all fun c => c.isDigit ∨ c = '_' then (Number.wholeNumber 10 s).toOption.map Json.int
    else (Number.realNumber s).toOption.map Json.real

/-- The characters of a text literal up to its quote, added in reverse to `acc`. -/
def literal? (quote : Char) (acc : List Char) : List Char → Option (List Char × List Char)
  | [] => none
  | '\\' :: c :: rest =>
    if c = 'n' then literal? quote ('\n' :: acc) rest
    else if c = 't' then literal? quote ('\t' :: acc) rest
    else if c = '\\' ∨ c = '\'' ∨ c = '"' then literal? quote (c :: acc) rest
    else literal? quote (c :: '\\' :: acc) rest
  | c :: rest =>
    if c = quote then some (acc.reverse, rest)
    else if c = '\n' then none
    else literal? quote (c :: acc) rest

/-- The tokens of an expression; the number bounds the characters. -/
def tokens? : Nat → List Char → Option (List Token)
  | 0, _ => none
  | _ + 1, [] => some []
  | fuel + 1, '.' :: '.' :: '.' :: rest => (tokens? fuel rest).map (.dots :: ·)
  | fuel + 1, c :: rest =>
    if c = ' ' ∨ c = '\t' ∨ c = '\n' ∨ c = '\r' ∨ c.toNat = 12 then tokens? fuel rest
    else if c = '#' then tokens? fuel (rest.dropWhile (· != '\n'))
    else if c = '\'' ∨ c = '"' then
      match literal? c [] rest with
      | none => none
      | some (s, rest) => (tokens? fuel rest).map (.constant (.text (String.ofList s)) :: ·)
    else if c.isDigit ∨ (c = '.' ∧ rest.head?.any Char.isDigit) then
      let inNumeral (c : Char) : Bool := Text.isWordChar c || c = '.'
      match numeral? (c :: rest.takeWhile inNumeral) with
      | none => none
      | some value => (tokens? fuel (rest.dropWhile inNumeral)).map (.constant value :: ·)
    else if beginsName c then
      match word? (String.ofList (c :: rest.takeWhile Text.isWordChar)) with
      | none => none
      | some token => (tokens? fuel (rest.dropWhile Text.isWordChar)).map (token :: ·)
    else if ['.', '[', ']', '(', ')', ',', '|', '-'].contains c then
      (tokens? fuel rest).map (.mark c :: ·)
    else none

/-! ## Reading -/

/-- The items of a tuple, or its only item if no comma follows it. -/
def ofItems (items : List Expression) (comma : Bool) : Expression :=
  match items, comma with
  | [e], false => e
  | items, _ => tuple items

mutual

/-- Alternatives with bars between them. -/
def alternatives? : Nat → List Token → Option (Expression × List Token)
  | 0, _ => none
  | fuel + 1, tokens => do
    let (e, rest) ← signed? fuel tokens
    moreAlternatives? fuel e rest

/-- Further alternatives after `e`. -/
def moreAlternatives? : Nat → Expression → List Token → Option (Expression × List Token)
  | 0, _, _ => none
  | fuel + 1, e, .mark '|' :: rest => do
    let (e', rest) ← signed? fuel rest
    moreAlternatives? fuel (either e e') rest
  | _ + 1, e, rest => some (e, rest)

/-- An expression with signs before it. -/
def signed? : Nat → List Token → Option (Expression × List Token)
  | 0, _ => none
  | fuel + 1, .mark '-' :: rest => (signed? fuel rest).map fun (e, rest) => (negative e, rest)
  | fuel + 1, tokens => do
    let (e, rest) ← atom? fuel tokens
    trailers? fuel e rest

/-- A name, a constant or an expression between parentheses. -/
def atom? : Nat → List Token → Option (Expression × List Token)
  | 0, _ => none
  | _ + 1, .name s :: rest => some (name s, rest)
  | fuel + 1, .constant (.text s) :: .constant (.text t) :: rest =>
    atom? fuel (.constant (.text (s ++ t)) :: rest)
  | _ + 1, .constant v :: rest => some (constant v, rest)
  | _ + 1, .dots :: rest => some (dots, rest)
  | fuel + 1, .mark '(' :: rest => do
    let (items, comma, rest) ← items? fuel [] rest
    match rest with
    | .mark ')' :: rest => some (ofItems items comma, rest)
    | _ => none
  | _ + 1, _ => none

/-- Attributes and type arguments after `e`. -/
def trailers? : Nat → Expression → List Token → Option (Expression × List Token)
  | 0, _, _ => none
  | fuel + 1, e, .mark '.' :: .name s :: rest => trailers? fuel (member e s) rest
  | fuel + 1, e, .mark '[' :: rest => do
    let (items, comma, rest) ← items? fuel [] rest
    match items, rest with
    | [], _ => none
    | items, .mark ']' :: rest =>
      let arguments := match ofItems items comma with
        | tuple items => items
        | item => [item]
      trailers? fuel (index e arguments) rest
    | _, _ => none
  | _ + 1, e, rest => some (e, rest)

/-- Expressions with commas between them, added in reverse to `acc`, and whether there was a
comma. -/
def items? : Nat → List Expression → List Token →
    Option (List Expression × Bool × List Token)
  | 0, _, _ => none
  | fuel + 1, acc, tokens =>
    match tokens with
    | [] | .mark ')' :: _ | .mark ']' :: _ => some (acc.reverse, true, tokens)
    | tokens => do
      let (e, rest) ← alternatives? fuel tokens
      match rest with
      | .mark ',' :: rest => items? fuel (e :: acc) rest
      | rest => some ((e :: acc).reverse, !acc.isEmpty, rest)

end

/-- The expression that a text is. -/
def ofText? (s : String) : Except AnnotationFault Expression :=
  if s = "" then .error .emptyText
  else
    let cs := s.toList
    let indented := cs.head?.any fun c => c = ' ' || c = '\t'
    match tokens? (cs.length + 1) cs with
    | none => .error .notExpression
    | some [] => .error .notExpression
    | some tokens =>
      match items? (8 * (tokens.length + 1)) [] tokens with
      | some (items, comma, []) =>
        if indented then .error .notExpression else .ok (ofItems items comma)
      | _ => .error .notExpression

end Expression

end ServiceSchema

/-
Reading type texts.

    T ::= name | name open T {',' T} close

with `[ ]` or `< >` as a matching pair at each level independently. A name with one
parameter must be an iterable keyword, a name with two a map keyword, in any case;
these are the only containers. A bare name is a struct or enum when it is declared
as one, structs first, and a base type otherwise.

The recursion is bounded by the number of tokens, since each type takes a name;
`ofTokens` supplies that bound.
-/
import ServiceSchema.Signature.Basic
import ServiceSchema.Text.Case
import ServiceSchema.TypeText.Token

set_option autoImplicit false

namespace ServiceSchema.TypeText

/-- The names that a text may refer to. -/
structure Names where
  structs : List String := []
  enums : List String := []
deriving Inhabited, Repr

/-- Why a text is not a type. -/
inductive ParseError where
  /-- No token can start where the last one ended. -/
  | unexpectedCharacter (position : Nat)
  /-- There is no token at all. -/
  | empty
  /-- The text ends where a type should start. -/
  | unexpectedEnd
  /-- A bracket or comma stands where a name should. -/
  | expectedName (got : Token)
  /-- The parameters are not followed by the bracket that closes them. -/
  | unbalanced
  /-- No container has this name with this number of parameters. -/
  | unsupportedContainer (name : String) (count : Nat)
  /-- Tokens follow the type. -/
  | trailing (tokens : List Token)
deriving DecidableEq, Inhabited, Repr

/-- The wording of a parse error in the text `s`. -/
def ParseError.message (s : String) : ParseError → String
  | unexpectedCharacter position =>
    "Unexpected character in type " ++ Text.quoted (Text.trimEnd s) ++ " at position "
      ++ Nat.repr position
  | empty => "Empty type string"
  | unexpectedEnd => "Unexpected end of type " ++ Text.quoted s
  | expectedName got =>
    "Expected a type name in " ++ Text.quoted s ++ ", got " ++ Text.quoted got.text
  | unbalanced => "Unbalanced brackets in type " ++ Text.quoted s
  | unsupportedContainer name count =>
    "Unsupported container " ++ Text.quoted name ++ " with " ++ Nat.repr count
      ++ " parameter(s) in " ++ Text.quoted s
  | trailing tokens =>
    "Trailing tokens in type " ++ Text.quoted s ++ ": " ++ Text.quotedList (tokens.map Token.text)

/-- The lower-case names of containers with one parameter. -/
def iterableKeywords : List String := ["list", "set", "array", "repeated", "iterable"]

/-- The lower-case names of containers with two parameters. -/
def mapKeywords : List String := ["map", "dict"]

/-- The type that a bare name means. -/
def Names.leaf (names : Names) (name : String) : Signature :=
  if name ∈ names.structs then .struct name none
  else if name ∈ names.enums then .enum name none
  else .base name

/-- The container that a name with parameters means. -/
def container (name : String) (params : List Signature) : Except ParseError Signature :=
  let keyword := Text.lowerAscii name
  match params with
  | [element] =>
    if keyword ∈ iterableKeywords then .ok (.iterable keyword element)
    else .error (.unsupportedContainer name 1)
  | [key, value] =>
    if keyword ∈ mapKeywords then .ok (.mapOf key value)
    else .error (.unsupportedContainer name 2)
  | params => .error (.unsupportedContainer name params.length)

mutual

/-- The type at the front of the tokens and the tokens that follow it. -/
def parseType (names : Names) : Nat → List Token → Except ParseError (Signature × List Token)
  | 0, _ => .error .unexpectedEnd
  | _ + 1, [] => .error .unexpectedEnd
  -- parameters decide first: a declared name with parameters is no reference
  | fuel + 1, .name name :: .opening bracket :: rest => do
    let (params, rest) ← parseParams names fuel bracket rest
    return (← container name params, rest)
  | _ + 1, .name name :: rest => .ok (names.leaf name, rest)
  | _ + 1, token :: _ => .error (.expectedName token)

/-- The parameters at the front of the tokens, up to the bracket that closes them, and the
tokens that follow it. -/
def parseParams (names : Names) :
    Nat → Bracket → List Token → Except ParseError (List Signature × List Token)
  | 0, _, _ => .error .unexpectedEnd
  | fuel + 1, bracket, tokens => do
    let (first, rest) ← parseType names fuel tokens
    match rest with
    | .comma :: rest =>
      let (more, rest) ← parseParams names fuel bracket rest
      return (first :: more, rest)
    | .closing other :: rest => if other = bracket then return ([first], rest) else throw .unbalanced
    | _ => throw .unbalanced

end

/-- The type that a list of tokens is. -/
def ofTokens (names : Names) (tokens : List Token) : Except ParseError Signature := do
  if tokens.isEmpty then throw .empty
  let (signature, rest) ← parseType names (tokens.length + 1) tokens
  if rest.isEmpty then return signature else throw (.trailing rest)

/-- The type that a text describes. -/
def parse (names : Names) (s : String) : Except ParseError Signature :=
  match tokens s with
  | .error position => .error (.unexpectedCharacter position)
  | .ok tokens => ofTokens names tokens

end ServiceSchema.TypeText

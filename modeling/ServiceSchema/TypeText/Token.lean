/-
Tokens of type texts such as `map[string, list<Dog>]`.

A name starts with an ASCII letter or an underscore and goes on as long as word
characters, points, dollars or hyphens follow; brackets and commas are tokens of
their own; blanks separate. The scan is one pass over the characters. It carries
the name that is still open, so every name it yields is as long as the text allows,
and the place where the last token ended, which is what an error reports.
-/
import ServiceSchema.Text.Character

set_option autoImplicit false

namespace ServiceSchema.TypeText

/-- The two styles of brackets around the parameters of a container. -/
inductive Bracket where
  | square
  | angle
deriving DecidableEq, Inhabited, Repr

/-- A token of a type text. -/
inductive Token where
  | name (word : String)
  | opening (bracket : Bracket)
  | closing (bracket : Bracket)
  | comma
deriving DecidableEq, Inhabited, Repr

/-- The characters that a token stands for. -/
def Token.text : Token → String
  | name word => word
  | opening .square => "["
  | opening .angle => "<"
  | closing .square => "]"
  | closing .angle => ">"
  | comma => ","

/-- The characters that a name may start with. -/
def isNameStart (c : Char) : Bool := c.isAlpha || c == '_'

/-- The characters that a name may go on with. -/
def isNameChar (c : Char) : Bool := Text.isWordChar c || c == '.' || c == '$' || c == '-'

/-- The token that a single character is. -/
def symbol? (c : Char) : Option Token :=
  if c = '[' then some (.opening .square)
  else if c = ']' then some (.closing .square)
  else if c = '<' then some (.opening .angle)
  else if c = '>' then some (.closing .angle)
  else if c = ',' then some .comma
  else none

/-- The name whose characters were read, last first; no name when there are none. -/
def openName (word : List Char) : List Token :=
  if word.isEmpty then [] else [.name (String.ofList word.reverse)]

/-- The tokens of `cs`, which start at position `here`. `word` holds the characters of a name
that is still open, last first, and `lastEnd` is where the last finished token ended. A
failure is the position at which the last token before the unexpected character ended. -/
def scan (lastEnd here : Nat) (word : List Char) : List Char → Except Nat (List Token)
  | [] => .ok (openName word)
  | c :: rest =>
    if !word.isEmpty && isNameChar c then scan lastEnd (here + 1) (c :: word) rest
    else
      let ended := if word.isEmpty then lastEnd else here
      let tokens : Except Nat (List Token) :=
        if Text.isBlank c then scan ended (here + 1) [] rest
        else match symbol? c with
          | some token => (token :: ·) <$> scan (here + 1) (here + 1) [] rest
          | none => if isNameStart c then scan ended (here + 1) [c] rest else .error ended
      (openName word ++ ·) <$> tokens

/-- The tokens of a type text, or the position at which it stops making sense. -/
def tokens (s : String) : Except Nat (List Token) := scan 0 0 [] s.toList

end ServiceSchema.TypeText

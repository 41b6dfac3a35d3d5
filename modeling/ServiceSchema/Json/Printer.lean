/-
JSON text.

A document is written either on one line, with a blank after every comma and
colon, or over several lines, each level indented by a fixed width; empty lists
and objects stay on one line in both. Text is written in its own characters: only
the quote, the backslash and control characters are escaped. For channels that
carry ASCII alone, `asciiCode` escapes the rest by UTF-16 units.
-/
import ServiceSchema.Json.Basic
import ServiceSchema.Number.Shortest
import ServiceSchema.Text.Quoted

set_option autoImplicit false

namespace ServiceSchema.Json

/-- How a document is laid out over lines. -/
inductive Layout where
  /-- Everything on one line. -/
  | compact
  /-- One item a line, each level indented by `width` more blanks. -/
  | lines (width : Nat)
deriving DecidableEq, Inhabited, Repr

/-- The layout that an indent setting asks for: zero means compact, and a negative number
breaks lines without indenting them. -/
def Layout.ofIndent (indent : Int) : Layout :=
  if indent = 0 then .compact else .lines indent.toNat

/-- The escape `\uNNNN` of a UTF-16 unit. -/
def unitEscape (n : Nat) : String := String.ofList ('\\' :: 'u' :: Text.hex 4 n)

/-- A character of JSON text, written as itself where JSON allows it. -/
def plainChar (c : Char) : String :=
  if c = '"' then "\\\""
  else if c = '\\' then "\\\\"
  else if c = '\n' then "\\n"
  else if c = '\r' then "\\r"
  else if c = '\t' then "\\t"
  else if c.toNat = 8 then "\\b"
  else if c.toNat = 12 then "\\f"
  else if c.toNat < 32 then unitEscape c.toNat
  else c.toString

/-- A code point of JSON text, written as itself where JSON allows it. -/
def plainCode (n : Nat) : String :=
  match Text.ofCode n with
  | [c] => plainChar c
  | cs => String.ofList cs

/-- A code point of JSON text, written in ASCII. -/
def asciiCode (n : Nat) : String :=
  if n < 127 then plainCode n
  else if n < 0x10000 then unitEscape n
  else
    let n := n - 0x10000
    unitEscape (0xD800 + n / 0x400) ++ unitEscape (0xDC00 + n % 0x400)

/-- A string literal. -/
def literal (writeCode : Nat → String) (s : String) : String :=
  (Text.codes s.toList).foldl (fun acc n => acc ++ writeCode n) "\"" ++ "\""

/-- The text of a number of double precision. -/
def realText : Number.Binary64 → String
  | .infinite negative => if negative then "-Infinity" else "Infinity"
  | .undefined => "NaN"
  | x => x.text

/-- The break between the items of a list that stands `depth` levels deep. -/
def Layout.break (layout : Layout) (depth : Nat) : String :=
  match layout with
  | .compact => ""
  | .lines width => "\n" ++ String.ofList (List.replicate (width * depth) ' ')

/-- The separator of two items of a list that stands `depth` levels deep. -/
def Layout.separator (layout : Layout) (depth : Nat) : String :=
  match layout with
  | .compact => ", "
  | .lines _ => "," ++ layout.break depth

mutual

/-- The text of a value that stands `depth` levels deep. -/
def write (layout : Layout) (writeCode : Nat → String) (depth : Nat) : Json → String
  | .null => "null"
  | .bool b => if b then "true" else "false"
  | .int n => Number.integerText n
  | .real x => realText x
  | .text s => literal writeCode s
  | .list [] => "[]"
  | .list (item :: rest) =>
    "[" ++ layout.break (depth + 1) ++ write layout writeCode (depth + 1) item
      ++ writeItems layout writeCode (depth + 1) rest ++ layout.break depth ++ "]"
  | .object [] => "\x7b\x7d"
  | .object (entry :: rest) =>
    "\x7b" ++ layout.break (depth + 1) ++ literal writeCode entry.1 ++ ": "
      ++ write layout writeCode (depth + 1) entry.2
      ++ writeEntries layout writeCode (depth + 1) rest ++ layout.break depth ++ "\x7d"

/-- The further items of a list, each after a separator. -/
def writeItems (layout : Layout) (writeCode : Nat → String) (depth : Nat) : List Json → String
  | [] => ""
  | item :: rest =>
    layout.separator depth ++ write layout writeCode depth item
      ++ writeItems layout writeCode depth rest

/-- The further entries of an object, each after a separator. -/
def writeEntries (layout : Layout) (writeCode : Nat → String) (depth : Nat) :
    List (String × Json) → String
  | [] => ""
  | entry :: rest =>
    layout.separator depth ++ literal writeCode entry.1 ++ ": "
      ++ write layout writeCode depth entry.2 ++ writeEntries layout writeCode depth rest

end

/-- The text of a document in the given layout. -/
def render (layout : Layout) (value : Json) : String := write layout plainCode 0 value

/-- The text of a document on one line, in ASCII. -/
def renderAscii (value : Json) : String := write .compact asciiCode 0 value

end ServiceSchema.Json

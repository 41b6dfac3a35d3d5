/-
Text in files.

Files hold text in UTF-8. Line ends may be written as a line feed, a carriage return
or both; a reader sees line feeds alone. A text that holds a surrogate has no bytes.
-/
import ServiceSchema.Text.CodePoint

set_option autoImplicit false

namespace ServiceSchema.Text

/-- The characters with every line end as a line feed. -/
def unifyLineEnds : List Char → List Char
  | '\r' :: '\n' :: rest => '\n' :: unifyLineEnds rest
  | '\r' :: rest => '\n' :: unifyLineEnds rest
  | c :: rest => c :: unifyLineEnds rest
  | [] => []

/-- The text that bytes hold, and nothing if they are no UTF-8. -/
def decode? (content : ByteArray) : Option String :=
  (String.fromUTF8? content).map fun s =>
    String.ofList ((unifyLineEnds s.toList).flatMap guarded)

/-- The bytes of a text that can be encoded. -/
def encode (s : String) : ByteArray :=
  (String.ofList ((codes s.toList).map Char.ofNat)).toUTF8

/-- Whether a character ends a line. -/
def endsLine (c : Char) : Bool :=
  let n := c.toNat
  (10 ≤ n && n ≤ 13) || (28 ≤ n && n ≤ 30) || n == 0x85 || n == 0x2028 || n == 0x2029

/-- The lines of a text: whatever ends a line is no part of it, and a text that ends with a line end
has no empty line after it. -/
def splitLines : List Char → List (List Char)
  | [] => []
  | '\r' :: '\n' :: rest => [] :: splitLines rest
  | c :: rest =>
    if endsLine c then [] :: splitLines rest
    else match splitLines rest with
      | [] => [[c]]
      | line :: lines => (c :: line) :: lines

/-- No line end remains where line ends are unified. -/
theorem notMem_unifyLineEnds (cs : List Char) : '\r' ∉ unifyLineEnds cs := by
  fun_induction unifyLineEnds cs <;> simp_all [eq_comm]

end ServiceSchema.Text

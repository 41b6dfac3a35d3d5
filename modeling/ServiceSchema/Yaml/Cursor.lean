/-
A place in a text, with its line and column.

The end of the text is seen as the character NUL, which no document may hold; so
looking ahead never fails, and each class of characters decides by itself whether
the end belongs to it. A carriage return and a line feed together are one break.
-/

set_option autoImplicit false

namespace ServiceSchema.Yaml

/-! ## Classes of characters -/

/-- The character that stands for the end of the text. -/
def endMark : Char := Char.ofNat 0

/-- The byte order mark, which takes no column. -/
def byteOrderMark : Char := Char.ofNat 0xFEFF

/-- Characters that end a line. -/
def isBreak (c : Char) : Bool :=
  c = '\n' || c = '\r' || c.toNat = 0x85 || c.toNat = 0x2028 || c.toNat = 0x2029

/-- The end of a line or of the text. -/
def isLineEnd (c : Char) : Bool := c = endMark || isBreak c

/-- The blank, the tab and the end of a line or of the text: what may follow an indicator. -/
def isGap (c : Char) : Bool := c = ' ' || c = '\t' || isLineEnd c

/-- The blank and the end of a line or of the text. -/
def isBlankOrEnd (c : Char) : Bool := c = ' ' || isLineEnd c

/-- Characters that a document may hold. -/
def isAllowed (c : Char) : Bool :=
  let n := c.toNat
  n = 9 || n = 10 || n = 13 || (0x20 ≤ n && n ≤ 0x7E) || n = 0x85 || (0xA0 ≤ n && n ≤ 0xD7FF)
    || (0xE000 ≤ n && n ≤ 0xFFFD) || 0x10000 ≤ n

/-- Letters, digits, the hyphen and the underscore: the names of anchors and handles. -/
def isNameChar (c : Char) : Bool := c.isAlphanum || c = '-' || c = '_'

/-- Hexadecimal digits. -/
def isHexDigit (c : Char) : Bool :=
  c.isDigit || ('a' ≤ c && c ≤ 'f') || ('A' ≤ c && c ≤ 'F')

/-! ## Cursors -/

/-- A place in a text. -/
structure Cursor where
  /-- The characters from here on. -/
  rest : List Char
  /-- The number of characters before. -/
  index : Nat := 0
  /-- The number of breaks before. -/
  line : Nat := 0
  /-- The number of characters since the last break. -/
  column : Nat := 0
deriving Inhabited

namespace Cursor

/-- The start of a text. -/
def start (cs : List Char) : Cursor := { rest := cs }

/-- The character here. -/
def here (c : Cursor) : Char := c.rest.headD endMark

/-- The character `n` places on. -/
def peek (c : Cursor) (n : Nat) : Char := c.rest.getD n endMark

/-- The place after the character here. -/
def next (c : Cursor) : Cursor :=
  match c.rest with
  | [] => c
  | x :: rest =>
    if (isBreak x && x ≠ '\r') || (x = '\r' && rest.head? ≠ some '\n') then
      ⟨rest, c.index + 1, c.line + 1, 0⟩
    else ⟨rest, c.index + 1, c.line, if x = byteOrderMark then c.column else c.column + 1⟩

/-- The place `n` characters on. -/
def skip (c : Cursor) : Nat → Cursor
  | 0 => c
  | n + 1 => c.next.skip n

/-- The characters from here on that belong to a class, and the place after them. -/
def span (p : Char → Bool) (c : Cursor) : List Char × Cursor :=
  let chars := c.rest.takeWhile p
  (chars, c.skip chars.length)

/-- The place after the characters of a class. -/
def skipWhile (p : Char → Bool) (c : Cursor) : Cursor := (c.span p).2

/-- The place after the blanks here. -/
def skipBlanks (c : Cursor) : Cursor := c.skipWhile (· = ' ')

/-- The break here and the place after it. A line or paragraph separator stays what it is, any
other break becomes a line feed. -/
def lineBreak (c : Cursor) : Option Char × Cursor :=
  if !isBreak c.here then (none, c)
  else if c.here.toNat = 0x2028 ∨ c.here.toNat = 0x2029 then (some c.here, c.next)
  else if c.here = '\r' ∧ c.peek 1 = '\n' then (some '\n', c.skip 2)
  else (some '\n', c.next)

/-- The place after a comment, if one starts here. -/
def skipComment (c : Cursor) : Cursor :=
  if c.here = '#' then c.skipWhile (!isLineEnd ·) else c

/-- Three times `mark` at the start of a line, followed by a gap. -/
def atSeparator (mark : Char) (c : Cursor) : Bool :=
  c.here = mark && c.peek 1 = mark && c.peek 2 = mark && isGap (c.peek 3)

/-- A document separator. -/
def atDocumentSeparator (c : Cursor) : Bool := c.atSeparator '-' || c.atSeparator '.'

end Cursor

end ServiceSchema.Yaml

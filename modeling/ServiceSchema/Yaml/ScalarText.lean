/-
The text of scalars.

A scalar is written plain, between quotes or as an indented block. In each form
breaks are folded by rules of its own: in plain and quoted scalars one break is a
blank and further breaks stay, blocks keep their lines or fold them as their header
says. Every loop here passes at least one character a round, so the characters that
are left bound it; that bound is the fuel of each loop.
-/
import ServiceSchema.Yaml.Cursor
import ServiceSchema.Yaml.Fault
import ServiceSchema.Number.Decimal
import ServiceSchema.Text.CodePoint

set_option autoImplicit false

namespace ServiceSchema.Yaml

/-- Fuel for a loop that passes a character a round. -/
def Cursor.fuel (c : Cursor) : Nat := c.rest.length + 2

/-- What a break followed by further breaks folds to: a blank for one line feed, and the breaks
as they are otherwise. -/
def foldBreak (first : Char) (more : List Char) : List Char :=
  if first ≠ '\n' then first :: more else if more.isEmpty then [' '] else more

/-! ## Quoted scalars -/

/-- The code point of a one-letter escape. -/
def simpleEscape? (c : Char) : Option Nat :=
  [('0', 0), ('a', 7), ('b', 8), ('t', 9), ('\t', 9), ('n', 10), ('v', 11), ('f', 12), ('r', 13),
   ('e', 27), (' ', 32), ('"', 34), ('\\', 92), ('/', 47), ('N', 0x85), ('_', 0xA0),
   ('L', 0x2028), ('P', 0x2029)].lookup c

/-- The number of digits of an escape by code point. -/
def escapeWidth? (c : Char) : Option Nat := [('x', 2), ('u', 4), ('U', 8)].lookup c

/-- The breaks of a quoted scalar after the first, with the blanks around them dropped. -/
def quotedBreaks : Nat → Cursor → List Char → Except Fault (List Char × Cursor)
  | 0, c, acc => .ok (acc.reverse, c)
  | fuel + 1, c, acc =>
    if c.atDocumentSeparator then .error (.malformed .unclosedQuote)
    else
      let c := c.skipWhile fun x => x = ' ' || x = '\t'
      match c.lineBreak with
      | (some b, c) => quotedBreaks fuel c (b :: acc)
      | (none, c) => .ok (acc.reverse, c)

/-- The blanks of a quoted scalar, with the breaks among them folded. -/
def quotedSpaces (c : Cursor) : Except Fault (List Char × Cursor) :=
  let (blanks, c) := c.span fun x => x = ' ' || x = '\t'
  if c.here = endMark then .error (.malformed .unclosedQuote)
  else match c.lineBreak with
    | (some b, c) => do
      let (breaks, c) ← quotedBreaks c.fuel c []
      return (foldBreak b breaks, c)
    | (none, c) => .ok (blanks, c)

/-- The character of an escape after its backslash, which may be a surrogate; nothing for an escaped
break. -/
def escapedChars (c : Cursor) : Except Fault (List Char × Cursor) :=
  match simpleEscape? c.here with
  | some code => .ok (Text.ofCode code, c.next)
  | none => match escapeWidth? c.here with
    | some width =>
      let digits := c.next.rest.take width
      if digits.length = width ∧ digits.all isHexDigit then
        let code := (Number.digits? 16 (Number.baseDigit? 16) digits).getD 0
        if code < 0x110000 then .ok (Text.ofCode code, c.skip (width + 1))
        else if code < 0x80000000 then
          .error (.scalar (.invalid "chr() arg not in range(0x110000)"))
        else .error (.scalar (.overflow "Python int too large to convert to C int"))
      else .error (.malformed .escape)
    | none =>
      if isBreak c.here then do
        let c := c.lineBreak.2
        let (breaks, c) ← quotedBreaks c.fuel c []
        return (breaks, c)
      else .error (.malformed .escape)

/-- The content of a quoted scalar up to its closing quote. -/
def quotedContent (double : Bool) : Nat → Cursor → List Char → Except Fault (List Char × Cursor)
  | 0, _, _ => .error (.malformed .unclosedQuote)
  | fuel + 1, c, acc =>
    let x := c.here
    if double then
      if x = '"' then .ok (acc, c.next)
      else if x = '\\' then do
        let (chars, c) ← escapedChars c.next
        quotedContent double fuel c (chars.reverse ++ acc)
      else if isGap x then do
        let (spaces, c) ← quotedSpaces c
        quotedContent double fuel c (spaces.reverse ++ acc)
      else quotedContent double fuel c.next (x :: acc)
    else
      if x = '\'' then
        if c.peek 1 = '\'' then quotedContent double fuel (c.skip 2) (x :: acc)
        else .ok (acc, c.next)
      else if isGap x then do
        let (spaces, c) ← quotedSpaces c
        quotedContent double fuel c (spaces.reverse ++ acc)
      else quotedContent double fuel c.next (x :: acc)

/-- A scalar between quotes; the cursor stands on the opening one. -/
def quotedScalar (c : Cursor) : Except Fault (String × Cursor) := do
  let (content, after) ← quotedContent (c.here = '"') c.fuel c.next []
  return (String.ofList content.reverse, after)

/-! ## Plain scalars -/

/-- Whether a plain scalar stops before the character here. -/
def endsPlain (inFlow : Bool) (x following : Char) : Bool :=
  isGap x
    || (x = ':' && (isGap following || (inFlow && ",[]\x7b\x7d".toList.contains following)))
    || (inFlow && ",?[]\x7b\x7d".toList.contains x)

/-- The longest run of characters that a plain scalar goes on with. -/
def plainRun (inFlow : Bool) : List Char → List Char
  | [] => []
  | x :: rest =>
    if endsPlain inFlow x (rest.headD endMark) then [] else x :: plainRun inFlow rest

/-- Further breaks inside a plain scalar. A document separator at the start of a line ends the
scalar: the first component says whether one stopped the run. -/
def plainBreaks : Nat → Cursor → List Char → (Bool × List Char) × Cursor
  | 0, c, acc => ((false, acc.reverse), c)
  | fuel + 1, c, acc =>
    let c := c.skipBlanks
    match c.lineBreak with
    | (some b, c) =>
      if c.atDocumentSeparator then ((true, []), c) else plainBreaks fuel c (b :: acc)
    | (none, c) => ((false, acc.reverse), c)

/-- The blanks inside a plain scalar, with breaks folded, and whether there was a break; empty
when the scalar ends here. -/
def plainSpaces (c : Cursor) : (List Char × Bool) × Cursor :=
  let (blanks, c) := c.span (· = ' ')
  match c.lineBreak with
  | (some b, c) =>
    if c.atDocumentSeparator then (([], true), c)
    else match plainBreaks c.fuel c [] with
      | ((true, _), c) => (([], true), c)
      | ((false, breaks), c) => ((foldBreak b breaks, true), c)
  | (none, c) => ((blanks, false), c)

/-- A plain scalar, given how far the block it stands in is indented. The second component
says whether a simple key may follow: it may after a break. -/
def plainContent (inFlow : Bool) (indent : Int) :
    Nat → Cursor → List Char → List Char → Bool → (List Char × Bool) × Cursor
  | 0, c, acc, _, fresh => ((acc, fresh), c)
  | fuel + 1, c, acc, spaces, fresh =>
    if c.here = '#' then ((acc, fresh), c)
    else
      let run := plainRun inFlow c.rest
      if run.isEmpty then ((acc, fresh), c)
      else
        let acc := acc ++ spaces ++ run
        let ((spaces, broken), c) := plainSpaces (c.skip run.length)
        if spaces.isEmpty || c.here = '#' || (!inFlow && c.column < indent) then ((acc, broken), c)
        else plainContent inFlow indent fuel c acc spaces broken

/-- A plain scalar and whether a simple key may follow it. -/
def plainScalar (inFlow : Bool) (indent : Int) (c : Cursor) : (String × Bool) × Cursor :=
  let ((text, fresh), c) := plainContent inFlow indent c.fuel c [] [] false
  ((String.ofList text, fresh), c)

/-! ## Block scalars -/

/-- What becomes of the breaks at the end of a block scalar. -/
inductive Chomping where
  /-- All are dropped. -/
  | strip
  /-- One is kept. -/
  | clip
  /-- All are kept. -/
  | keep
deriving DecidableEq, Inhabited, Repr

/-- The chomping indicator here, if any. -/
def chomping? (c : Cursor) : Option Chomping :=
  if c.here = '+' then some .keep else if c.here = '-' then some .strip else none

/-- The indentation indicator here, if any; zero is refused. -/
def increment? (c : Cursor) : Except Fault (Option Nat) :=
  if c.here = '0' then .error (.malformed .blockHeader)
  else if c.here.isDigit then .ok (some (c.here.toNat - 48))
  else .ok none

/-- The header of a block scalar: chomping and indentation in either order. -/
def blockIndicators (c : Cursor) : Except Fault ((Chomping × Option Nat) × Cursor) :=
  match chomping? c with
  | some chomping => do
    let c := c.next
    match ← increment? c with
    | some n => return ((chomping, some n), c.next)
    | none => return ((chomping, none), c)
  | none => do
    match ← increment? c with
    | some n =>
      let c := c.next
      match chomping? c with
      | some chomping => return ((chomping, some n), c.next)
      | none => return ((.clip, some n), c)
    | none => return ((.clip, none), c)

/-- The place after the rest of a line that may hold only blanks and a comment. -/
def ignoredLine (rule : Malformation) (c : Cursor) : Except Fault Cursor :=
  let c := c.skipBlanks.skipComment
  if isLineEnd c.here then .ok c.lineBreak.2 else .error (.malformed rule)

/-- The empty lines at the start of a block scalar and the largest column that a blank
reaches. -/
def blockIndentation : Nat → Cursor → List Char → Nat → (List Char × Nat) × Cursor
  | 0, c, acc, deepest => ((acc.reverse, deepest), c)
  | fuel + 1, c, acc, deepest =>
    if c.here = ' ' then
      let c := c.next
      blockIndentation fuel c acc (max deepest c.column)
    else match c.lineBreak with
      | (some b, c) => blockIndentation fuel c (b :: acc) deepest
      | (none, c) => ((acc.reverse, deepest), c)

/-- The place after blanks, at most up to the column `indent`. -/
def skipIndent (indent : Nat) : Nat → Cursor → Cursor
  | 0, c => c
  | fuel + 1, c =>
    if c.column < indent ∧ c.here = ' ' then skipIndent indent fuel c.next else c

/-- The empty lines here, with the indentation of the line after them skipped. -/
def blockBreaks (indent : Nat) : Nat → Cursor → List Char → List Char × Cursor
  | 0, c, acc => (acc.reverse, c)
  | fuel + 1, c, acc =>
    let c := skipIndent indent indent c
    match c.lineBreak with
    | (some b, c) => blockBreaks indent fuel c (b :: acc)
    | (none, c) => (acc.reverse, c)

/-- Whether the cursor stands on a line of the block. -/
def inBlock (indent : Nat) (c : Cursor) : Bool := c.column = indent && c.here ≠ endMark

/-- The lines of a block scalar: what was read, the break of the last line and the breaks after
it. -/
def blockLines (folded : Bool) (indent : Nat) :
    Nat → Cursor → List Char → List Char → (List Char × List Char × List Char) × Cursor
  | 0, c, acc, breaks => ((acc, [], breaks), c)
  | fuel + 1, c, acc, breaks =>
    let acc := acc ++ breaks
    let fromText := !(c.here = ' ' || c.here = '\t')
    let (line, c) := c.span (!isLineEnd ·)
    let acc := acc ++ line
    let (lineBreak, c) := c.lineBreak
    let (breaks, c) := blockBreaks indent c.fuel c []
    if inBlock indent c then
      let joined :=
        if folded && lineBreak = some '\n' && fromText && !(c.here = ' ' || c.here = '\t') then
          if breaks.isEmpty then [' '] else []
        else lineBreak.toList
      blockLines folded indent fuel c (acc ++ joined) breaks
    else ((acc, lineBreak.toList, breaks), c)

/-- A block scalar; the cursor stands on its indicator, and the block around it is indented by
`parentIndent`. -/
def blockScalar (folded : Bool) (parentIndent : Int) (c : Cursor) : Except Fault (String × Cursor) := do
  let ((chomping, increment), c) ← blockIndicators c.next
  if !isBlankOrEnd c.here then throw (.malformed .blockHeader)
  let c ← ignoredLine .blockHeader c
  let least := (max 1 (parentIndent + 1)).toNat
  let (indent, breaks, c) := match increment with
    | some n =>
      let indent := least + n - 1
      let (breaks, c) := blockBreaks indent c.fuel c []
      (indent, breaks, c)
    | none =>
      let ((breaks, deepest), c) := blockIndentation c.fuel c [] 0
      (max least deepest, breaks, c)
  let ((text, last, breaks), c) :=
    if inBlock indent c then blockLines folded indent c.fuel c [] breaks else (([], [], breaks), c)
  let tail := match chomping with
    | .strip => []
    | .clip => last
    | .keep => last ++ breaks
  return (String.ofList (text ++ tail), c)

end ServiceSchema.Yaml

/-
Tokens of YAML text.

Most tokens stand for the characters they are written with. Four do not: the start
of a block sequence or mapping is seen only by how far its first entry is indented,
the end of a block by how little the next line is, and a simple key only when the
colon after it is reached. The lexer therefore carries the open indentations and,
for each level of flow brackets, the place where a simple key may have started;
when the colon comes, the key token is put in at that place.

A simple key has to fit on one line and into 1024 characters. A key that is the
first thing on the line of an open block has to be followed by a colon.
-/
import ServiceSchema.Yaml.ScalarText

set_option autoImplicit false

namespace ServiceSchema.Yaml

/-- What a line that starts with a percent sign declares. -/
inductive Directive where
  | version (major : Nat)
  | tagHandle (handle expansion : String)
  | other
deriving DecidableEq, Inhabited, Repr

/-- A token of YAML text. -/
inductive Token where
  | directive (declaration : Directive)
  | documentStart
  | documentEnd
  | streamEnd
  | blockSequenceStart
  | blockMappingStart
  | blockEnd
  | flowSequenceStart
  | flowSequenceEnd
  | flowMappingStart
  | flowMappingEnd
  | blockEntry
  | flowEntry
  | key
  | value
  | reference (name : String)
  | anchor (name : String)
  | tag (handle : Option String) (suffix : String)
  | scalar (text : String) (plain : Bool)
  /-- What stands where no further token could be read. -/
  | unread
deriving DecidableEq, Inhabited, Repr

/-! ## Words of anchors, tags and directives -/

/-- A name and the place after it; there has to be one, and a character that `ends` it. -/
def nameWord (rule : Malformation) (ends : Char → Bool) (c : Cursor) :
    Except Fault (String × Cursor) :=
  let (name, c) := c.span isNameChar
  if !name.isEmpty && ends c.here then .ok (String.ofList name, c) else .error (.malformed rule)

/-- The name of an anchor or alias; the cursor stands on its indicator. -/
def anchorName (c : Cursor) : Except Fault (String × Cursor) :=
  nameWord .anchorName (fun x => isGap x || "?:,]\x7d%@`".toList.contains x) c.next

/-- Characters of a tag, the percent sign apart. -/
def isTagChar (c : Char) : Bool :=
  c.isAlphanum || "-;/?:@&=+$,_.!~*'()[]".toList.contains c

/-- The bytes of consecutive escapes such as `%C3%A9`. -/
def tagEscapes : Nat → Cursor → List Nat → Except Fault (List Nat × Cursor)
  | 0, _, _ => .error (.malformed .tag)
  | fuel + 1, c, acc =>
    if c.here = '%' then
      let digits := [c.peek 1, c.peek 2]
      if digits.all isHexDigit then
        let byte := (Number.digits? 16 (Number.baseDigit? 16) digits).getD 0
        tagEscapes fuel (c.skip 3) (byte :: acc)
      else .error (.malformed .tag)
    else .ok (acc.reverse, c)

/-- The text of bytes, if they are UTF-8. -/
def utf8Text? (bytes : List Nat) : Option String :=
  (String.fromUTF8? (ByteArray.mk (bytes.map UInt8.ofNat).toArray)).map fun s =>
    String.ofList (s.toList.flatMap Text.guarded)

/-- The characters of a tag. -/
def tagChars : Nat → Cursor → List Char → Except Fault (List Char × Cursor)
  | 0, _, _ => .error (.malformed .tag)
  | fuel + 1, c, acc =>
    if c.here = '%' then do
      let (bytes, c) ← tagEscapes c.fuel c []
      match utf8Text? bytes with
      | some text => tagChars fuel c (text.toList.reverse ++ acc)
      | none => throw (.malformed .tag)
    else if isTagChar c.here then tagChars fuel c.next (c.here :: acc)
    else .ok (acc.reverse, c)

/-- The suffix of a tag or the expansion of a handle; it has at least one character. -/
def tagWord (c : Cursor) : Except Fault (String × Cursor) := do
  let (chars, after) ← tagChars c.fuel c []
  if after.index = c.index then throw (.malformed .tag)
  return (String.ofList chars, after)

/-- A handle such as `!`, `!!` or `!name!`. -/
def tagHandle (c : Cursor) : Except Fault (String × Cursor) :=
  if c.here ≠ '!' then .error (.malformed .tag)
  else if c.peek 1 = ' ' then .ok ("!", c.next)
  else
    let (name, after) := c.next.span isNameChar
    if after.here = '!' then .ok (String.ofList ('!' :: name ++ ['!']), after.next)
    else .error (.malformed .tag)

/-- A tag; the cursor stands on its exclamation mark. -/
def tagToken (c : Cursor) : Except Fault (Token × Cursor) := do
  let (token, c) ←
    if c.peek 1 = '<' then do
      let (suffix, c) ← tagWord (c.skip 2)
      if c.here ≠ '>' then throw (.malformed .tag)
      pure (Token.tag none suffix, c.next)
    else if isGap (c.peek 1) then pure (Token.tag none "!", c.next)
    else do
      -- a further exclamation mark shows that the tag starts with a handle
      let word := c.next.rest.takeWhile (!isBlankOrEnd ·)
      let (handle, c) ← if word.contains '!' then tagHandle c else pure ("!", c.next)
      let (suffix, c) ← tagWord c
      pure (Token.tag (some handle) suffix, c)
  if isBlankOrEnd c.here then return (token, c) else throw (.malformed .tag)

/-- A number of a version. -/
def versionNumber (c : Cursor) : Except Fault (Nat × Cursor) :=
  let (digits, c) := c.span Char.isDigit
  if digits.isEmpty then .error (.malformed .directive)
  else .ok ((Number.digits? 10 (Number.baseDigit? 10) digits).getD 0, c)

/-- A directive; the cursor stands on its percent sign. -/
def directiveToken (c : Cursor) : Except Fault (Token × Cursor) := do
  let (name, c) ← nameWord .directive isBlankOrEnd c.next
  let (declaration, c) ←
    if name = "YAML" then do
      let (major, c) ← versionNumber c.skipBlanks
      if c.here ≠ '.' then throw (.malformed .directive)
      let (_, c) ← versionNumber c.next
      if !isBlankOrEnd c.here then throw (.malformed .directive)
      pure (Directive.version major, c)
    else if name = "TAG" then do
      let (handle, c) ← tagHandle c.skipBlanks
      if c.here ≠ ' ' then throw (.malformed .directive)
      let (expansion, c) ← tagWord c.skipBlanks
      if !isBlankOrEnd c.here then throw (.malformed .directive)
      pure (Directive.tagHandle handle expansion, c)
    else pure (Directive.other, c.skipWhile (!isLineEnd ·))
  let c ← ignoredLine .directive c
  return (.directive declaration, c)

/-! ## The lexer -/

/-- A place where a simple key may have started. -/
structure KeyStart where
  /-- The number of tokens before it. -/
  tokens : Nat
  /-- Whether a colon has to follow. -/
  required : Bool
  cursor : Cursor
deriving Inhabited

/-- What the lexer has read and what it has to remember. -/
structure Lexer where
  cursor : Cursor
  /-- The tokens so far, the last one first. -/
  tokens : List Token := []
  /-- How many flow brackets are open. -/
  flowDepth : Nat := 0
  /-- The column of the innermost block; -1 outside of all blocks. -/
  indent : Int := -1
  /-- The columns of the blocks around it, innermost first. -/
  outer : List Int := []
  /-- Whether a simple key may start here. -/
  keyAllowed : Bool := true
  /-- Where a simple key may have started, by flow depth. -/
  keys : List (Nat × KeyStart) := []

namespace Lexer

/-- The lexer after one more token. -/
def emit (l : Lexer) (t : Token) : Lexer := { l with tokens := t :: l.tokens }

/-- The lexer with a token put in after the first `n` tokens. -/
def insert (l : Lexer) (n : Nat) (t : Token) : Lexer :=
  let after := l.tokens.length - n
  { l with tokens := l.tokens.take after ++ t :: l.tokens.drop after }

/-- Whether no simple key can reach here from a place: from another line or too far back. -/
def isStale (l : Lexer) (k : KeyStart) : Bool :=
  k.cursor.line != l.cursor.line || 1024 < l.cursor.index - k.cursor.index

/-- Forgets the places from which no simple key can reach here. One that requires a colon is an
error. -/
def dropStaleKeys (l : Lexer) : Except Fault Lexer :=
  if l.keys.any fun (_, k) => l.isStale k && k.required then .error (.malformed .missingColon)
  else .ok { l with keys := l.keys.filter fun (_, k) => !l.isStale k }

/-- The tokens that can be told before another one is read. Where a simple key may have started, it
has to be known first whether one did. -/
def settled (l : Lexer) : List Token :=
  let started := (l.keys.filter fun (_, k) => !l.isStale k).map fun (_, k) => k.tokens
  l.tokens.reverse.take (started.foldl min l.tokens.length)

/-- Forgets the place on the present flow depth. -/
def dropKey (l : Lexer) : Except Fault Lexer :=
  match l.keys.lookup l.flowDepth with
  | none => .ok l
  | some k =>
    if k.required then .error (.malformed .missingColon)
    else .ok { l with keys := l.keys.filter (·.1 != l.flowDepth) }

/-- Remembers that a simple key may start here. -/
def saveKey (l : Lexer) : Except Fault Lexer := do
  if !l.keyAllowed then return l
  let required := l.flowDepth = 0 && l.indent = l.cursor.column
  -- a depth holds one place; the one before it can no longer become a key
  let l ← l.dropKey
  return { l with keys := (l.flowDepth, ⟨l.tokens.length, required, l.cursor⟩) :: l.keys }

/-- Closes the blocks that are indented further than `column`. -/
def unwind (column : Int) : List Int → Lexer → Lexer
  | [], l => l
  | outer :: rest, l =>
    if l.flowDepth = 0 ∧ column < l.indent then
      unwind column rest { l with indent := outer, outer := rest, tokens := .blockEnd :: l.tokens }
    else l

/-- Closes the blocks that are indented further than `column`. -/
def closeBlocks (l : Lexer) (column : Int) : Lexer := unwind column l.outer l

/-- Opens a block at `column` if it is indented further than the present one; the start token
goes in after the first `n` tokens. -/
def openBlock (l : Lexer) (column : Nat) (n : Nat) (start : Token) : Lexer :=
  if l.flowDepth = 0 ∧ l.indent < column then
    { l.insert n start with indent := column, outer := l.indent :: l.outer }
  else l

/-- The place of the next token: after blanks, comments and breaks. A break outside of flow
brackets allows a simple key. -/
def skipToToken : Nat → Lexer → Lexer
  | 0, l => l
  | fuel + 1, l =>
    let c := l.cursor.skipBlanks.skipComment
    match c.lineBreak with
    | (some _, c) =>
      skipToToken fuel { l with cursor := c, keyAllowed := l.keyAllowed || l.flowDepth = 0 }
    | (none, c) => { l with cursor := c }

/-- An indicator of `n` characters. -/
def indicator (l : Lexer) (n : Nat) (t : Token) : Lexer :=
  { l.emit t with cursor := l.cursor.skip n }

/-- A document separator or the end of the text closes all blocks. -/
def separator (l : Lexer) : Except Fault Lexer := do
  let l ← (l.closeBlocks (-1)).dropKey
  return { l with keyAllowed := false }

/-- A scalar, alias, anchor or tag: a simple key may start with it. -/
def content (l : Lexer) (read : Cursor → Except Fault (Token × Cursor)) : Except Fault Lexer := do
  let l ← l.saveKey
  let (token, c) ← read l.cursor
  return { l.emit token with cursor := c, keyAllowed := false }

/-- A plain scalar: a simple key may follow it if it ended at a break. -/
def plain (l : Lexer) : Except Fault Lexer := do
  let l ← l.saveKey
  let ((text, fresh), c) := plainScalar (0 < l.flowDepth) (l.indent + 1) l.cursor
  return { l.emit (.scalar text true) with cursor := c, keyAllowed := fresh }

/-- A block scalar: a simple key may follow it. -/
def block (l : Lexer) (folded : Bool) : Except Fault Lexer := do
  let l ← l.dropKey
  let (text, c) ← blockScalar folded l.indent l.cursor
  return { l.emit (.scalar text false) with cursor := c, keyAllowed := true }

/-- The start of a sequence entry or of a key that is marked as one. -/
def entry (l : Lexer) (start t : Token) (keyAllowed : Bool) : Except Fault Lexer := do
  if l.flowDepth = 0 ∧ !l.keyAllowed then throw (.malformed .misplacedIndicator)
  let l := l.openBlock l.cursor.column l.tokens.length start
  let l ← l.dropKey
  return { l.indicator 1 t with keyAllowed }

/-- A colon that starts a value: after a simple key, or on its own. -/
def valueStart (l : Lexer) : Except Fault Lexer :=
  match l.keys.lookup l.flowDepth with
  | some k =>
    let l := { l with keys := l.keys.filter (·.1 != l.flowDepth) }
    -- the key token goes in first, so that the block starts in front of it
    let l := l.insert k.tokens .key
    let l := l.openBlock k.cursor.column k.tokens .blockMappingStart
    .ok { l.indicator 1 .value with keyAllowed := false }
  -- without a simple key the colon is an entry whose key is empty
  | none => l.entry .blockMappingStart .value (l.flowDepth = 0)

/-- An opening flow bracket. -/
def flowStart (l : Lexer) (t : Token) : Except Fault Lexer := do
  let l ← l.saveKey
  return { l.indicator 1 t with flowDepth := l.flowDepth + 1, keyAllowed := true }

/-- A closing flow bracket. -/
def flowEnd (l : Lexer) (t : Token) : Except Fault Lexer := do
  let l ← l.dropKey
  return { l.indicator 1 t with flowDepth := l.flowDepth - 1, keyAllowed := false }

/-- Whether the character at a place can start a plain scalar. -/
def startsPlain (l : Lexer) (x : Char) : Bool :=
  (!isGap x && !"-?:,[]\x7b\x7d#&*!|>'\"%@`".toList.contains x)
    || (!isGap (l.cursor.peek 1) && (x = '-' || (l.flowDepth = 0 && (x = '?' || x = ':'))))

/-- Reads the token that starts at the cursor, which is not at the end of the text. -/
def readToken (l : Lexer) : Except Fault Lexer := do
  let c := l.cursor
  let x := c.here
  let inFlow := 0 < l.flowDepth
  if c.column = 0 ∧ x = '%' then
    let l ← l.separator
    let (token, c) ← directiveToken l.cursor
    return { l.emit token with cursor := c }
  else if c.column = 0 ∧ c.atSeparator '-' then return (← l.separator).indicator 3 .documentStart
  else if c.column = 0 ∧ c.atSeparator '.' then return (← l.separator).indicator 3 .documentEnd
  else if x = '[' then l.flowStart .flowSequenceStart
  else if x = '\x7b' then l.flowStart .flowMappingStart
  else if x = ']' then l.flowEnd .flowSequenceEnd
  else if x = '\x7d' then l.flowEnd .flowMappingEnd
  else if x = ',' then
    let l ← l.dropKey
    return { l.indicator 1 .flowEntry with keyAllowed := true }
  else if x = '-' ∧ isGap (c.peek 1) then l.entry .blockSequenceStart .blockEntry true
  else if x = '?' ∧ (inFlow ∨ isGap (c.peek 1)) then l.entry .blockMappingStart .key (!inFlow)
  else if x = ':' ∧ (inFlow ∨ isGap (c.peek 1)) then l.valueStart
  else if x = '*' then l.content fun c => do
    let (name, c) ← anchorName c
    return (.reference name, c)
  else if x = '&' then l.content fun c => do
    let (name, c) ← anchorName c
    return (.anchor name, c)
  else if x = '!' then l.content tagToken
  else if x = '|' ∧ !inFlow then l.block false
  else if x = '>' ∧ !inFlow then l.block true
  else if x = '\'' ∨ x = '"' then l.content fun c => do
    let (text, c) ← quotedScalar c
    return (.scalar text false, c)
  else if l.startsPlain x then l.plain
  else throw (.malformed .unexpectedCharacter)

/-- Reads all tokens. A fault ends them; the tokens that could be told before it are kept, because
a document may be refused for an earlier reason. -/
def run : Nat → Lexer → List Token × Option Fault
  | 0, l => (l.tokens.reverse, none)
  | fuel + 1, l =>
    let next : Except Fault Lexer := do
      let l ← (skipToToken l.cursor.fuel l).dropStaleKeys
      let l := l.closeBlocks l.cursor.column
      if l.cursor.here = endMark then return (← l.separator).emit .streamEnd else l.readToken
    match next with
    | .error fault => (l.settled, some fault)
    | .ok l =>
      if l.tokens.head? = some .streamEnd then (l.tokens.reverse, none) else run fuel l

end Lexer

/-- The tokens of a text, up to the first fault. -/
def tokens (s : String) : List Token × Option Fault :=
  let cs := s.toList
  if cs.all isAllowed && Text.isEncodable s then
    let start := Cursor.start cs
    -- the mark is no part of the text, whatever stands after it
    let start := if start.here = byteOrderMark then start.next else start
    Lexer.run (2 * start.fuel) { cursor := start }
  else ([], some (.malformed .unprintable))

end ServiceSchema.Yaml

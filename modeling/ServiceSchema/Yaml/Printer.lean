/-
Writing JSON values as YAML in block style.

Collections are written one item a line; a list under a key is not indented
further, and an empty collection is written between its brackets. A text is plain
if it reads back as the same text, between single quotes if it cannot be plain, and
between double quotes if only escapes can express it. Lines are broken at blanks
once they pass the width.

The page remembers the column and whether anything but indentation stands on the
line: whether the next item starts a line of its own depends on both.
-/
import ServiceSchema.Json.Basic
import ServiceSchema.Number.Shortest
import ServiceSchema.Yaml.Cursor
import ServiceSchema.Yaml.Scalar

set_option autoImplicit false

namespace ServiceSchema.Yaml

/-! ## Styles -/

/-- How a scalar is written. -/
inductive Style where
  | plain
  | single
  | double
deriving DecidableEq, Inhabited, Repr

/-- Breaks that a written scalar may hold. -/
def isWrittenBreak (c : Char) : Bool :=
  c = '\n' || c.toNat = 0x85 || c.toNat = 0x2028 || c.toNat = 0x2029

/-- Characters beyond ASCII that are written as they are. -/
def isWrittenUnicode (c : Char) : Bool :=
  let n := c.toNat
  (n = 0x85 || (0xA0 ≤ n && n ≤ 0xD7FF) || (0xE000 ≤ n && n ≤ 0xFFFD)
    || (0x10000 ≤ n && n < 0x10FFFF)) && c ≠ byteOrderMark

/-- Characters that only an escape can express. -/
def isSpecial (c : Char) : Bool :=
  !(c = '\n' || (0x20 ≤ c.toNat && c.toNat ≤ 0x7E)) && !isWrittenUnicode c

/-- Whether a text that starts with `c` looks like something else than a plain scalar. -/
def leadsIndicator (c following : Char) : Bool :=
  "#,[]\x7b\x7d&*!|>'\"%@`".toList.contains c || ("?:-".toList.contains c && isGap following)

/-- Whether a plain scalar would end or become a key inside the text. -/
def holdsIndicator : Char → List Char → Bool
  | _, [] => false
  | before, c :: rest =>
    (c = ':' && isGap (rest.headD endMark)) || (c = '#' && isGap before) || holdsIndicator c rest

/-- Two neighbours of which the first satisfies `p` and the second `q`. -/
def holdsPair (p q : Char → Bool) : List Char → Bool
  | a :: b :: rest => (p a && q b) || holdsPair p q (b :: rest)
  | _ => false

/-- Whether the text can be written plain, apart from its type. -/
def allowsPlain : List Char → Bool
  | [] => true
  | c :: rest =>
    let cs := c :: rest
    let last := cs.getLastD c
    !("---".toList.isPrefixOf cs || "...".toList.isPrefixOf cs)
      && !leadsIndicator c (rest.headD endMark) && !holdsIndicator c rest
      && !cs.any isWrittenBreak && !cs.any isSpecial && c ≠ ' ' && last ≠ ' '

/-- Whether the text can be written between single quotes: it needs no escape, and no blank
stands beside a break. -/
def allowsSingle (cs : List Char) : Bool :=
  !cs.any isSpecial && !holdsPair isWrittenBreak (· = ' ') cs
    && !holdsPair (· = ' ') isWrittenBreak cs

/-- The style of a text. -/
def styleOf (s : String) : Style :=
  if plainType s = .text && allowsPlain s.toList then .plain
  else if allowsSingle s.toList then .single
  else .double

/-- Whether a text can stand in front of a colon: it is not empty, short and on one line. -/
def isSimpleKey (s : String) : Bool :=
  s ≠ "" && (Text.codes s.toList).length < 123 && !s.toList.any isWrittenBreak

/-! ## The page -/

/-- What is written so far. -/
structure Page where
  text : String := ""
  column : Nat := 0
  /-- A blank or the start of the line comes before. -/
  spaced : Bool := true
  /-- Nothing but indentation and indicators of items stands on the line. -/
  indenting : Bool := true
deriving Inhabited

namespace Page

/-- The width after which lines are broken. -/
def width : Nat := 80

/-- The page with characters put on the line. -/
def put (p : Page) (s : String) : Page :=
  { p with text := p.text ++ s, column := p.column + s.length }

/-- The page with a break. -/
def newLine (p : Page) (mark : Char) : Page := ⟨p.text.push mark, 0, true, true⟩

/-- The page at the given column of a line that holds nothing yet. -/
def indentTo (p : Page) (indent : Nat) : Page :=
  let p :=
    if !p.indenting || indent < p.column || (p.column = indent && !p.spaced) then p.newLine '\n'
    else p
  if p.column < indent then
    { p.put (String.ofList (List.replicate (indent - p.column) ' ')) with spaced := true }
  else p

/-- The page with an indicator, after a blank if it needs one. `opens` says that what follows
needs no blank, `item` that it is the indicator of an item. -/
def indicator (p : Page) (mark : String) (needsBlank opens item : Bool) : Page :=
  let written := p.put (if p.spaced || !needsBlank then mark else " " ++ mark)
  { written with spaced := opens, indenting := p.indenting && item }

/-- The page on which something else than indentation stands. -/
def occupied (p : Page) : Page := { p with spaced := false, indenting := false }

end Page

/-! ## Scalars -/

/-- The classes of characters that lines are broken by. -/
inductive RunClass where
  | word
  | blank
  | lineBreak
deriving DecidableEq, Inhabited, Repr

/-- The class of a character. -/
def runClass (c : Char) : RunClass :=
  if c = ' ' then .blank else if isWrittenBreak c then .lineBreak else .word

/-- The longest runs of characters of one class. -/
def runs : List Char → List (RunClass × List Char)
  | [] => []
  | c :: rest =>
    match runs rest with
    | (cls, chars) :: more =>
      if cls = runClass c then (cls, c :: chars) :: more
      else (runClass c, [c]) :: (cls, chars) :: more
    | [] => [(runClass c, [c])]

/-- The breaks of a run: a line feed needs a further one, because the first folds away. -/
def putBreaks (p : Page) (indent : Nat) (chars : List Char) : Page :=
  let p := if chars.head? = some '\n' then p.newLine '\n' else p
  (chars.foldl Page.newLine p).indentTo indent

/-- The runs of a plain scalar. -/
def putPlainRuns (indent : Nat) (split : Bool) : Page → List (RunClass × List Char) → Page
  | p, [] => p
  | p, (cls, chars) :: rest =>
    let p :=
      -- only a single blank may become a break: reading folds the break to one blank
      if cls = .blank && chars.length = 1 && Page.width < p.column && split then
        (p.indentTo indent).occupied
      else p.put (String.ofList chars)
    putPlainRuns indent split p rest

/-- A plain scalar. -/
def putPlain (indent : Nat) (split : Bool) (p : Page) (s : String) : Page :=
  if s = "" then p
  else
    let p := if p.spaced then p else p.put " "
    putPlainRuns indent split p.occupied (runs s.toList)

/-- A word between single quotes, with its quotes doubled. -/
def doubleQuotes (chars : List Char) : List Char :=
  chars.flatMap fun c => if c = '\'' then [c, c] else [c]

/-- The runs of a scalar between single quotes. A line is broken at a single blank inside the
text. -/
def putSingleRuns (indent : Nat) (split : Bool) :
    Page → Bool → List (RunClass × List Char) → Page
  | p, _, [] => p
  | p, first, (cls, chars) :: rest =>
    let p := match cls with
      | .blank =>
        if chars.length = 1 && Page.width < p.column && split && !first && !rest.isEmpty then
          p.indentTo indent
        else p.put (String.ofList chars)
      | .lineBreak => putBreaks p indent chars
      | .word => p.put (String.ofList (doubleQuotes chars))
    putSingleRuns indent split p false rest

/-- A scalar between single quotes. -/
def putSingle (indent : Nat) (split : Bool) (p : Page) (s : String) : Page :=
  let p := p.indicator "'" true false false
  (putSingleRuns indent split p true (runs s.toList)).indicator "'" false false false

/-- The letter of a one-letter escape. -/
def escapeLetter? (n : Nat) : Option Char :=
  [(0, '0'), (7, 'a'), (8, 'b'), (9, 't'), (10, 'n'), (11, 'v'), (12, 'f'), (13, 'r'), (27, 'e'),
   (34, '"'), (92, '\\'), (0x85, 'N'), (0xA0, '_'), (0x2028, 'L'), (0x2029, 'P')].lookup n

/-- Hexadecimal digits in upper case. -/
def upperHex (digits n : Nat) : List Char := (Text.hex digits n).map Char.toUpper

/-- Code points that double quotes show as they are. -/
def isShown (n : Nat) : Bool :=
  n ≠ '"'.toNat && n ≠ '\\'.toNat && n ≠ byteOrderMark.toNat && n ≠ 0x85 && n ≠ 0x2028
    && n ≠ 0x2029
    && ((0x20 ≤ n && n ≤ 0x7E) || (0xA0 ≤ n && n ≤ 0xD7FF) || (0xE000 ≤ n && n ≤ 0xFFFD))

/-- The escape of a code point. -/
def escapeOf (n : Nat) : String :=
  String.ofList <| '\\' :: match escapeLetter? n with
    | some letter => [letter]
    | none =>
      if n ≤ 0xFF then 'x' :: upperHex 2 n
      else if n ≤ 0xFFFF then 'u' :: upperHex 4 n
      else 'U' :: upperHex 8 n

/-- The code points of a scalar between double quotes. `pending` holds characters that are not
written yet, last first. A line is broken by a backslash, before a blank or right after an
escape; a blank at the start of the next line is escaped. -/
def putDoubleCodes (indent : Nat) (split : Bool) :
    Page → Bool → List Char → List Nat → Page
  | p, _, pending, [] => p.put (String.ofList pending.reverse)
  | p, first, pending, n :: rest =>
    let breakable := split && !first && !rest.isEmpty
    if isShown n then
      let c := Char.ofNat n
      let (p, pending) :=
        if breakable && (c = ' ' || pending.isEmpty) && Page.width < p.column + pending.length then
          let p := p.put (String.ofList (pending.reverse ++ ['\\']))
          let p := (p.indentTo indent).occupied
          (if c = ' ' then p.put "\\" else p, [])
        else (p, pending)
      putDoubleCodes indent split p false (c :: pending) rest
    else
      let p := (p.put (String.ofList pending.reverse)).put (escapeOf n)
      let p :=
        if breakable && Page.width + 1 < p.column then
          let p := ((p.put "\\").indentTo indent).occupied
          if rest.head? = some ' '.toNat then p.put "\\" else p
        else p
      putDoubleCodes indent split p false [] rest

/-- A scalar between double quotes. -/
def putDouble (indent : Nat) (split : Bool) (p : Page) (s : String) : Page :=
  let p := p.indicator "\"" true false false
  (putDoubleCodes indent split p true [] (Text.codes s.toList)).indicator "\"" false false false

/-- A text in its style. Continued lines are indented to `indent`, and only a text that is no
simple key is continued. -/
def putText (indent : Nat) (split : Bool) (p : Page) (s : String) : Page :=
  match styleOf s with
  | .plain => putPlain indent split p s
  | .single => putSingle indent split p s
  | .double => putDouble indent split p s

/-- The text of a number, which has a point even before an exponent. -/
def realText (x : Number.Binary64) : String :=
  match x with
  | .infinite negative => if negative then "-.inf" else ".inf"
  | .undefined => ".nan"
  | x =>
    -- without a point a numeral with an exponent would read back as text
    let cs := x.text.toList
    if cs.contains '.' then x.text
    else String.ofList (cs.takeWhile (· ≠ 'e') ++ ".0".toList ++ cs.dropWhile (· ≠ 'e'))

/-! ## Collections -/

/-- The indentation one level further in; outside of everything it is the margin. -/
def deeper : Option Nat → Nat
  | none => 0
  | some n => n + 2

/-- The indentation of continued lines of a scalar. -/
def continued : Option Nat → Nat
  | none => 2
  | some n => n + 2

/-- The key of an entry at a column, up to its colon. A key that is not simple is marked. -/
def putKey (column : Nat) (p : Page) (key : String) : Page :=
  let p := p.indentTo column
  if isSimpleKey key then (putText (column + 2) false p key).indicator ":" false false false
  else
    let p := putText (column + 2) true (p.indicator "?" true false true) key
    (p.indentTo column).indicator ":" true false true

mutual

/-- A value. `indent` is the indentation of the collection around it, and `underKey` says
whether that is a mapping. -/
def putValue (indent : Option Nat) (underKey : Bool) (p : Page) : Json → Page
  | .null => putPlain (continued indent) true p "null"
  | .bool b => putPlain (continued indent) true p (if b then "true" else "false")
  | .int n => putPlain (continued indent) true p (Number.integerText n)
  | .real x => putPlain (continued indent) true p (realText x)
  | .text s => putText (continued indent) true p s
  | .list items =>
    if items.isEmpty then (p.indicator "[" true true false).indicator "]" false false false
    else putItems (if underKey && !p.indenting then indent.getD 0 else deeper indent) p items
  | .object entries =>
    if entries.isEmpty then
      (p.indicator "\x7b" true true false).indicator "\x7d" false false false
    else putEntries (deeper indent) p entries

/-- The items of a list at a column. -/
def putItems (column : Nat) (p : Page) : List Json → Page
  | [] => p
  | item :: rest =>
    let start := (p.indentTo column).indicator "-" true false true
    putItems column (putValue (some column) false start item) rest

/-- The entries of a mapping at a column. -/
def putEntries (column : Nat) (p : Page) : List (String × Json) → Page
  | [] => p
  | entry :: rest =>
    putEntries column (putValue (some column) true (putKey column p entry.1) entry.2) rest

end

/-- The YAML text of a value. -/
def render (value : Json) : String := ((putValue none false {} value).indentTo 0).text

end ServiceSchema.Yaml

/-
Reading the words of a command line.

Words are scanned first: what belongs to a switch is told from what does not. A word
that starts with two dashes is the name of a switch, possibly with a value after an
equals sign; one that starts with a single dash is a row of one-letter switches, the
last of which may be followed by its value. Two dashes alone end the switches. Then
the values are checked, in the order in which their switches are first given.
-/
import ServiceSchema.Command.Misuse
import ServiceSchema.File.Tree
import ServiceSchema.Number.Numeral
import ServiceSchema.Schema.Output
import ServiceSchema.Text.Similarity

set_option autoImplicit false

namespace ServiceSchema.Command

/-! ## Scanning -/

/-- The words of a command line, told apart. -/
structure Scanned where
  /-- The switches with their values, as they are given. -/
  given : List (Switch × String) := []
  /-- The words that belong to no switch. -/
  rest : List String := []
deriving DecidableEq, Inhabited, Repr

/-- The switches in a single word. -/
structure Row where
  flags : List Switch := []
  /-- The switch that takes a value, the name under which it is given, and its value if it stands in
  the same word. -/
  last : Option (Switch × String × Option String) := none
deriving DecidableEq, Inhabited, Repr

/-- The switch of a name. -/
def findSwitch (allowed : List Switch) (name : String) : Option Switch :=
  allowed.find? (·.names.contains name)

/-- Whether a name starts with two dashes. -/
def isLong (name : String) : Bool :=
  match name.toList with
  | '-' :: '-' :: _ => true
  | _ => false

/-- The names that start with two dashes. -/
def longNames (allowed : List Switch) : List String := (allowed.flatMap (·.names)).filter isLong

/-- The switch in a word that starts with two dashes. -/
def readLong (allowed : List Switch) (word : String) : Except Misuse Row :=
  let name := String.ofList (word.toList.takeWhile (· ≠ '='))
  let value := match word.toList.dropWhile (· ≠ '=') with
    | [] => none
    | _ :: value => some (String.ofList value)
  match findSwitch allowed name with
  | none => .error (.noSuchSwitch name (Text.suggestions name (longNames allowed)))
  | some s =>
    if s.takesValue then .ok { last := some (s, name, value) }
    else if value.isSome then .error (.surplusValue name)
    else .ok { flags := [s] }

/-- The switches in a row of letters. -/
def readShort (allowed : List Switch) : List Char → Except Misuse Row
  | [] => .ok {}
  | c :: rest =>
    let name := String.ofList ['-', c]
    match findSwitch allowed name with
    | none => .error (.noSuchSwitch name [])
    | some s =>
      if s.takesValue then
        .ok { last := some (s, name, if rest.isEmpty then none else some (String.ofList rest)) }
      else match readShort allowed rest with
        | .error e => .error e
        | .ok row => .ok { row with flags := s :: row.flags }

/-- The switches in a word, unless it is none. -/
def readRow? (allowed : List Switch) (word : String) : Option (Except Misuse Row) :=
  match word.toList with
  | '-' :: '-' :: _ => some (readLong allowed word)
  | '-' :: c :: rest => some (readShort allowed (c :: rest))
  | _ => none

/-- What is scanned, after switches that are given before. -/
def Scanned.after (before : List (Switch × String)) (s : Scanned) : Scanned :=
  { s with given := before ++ s.given }

/-- Tells the words of a command line apart. Unless switches may be `mixed` with other words, the
first other word ends them. -/
def scan (allowed : List Switch) (mixed : Bool) : List String → Except Misuse Scanned
  | [] => .ok {}
  | word :: words =>
    if word = "--" then .ok { rest := words }
    else match readRow? allowed word with
      | none =>
        if mixed then
          (scan allowed mixed words).map fun s => { s with rest := word :: s.rest }
        else .ok { rest := word :: words }
      | some (.error e) => .error e
      | some (.ok row) =>
        let flags := row.flags.map (·, "")
        match row.last with
        | none => (scan allowed mixed words).map (.after flags)
        | some (s, _, some value) => (scan allowed mixed words).map (.after (flags ++ [(s, value)]))
        | some (s, name, none) =>
          match words with
          | [] => .error (.missingValue name)
          -- the next word is the value even if it looks like a switch
          | value :: words => (scan allowed mixed words).map (.after (flags ++ [(s, value)]))

/-! ## Values -/

/-- What follows a verb. -/
structure Arguments where
  file : Option File.Path := none
  targets : List String := []
  output : Option File.Path := none
  format : Option Schema.Format := none
  indent : Option Int := none
  strict : Option Bool := none
  methods : List String := []
deriving Inhabited, Repr

/-- What a path that is given as text leads to, if it leads anywhere. A path that ends with a slash
leads to no file. -/
def leadsTo? (tree : File.Tree) (text : String) : Option File.Entry :=
  match tree.find (.ofText text) with
  | .ok .directory => if text = "" then none else some .directory
  | .ok (.file content) => if text.toList.getLast? = some '/' then none else some (.file content)
  | .error _ => none

/-- The path of a file to write. -/
def outputPath (tree : File.Tree) (text : String) : Except Misuse File.Path :=
  match leadsTo? tree text with
  | some .directory => .error (.badValue Switch.output.label (.directory text))
  | _ => .ok (.ofText text)

/-- The path of a file to read. -/
def inputPath (tree : File.Tree) (label : String) (text : String) : Except Misuse File.Path :=
  match leadsTo? tree text with
  | none => .error (.badValue ("'" ++ label ++ "'") (.noFile text))
  | some .directory => .error (.badValue ("'" ++ label ++ "'") (.directory text))
  | some (.file _) => .ok (.ofText text)

/-- A format, in any case. -/
def formatOf (text : String) : Except Misuse Schema.Format :=
  match Schema.Format.ofWord? (Text.lowerAscii text) with
  | some format => .ok format
  | none =>
    .error (.badValue Switch.format.label (.notOneOf text (Schema.Format.all.map (·.word))))

/-- An indent. -/
def indentOf (text : String) : Except Misuse Int :=
  match Number.wholeNumber 10 text with
  | .ok n => .ok n
  | .error _ => .error (.badValue Switch.indent.label (.notInteger text))

/-- The values of a switch, as they are given. -/
def valuesOf (given : List (Switch × String)) (s : Switch) : List String :=
  (given.filter (·.1 == s)).map (·.2)

/-- Whether the checks are strict: the last word on it counts. -/
def strictness (given : List (Switch × String)) : Option Bool :=
  given.reverse.findSome? fun
    | (.strict, _) => some true
    | (.lenient, _) => some false
    | _ => none

/-- Takes in the values of a switch. Of several values for one thing the last one counts. -/
def Arguments.take (tree : File.Tree) (given : List (Switch × String)) (a : Arguments) (s : Switch) :
    Except Misuse Arguments := do
  let values := valuesOf given s
  let value := values.getLastD ""
  match s with
  | .fromClass => return { a with targets := values }
  | .method => return { a with methods := values }
  | .output => return { a with output := some (← outputPath tree value) }
  | .format => return { a with format := some (← formatOf value) }
  | .indent => return { a with indent := some (← indentOf value) }
  | .strict | .lenient => return { a with strict := strictness given }
  | .help | .version | .verbose => return a

/-- Takes in the words that belong to no switch. -/
def Arguments.takeRest (tree : File.Tree) (verb : Verb) (a : Arguments) (rest : List String) :
    Except Misuse (Arguments × List String) :=
  match verb.file.label?, rest with
  | none, rest => .ok (a, rest)
  | some label, text :: rest =>
    (inputPath tree label text).map fun path => ({ a with file := some path }, rest)
  | some _, [] => if verb.file = .required then .error .missingFile else .ok (a, [])

/-- The arguments of a verb. -/
def Arguments.ofScanned (tree : File.Tree) (verb : Verb) (s : Scanned) :
    Except Misuse Arguments := do
  -- of two wrong values the one of the switch that is given first is reported
  let a ← (s.given.map (·.1)).eraseDups.foldlM (Arguments.take tree s.given) {}
  let (a, surplus) ← a.takeRest tree verb s.rest
  if surplus.isEmpty then return a else throw (.surplusWords surplus)

end ServiceSchema.Command

/-
Variables that configure a run.

Variables come from the environment of the process and from a file of assignments,
one on each line. A value may stand between quotes; what follows a number sign is a
comment, and so is a line without an assignment. The names of variables are compared
without regard to case.
-/
import ServiceSchema.Text.Case
import ServiceSchema.Text.Character
import ServiceSchema.Text.Encoded

set_option autoImplicit false

namespace ServiceSchema.Settings

/-- Variables and their values; of two variables with one name the later one counts. -/
abbrev Variables := List (String × String)

/-- The value of a variable. -/
def valueOf? (environment : Variables) (name : String) : Option String :=
  (environment.reverse.find? fun (n, _) => Text.lowerAscii n == name).map (·.2)

/-! ## Files of assignments -/

/-- The character that an escape between double quotes stands for. -/
def escaped? (c : Char) : Option Char :=
  [('\\', '\\'), ('\'', '\''), ('"', '"'), ('a', '\x07'), ('b', '\x08'), ('f', '\x0c'),
   ('n', '\n'), ('r', '\r'), ('t', '\t'), ('v', '\x0b')].lookup c

/-- The characters up to a closing quote and those after it; `escape?` says what an escaped character
stands for. -/
def quotedValue? (quote : Char) (escape? : Char → Option Char) :
    List Char → Option (List Char × List Char)
  | [] => none
  | '\\' :: c :: rest =>
    let value := match escape? c with
      | some d => [d]
      | none => ['\\', c]
    (quotedValue? quote escape? rest).map fun (cs, after) => (value ++ cs, after)
  | c :: rest =>
    if c = quote then some ([], rest)
    else (quotedValue? quote escape? rest).map fun (cs, after) => (c :: cs, after)

/-- A value without the comment that a number sign after a blank begins. -/
def dropComment : List Char → List Char
  | [] => []
  | c :: rest =>
    if Text.isBlank c && (Text.dropBlanks rest).head? = some '#' then []
    else c :: dropComment rest

/-- Whether nothing but a comment follows a quoted value. -/
def endsThere (rest : List Char) : Bool :=
  let rest := Text.dropBlanks rest
  rest.isEmpty || rest.head? = some '#'

/-- The value at the end of an assignment. -/
def value? (cs : List Char) : Option (List Char) :=
  let quoted (quote : Char) (escape? : Char → Option Char) (rest : List Char) :=
    (quotedValue? quote escape? rest).bind fun (value, after) =>
      if endsThere after then some value else none
  match cs with
  | '\'' :: rest => quoted '\'' (fun c => if c = '\\' || c = '\'' then some c else none) rest
  | '"' :: rest => quoted '"' escaped? rest
  -- a number sign right at the start has no blank before it and belongs to the value
  | cs => some (Text.dropTrailing Text.isBlank (dropComment cs))

/-- A line without the word that exports a variable. -/
def dropExport (cs : List Char) : List Char :=
  match cs with
  | 'e' :: 'x' :: 'p' :: 'o' :: 'r' :: 't' :: c :: rest =>
    if Text.isBlank c then Text.dropBlanks rest else cs
  | cs => cs

/-- The assignment on a line. -/
def assignment? (line : List Char) : Option (String × String) :=
  let cs := dropExport (Text.dropBlanks line)
  let isName (c : Char) : Bool := c != '=' && c != '#' && !Text.isBlank c
  let name := cs.takeWhile isName
  match Text.dropBlanks (cs.dropWhile isName) with
  | '=' :: rest =>
    if name.isEmpty then none
    else (value? (Text.dropBlanks rest)).map fun value => (String.ofList name, String.ofList value)
  | _ => none

/-- The assignments of a file. -/
def assignments (text : String) : Variables :=
  ((Text.unifyLineEnds text.toList).splitOn '\n').filterMap assignment?

end ServiceSchema.Settings

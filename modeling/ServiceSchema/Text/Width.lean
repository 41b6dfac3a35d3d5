/-
The width of text on a terminal.

A character takes one cell, two or none. Lines that are too long are broken between
words; a word that is longer than a line is broken wherever the line ends.
-/
import ServiceSchema.Text.Character
import ServiceSchema.Text.WidthTable

set_option autoImplicit false

namespace ServiceSchema.Text

/-- The number of cells that a character takes. -/
def cellWidth (c : Char) : Nat :=
  let n := c.toNat
  if n < 32 then 0
  else if n < 127 then 1
  else if n < 160 then 0
  else if inRuns wideRuns n then 2
  else if inRuns marginalRuns n then 0
  else 1

/-- The number of cells that characters take. -/
def width (cs : List Char) : Nat := cs.foldr (fun c n => cellWidth c + n) 0

/-- Side by side, characters take as many cells as they take apart. -/
theorem width_append (cs ds : List Char) : width (cs ++ ds) = width cs + width ds := by
  induction cs with
  | nil => simp [width]
  | cons c cs ih =>
    simp only [width, List.cons_append, List.foldr_cons] at ih ⊢
    rw [ih, Nat.add_assoc]

/-- A printable character of ASCII takes one cell. -/
theorem cellWidth_ascii {c : Char} (h : 32 ≤ c.toNat) (h' : c.toNat < 127) : cellWidth c = 1 := by
  simp only [cellWidth]
  rw [if_neg (by omega), if_pos h']

/-- The characters followed by blanks up to a width. -/
def padRight (n : Nat) (cs : List Char) : List Char := cs ++ List.replicate (n - width cs) ' '

/-! ## Breaking lines -/

/-- The words of a line, each with the blanks that follow it; blanks in front belong to the first
word. `inside` says whether a word has begun, and `word` holds it in reverse. -/
def wordsFrom (inside : Bool) (word : List Char) : List Char → List (List Char)
  | [] => if word.isEmpty then [] else [word.reverse]
  | c :: rest =>
    if isBlank c then wordsFrom inside (c :: word) rest
    else if inside && (word.head?.map isBlank).getD false then
      word.reverse :: wordsFrom true [c] rest
    else wordsFrom true (c :: word) rest

/-- The words of a line. -/
def words (cs : List Char) : List (List Char) := wordsFrom false [] cs

/-- A word cut into pieces of at most a width; `piece` holds the last one. -/
def chop (limit : Nat) (piece : List Char) : List Char → List (List Char)
  | [] => [piece]
  | c :: rest =>
    if limit < width piece + cellWidth c then piece :: chop limit [c] rest
    else chop limit (piece ++ [c]) rest

/-- Fills lines with words; `line` is the one that is being filled. -/
def fill (limit : Nat) (line : List Char) : List (List Char) → List (List Char)
  | [] => [line]
  | word :: rest =>
    let needed := width (dropTrailing isBlank word)
    if width line + needed ≤ limit then fill limit (line ++ word) rest
    else
      let before := if line.isEmpty then [] else [line]
      if limit < needed then
        let pieces := chop limit [] word
        before ++ pieces.dropLast ++ fill limit (pieces.getLastD []) rest
      else before ++ fill limit word rest

/-- A line broken into lines of at most a width. -/
def wrap (limit : Nat) (cs : List Char) : List (List Char) := fill limit [] (words cs)

end ServiceSchema.Text

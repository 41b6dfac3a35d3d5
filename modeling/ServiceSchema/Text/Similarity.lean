/-
Similarity of names.

Two texts are compared by the characters that they have in common: those of their
longest common block, and those that the parts before it and after it have in common
in turn. What is at least three fifths alike counts as similar.
-/
import ServiceSchema.Text.Case

set_option autoImplicit false

namespace ServiceSchema.Text

/-- The number of characters that two texts start with in common. -/
def sharedStart : List Char → List Char → Nat
  | a :: as, b :: bs => if a = b then sharedStart as bs + 1 else 0
  | _, _ => 0

/-- A block that two texts have in common: where it starts in each, and its length. -/
structure Block where
  first : Nat
  second : Nat
  length : Nat
deriving DecidableEq, Inhabited, Repr

/-- The longest common block, the earliest in the first text and then in the second one. -/
def longestBlock (as bs : List Char) : Block :=
  let blocks := (List.range as.length).flatMap fun i =>
    (List.range bs.length).map fun j => (⟨i, j, sharedStart (as.drop i) (bs.drop j)⟩ : Block)
  blocks.foldl (fun best b => if best.length < b.length then b else best) ⟨0, 0, 0⟩

/-- The number of characters that two texts have in common, block by block. The number bounds the
depth to which blocks are looked for. -/
def common : Nat → List Char → List Char → Nat
  | 0, _, _ => 0
  | depth + 1, as, bs =>
    let b := longestBlock as bs
    if b.length = 0 then 0
    else b.length + common depth (as.take b.first) (bs.take b.second)
      + common depth (as.drop (b.first + b.length)) (bs.drop (b.second + b.length))

/-- How alike two texts are: twice what they have in common, and their lengths together. -/
def likeness (s t : String) : Nat × Nat :=
  (2 * common s.length s.toList t.toList, s.length + t.length)

/-- Whether two texts are similar. -/
def similar (s t : String) : Bool :=
  let (shared, total) := likeness s t
  3 * total ≤ 5 * shared

/-- Whether the first candidate comes before the second one: it is more like the word, or comes later
in the order of texts. -/
def comesBefore (word : String) (s t : String) : Bool :=
  let (shared, total) := likeness s word
  let (shared', total') := likeness t word
  shared' * total < shared * total' || (shared * total' = shared' * total && t ≤ s)

/-- At most three candidates that are similar to a word, in the order of texts. -/
def suggestions (word : String) (candidates : List String) : List String :=
  -- the three most alike are chosen before they are put into order
  let best := ((candidates.filter (similar · word)).mergeSort (comesBefore word)).take 3
  best.mergeSort (fun s t => decide (s ≤ t))

/-- A text starts with all of itself. -/
theorem sharedStart_self (cs : List Char) : sharedStart cs cs = cs.length := by
  induction cs with
  | nil => rfl
  | cons c rest ih => simp [sharedStart, ih]

end ServiceSchema.Text

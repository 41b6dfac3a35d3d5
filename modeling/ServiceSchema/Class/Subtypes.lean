/-
Marking a class with its subtypes.

Subtypes are given in pairs of a name and a class, or by names of their own. The
pairs come first, and a name may occur more than once. A class that is marked needs
at least one subtype.
-/
import ServiceSchema.Annotation.Source

set_option autoImplicit false

namespace ServiceSchema

/-- Why a class cannot be marked with subtypes. -/
inductive SubtypeError where
  /-- An entry is no pair of a name and a class. -/
  | notPair (items : List Annotation)
  /-- There is no entry. -/
  | noEntry
deriving Inhabited

/-- The wording of a subtype error. -/
def SubtypeError.message (u : Universe) : SubtypeError → String
  | notPair items => "Subtype entries must be (name, class) pairs, got " ++ Annotation.tupleSource u items
  | noEntry => "json_subtypes() needs at least one subtype."

/-- The name that the first part of a pair gives: a text stands for itself. -/
def Annotation.asName (u : Universe) : Annotation → String
  | text s => s
  | member enumeration name => u.shortName enumeration ++ "." ++ name
  | a => a.source u

/-- The entry of a pair. -/
def subtypeEntry (u : Universe) : List Annotation → Except SubtypeError (String × Annotation)
  | [name, .cls id] => .ok (name.asName u, .cls id)
  | items => .error (.notPair items)

/-- The entries that pairs and names give, in this order. -/
def subtypeEntries (u : Universe) (pairs : List (List Annotation))
    (named : List (String × Annotation)) : Except SubtypeError (List (String × Annotation)) := do
  let entries := (← pairs.mapM (subtypeEntry u)) ++ named
  if entries.isEmpty then throw .noEntry else return entries

end ServiceSchema

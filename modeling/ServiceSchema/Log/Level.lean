/-
Levels of a log.

A level is a severity under a name. Events below the level of a log are not recorded;
a log without a level of its own takes the level of warnings.
-/
import ServiceSchema.Log.Event
import ServiceSchema.Text.Case
import ServiceSchema.Text.Quoted

set_option autoImplicit false

namespace ServiceSchema.Log

/-- No level: that of the surroundings counts. -/
def unset : Severity := 0

/-- The names of the levels. A level that goes by several names is shown under the first. -/
def levelNames : List (String × Severity) :=
  [("CRITICAL", critical), ("FATAL", critical), ("ERROR", error), ("WARNING", warning),
   ("WARN", warning), ("INFO", info), ("DEBUG", debug), ("NOTSET", unset)]

/-- The name that lines show for a severity. -/
def levelName (severity : Severity) : String :=
  match levelNames.find? (·.2 == severity) with
  | some (name, _) => name
  | none => "Level " ++ Nat.repr severity

/-- Why a text is no level: it stands for something else. -/
structure LevelError where
  value : String
deriving DecidableEq, Inhabited, Repr

/-- The wording of the error. -/
def LevelError.message (e : LevelError) : String := "Unknown level: " ++ Text.quoted e.value

/-- The words that stand for the form of a line, and what they stand for. -/
def formWords : List (String × String) :=
  [("BASIC_FORMAT", "%(levelname)s:%(name)s:%(message)s")]

/-- The level that a text asks for, in any case. A word that means nothing asks for the level of
ordinary information. -/
def levelOf (text : String) : Except LevelError Severity :=
  let word := Text.upper text
  match formWords.lookup word with
  | some form => .error ⟨form⟩
  | none => .ok ((levelNames.lookup word).getD info)

/-- The least severity that a log with a level records. -/
def threshold (level : Severity) : Severity := if level = unset then warning else level

/-- Every level but the lowest is its own threshold. -/
theorem threshold_of_ne {level : Severity} (h : level ≠ unset) : threshold level = level := by
  simp [threshold, h]

end ServiceSchema.Log

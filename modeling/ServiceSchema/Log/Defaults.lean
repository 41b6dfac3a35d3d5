/-
What a session assumes where nothing is asked for.

Level and directory come from the environment, under names that are taken as they
stand; an empty name of a directory counts as none.
-/
import ServiceSchema.Log.Journal
import ServiceSchema.Settings.Environment

set_option autoImplicit false

namespace ServiceSchema.Log

open Settings (Variables)

/-- The value of a variable whose name is taken as it stands. -/
def exactValue? (environment : Variables) (name : String) : Option String :=
  environment.reverse.lookup name

/-- The directory of log files; `home` is the home directory of the user. -/
def defaultDirectory (home : File.Path) (environment : Variables) : File.Path :=
  match (exactValue? environment "SCHEMADOC_LOG_DIR").filter (· ≠ "") with
  | some directory => .ofText directory
  | none => (home.child ".schemadoc").child "logs"

/-- The word for the level. -/
def defaultLevel (environment : Variables) : String :=
  (exactValue? environment "SCHEMADOC_LOG_LEVEL").getD "INFO"

/-- A request of which parts may be missing. -/
def Journal.Request.complete (home : File.Path) (environment : Variables) (level : Option String)
    (directory : Option File.Path) (console quiet : Bool) : Journal.Request where
  level := level.getD (defaultLevel environment)
  directory := directory.getD (defaultDirectory home environment)
  console
  quiet

end ServiceSchema.Log

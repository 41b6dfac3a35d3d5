/-
Sessions and the lines of their logs.

A session has a stamp: an identifier, and what the clock says. Its file is named for the
stamp. A line shows the time, the level, the identifier of a session, the source of the
event and its message; lines of files also show the place that reported it.
-/
import ServiceSchema.File.Path
import ServiceSchema.Log.Level

set_option autoImplicit false

namespace ServiceSchema.Log

/-- What distinguishes one session from another: what clock and chance say when it starts. -/
structure Stamp where
  /-- The identifier of the session. -/
  id : String
  /-- When the session starts, as the name of its file shows it. -/
  start : String
  /-- The time that lines show. -/
  time : String
  /-- The place in the program that lines of files show. -/
  place : String
deriving DecidableEq, Inhabited, Repr

/-- The name of the file of a session. -/
def Stamp.fileName (stamp : Stamp) : String :=
  "schemadoc_" ++ stamp.start ++ "_" ++ stamp.id ++ ".log"

/-- Where lines go. -/
inductive Outlet where
  | file (path : File.Path)
  | console
deriving DecidableEq, Inhabited, Repr

/-- A text followed by blanks up to a width. -/
def padTo (width : Nat) (s : String) : String :=
  s ++ String.ofList (List.replicate (width - s.length) ' ')

/-- The line of an event at an outlet; the tag is the identifier that it shows. -/
def Stamp.lineTagged (stamp : Stamp) (tag : String) (outlet : Outlet) (e : Event) : String :=
  let source := match outlet with
    | .file _ => e.source ++ ":" ++ stamp.place
    | .console => e.source
  String.intercalate " | " [stamp.time, padTo 8 (levelName e.severity), tag, source, e.message]

/-- The line of an event in a session. -/
def Stamp.line (stamp : Stamp) (outlet : Outlet) (e : Event) : String :=
  stamp.lineTagged stamp.id outlet e

/-- The text of lines, each of which ends in a line feed. -/
def textOfLines (lines : List String) : String := String.join (lines.map (· ++ "\n"))

end ServiceSchema.Log

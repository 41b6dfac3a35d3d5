/-
Reports on the generation of schemas.

A report is a group of events: the start of a run with what it works on, its end with
what came of it, and each schema that was emitted. Long schemas are cut.
-/
import ServiceSchema.Log.Event
import ServiceSchema.Number.Decimal

set_option autoImplicit false

namespace ServiceSchema.Log

/-- The rule that encloses a report. -/
def narrowRule : String := String.ofList (List.replicate 60 '-')

/-- The start of a run. -/
structure GenerationStart where
  /-- Where the specification comes from. -/
  source : String
  services : Int
  structs : Int
  enums : Int
deriving DecidableEq, Inhabited, Repr

/-- The lines of the report on the start of a run. -/
def GenerationStart.messages (r : GenerationStart) : List String :=
  [narrowRule, "GENERATION START", "  Source: " ++ r.source,
   "  Services: " ++ Number.integerText r.services, "  Structs: " ++ Number.integerText r.structs,
   "  Enums: " ++ Number.integerText r.enums, narrowRule]

/-- The end of a run. What is not known is left out. -/
structure GenerationEnd where
  source : String
  success : Bool
  schemas : Option Int := none
  /-- Where the schemas went. -/
  output : Option String := none
  /-- The seconds that the run took. -/
  duration : Option String := none
deriving DecidableEq, Inhabited, Repr

/-- The lines of the report on the end of a run. -/
def GenerationEnd.messages (r : GenerationEnd) : List String :=
  [narrowRule, "GENERATION " ++ (if r.success then "SUCCEEDED" else "FAILED"),
   "  Source: " ++ r.source]
    ++ (r.schemas.map fun n => "  Schemas: " ++ Number.integerText n).toList
    ++ ((r.output.filter (· ≠ "")).map fun o => "  Output: " ++ o).toList
    ++ (r.duration.map fun d => "  Duration: " ++ d ++ "s").toList
    ++ [narrowRule]

/-- The events of a report. -/
def reportEvents (source : String) (messages : List String) : List Event :=
  messages.map fun message => ⟨info, source, message⟩

/-! ## Schemas -/

/-- The first characters of a text; a negative number is that of the characters to leave out at the
end. -/
def leading (n : Int) (cs : List Char) : List Char :=
  if n < 0 then cs.take (cs.length - n.natAbs) else cs.take n.toNat

/-- A text of at most as many characters as the limit says; a longer one is cut and its length
noted. -/
def truncated (limit : Int) (text : String) : String :=
  if limit < text.length then
    String.ofList (leading limit text.toList) ++ "... [TRUNCATED, " ++ Nat.repr text.length
      ++ " chars total]"
  else text

/-- The length above which schemas are cut. -/
def schemaLimit : Int := 1500

/-- The event that shows a schema. -/
def schemaEvent (source id text : String) (limit : Int) : Event :=
  ⟨debug, source, "SCHEMA (" ++ id ++ "):\n" ++ truncated limit text⟩

end ServiceSchema.Log

/-
Loggers: what becomes of an event that a part of the program reports.

Each part reports under the name of a logger of its own. Names are hierarchies: a logger
lies below the one whose name stands in front of a point in its own name. Only the logger of
the program has handlers, and only what is reported below it reaches them. A handler writes
to one outlet what reaches its level. The filters of a logger put the identifier of a session
on what the logger itself reports; they do not see what is reported below it.
-/
import ServiceSchema.Json.Table
import ServiceSchema.Log.Session

set_option autoImplicit false

namespace ServiceSchema.Log

/-! ## Names -/

/-- The part of the program that all others belong to. -/
def rootSource : String := "schemadoc"

/-- The source of a name: a name that starts like the program stays as it is, any other one is a
part of the program. -/
def sourceOf (name : String) : String :=
  if rootSource.toList.isPrefixOf name.toList then name else rootSource ++ "." ++ name

/-- Whether the logger of the program is found above a name, which is read from its end.

The logger above a name is the one whose name stands in front of the last point; if there is none,
the one in front of the point before, and so on. This search never stops at a point that stands
directly in front of the point it comes from: it looks for the next one a character further on. -/
def leadsToRoot (known : List String) : Bool → List Char → Bool
  | _, [] => false
  | passes, c :: outer =>
    if c = '.' && !passes then
      let name := String.ofList outer.reverse
      name == rootSource || leadsToRoot known (!known.contains name) outer
    else leadsToRoot known false outer

/-- Whether what is reported under a name reaches the logger of the program, where `known` are the
names of the loggers that there are. -/
def isAttached (known : List String) (source : String) : Bool :=
  source == rootSource || leadsToRoot known false source.toList.reverse

/-! ## Handlers -/

/-- What writes events to an outlet. -/
structure Handler where
  outlet : Outlet
  /-- What is below this level is not written. -/
  level : Severity
deriving DecidableEq, Inhabited, Repr

/-- Whether a handler writes an event. -/
def Handler.accepts (h : Handler) (e : Event) : Bool := h.level ≤ e.severity

/-- The files of a log with a line added to one of them. -/
def appendLine (files : Table (List String)) (path : File.Path) (line : String) :
    Table (List String) :=
  files.set path.text ((files.get? path.text).getD [] ++ [line])

/-- Writes the line of an event, if it goes to a file. -/
def Handler.deliver (h : Handler) (e : Event) (line : String) (files : Table (List String)) :
    Table (List String) :=
  match h.outlet with
  | .file path => if h.accepts e then appendLine files path line else files
  | .console => files

/-- What is shown on the console when nothing handles an event: the message, if it is a warning or
more. -/
def unhandledLines (e : Event) : List String := if warning ≤ e.severity then [e.message] else []

/-! ## The logger of the program -/

/-- The logger of the program. -/
structure Logger where
  level : Severity := unset
  handlers : List Handler := []
  /-- The identifiers that filters put on what the logger itself reports; the last one counts. -/
  filters : List String := []
deriving DecidableEq, Inhabited, Repr

namespace Logger

/-- Removes a handler. -/
def removeHandler (l : Logger) (h : Handler) : Logger := { l with handlers := l.handlers.erase h }

/-- Removes a filter. -/
def removeFilter (l : Logger) (id : String) : Logger := { l with filters := l.filters.erase id }

/-- Removes all handlers and filters, one after another. -/
def cleared (l : Logger) : Logger :=
  let l := l.handlers.foldl removeHandler l
  l.filters.foldl removeFilter l

/-- Adds a handler. -/
def addHandler (l : Logger) (h : Handler) : Logger := { l with handlers := l.handlers ++ [h] }

/-- Adds a filter. -/
def addFilter (l : Logger) (id : String) : Logger := { l with filters := l.filters ++ [id] }

end Logger

end ServiceSchema.Log

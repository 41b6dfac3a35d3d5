/-
The journal: the log of the program with all its sessions.

A session starts with the directory for its file being made; then the logger of the program
loses the handlers and filters that it had and gets those of the session, a link in the
directory is led to the file, and the session reports its own start. A directory that stands
where the link should be stays, and the session reports that. Whatever is reported later goes
to the handlers that the logger has then.
-/
import ServiceSchema.File.Tree
import ServiceSchema.Log.Logger
import ServiceSchema.Text.Encoded

set_option autoImplicit false

namespace ServiceSchema.Log

/-- The log of the program. -/
structure Journal where
  /-- What was drawn for the latest session, if one was ever asked for. -/
  drawn : Option Stamp := none
  /-- The file of the latest session whose directory could be made. -/
  file : Option File.Path := none
  /-- Whether a session ever started as it was asked for. -/
  ready : Bool := false
  logger : Logger := {}
  /-- The names of the loggers that were asked for. -/
  known : List String := []
  /-- What was found for the first event of a source and a severity, since a session last set the
  level: whether such events are reported. -/
  judged : List ((String × Severity) × Bool) := []
  /-- The lines of the files of sessions, oldest first. -/
  files : Table (List String) := .empty
  /-- The files that the links of directories lead to. -/
  links : Table File.Path := .empty
deriving Inhabited

namespace Journal

/-! ## Events -/

/-- Whether an event reaches the logger of the program. -/
def isReached (j : Journal) (e : Event) : Bool := isAttached j.known e.source

/-- Whether events like this one are wanted. A logger that has no level takes that of the
logger above it; above the program, and above what does not belong to it, warnings are the least. -/
def isWanted (j : Journal) (e : Event) : Bool :=
  (if j.isReached e then threshold j.logger.level else warning) ≤ e.severity

/-- Whether an event is reported at all: what was found before about its source and severity stands,
even if a logger of another name has come between since. -/
def isEnabled (j : Journal) (e : Event) : Bool :=
  (j.judged.lookup (e.source, e.severity)).getD (j.isWanted e)

/-- The handlers that an event comes to. -/
def handlersOf (j : Journal) (e : Event) : List Handler :=
  if j.isReached e then j.logger.handlers else []

/-- The identifier that the lines of an event show: on what the logger of the program itself reports
that of its filters, and the one drawn last on everything else. -/
def tagOf (j : Journal) (e : Event) : String :=
  let latest := ((j.drawn.map (·.id)).filter (· ≠ "")).getD "N/A"
  if e.source = rootSource then j.logger.filters.getLast?.getD latest else latest

/-- The line of an event at an outlet. -/
def lineOf (j : Journal) (outlet : Outlet) (e : Event) : String :=
  (j.drawn.getD default).lineTagged (j.tagOf e) outlet e

/-- The files after an event was reported. -/
def filesAfter (j : Journal) (e : Event) : Table (List String) :=
  if j.isEnabled e then
    (j.handlersOf e).foldl (fun files h => h.deliver e (j.lineOf h.outlet e) files) j.files
  else j.files

/-- Reports an event. -/
def write (j : Journal) (e : Event) : Journal :=
  { j with
    judged := if (j.judged.lookup (e.source, e.severity)).isSome then j.judged
              else ((e.source, e.severity), j.isWanted e) :: j.judged
    files := j.filesAfter e }

/-- Reports events, oldest first. -/
def writeAll (j : Journal) (events : List Event) : Journal := events.foldl write j

/-- The lines that an event adds on the console. -/
def consoleLines (j : Journal) (e : Event) : List String :=
  if !j.isEnabled e then []
  else if (j.handlersOf e).isEmpty then unhandledLines e
  else (j.handlersOf e).flatMap fun h =>
    if h.outlet = .console ∧ h.accepts e then [j.lineOf .console e] else []

/-! ## Starting a session -/

/-- The name of the link to the file of the latest session. -/
def linkName : String := "schemadoc.log"

/-- What is asked of a session. -/
structure Request where
  level : String
  directory : File.Path
  /-- Whether lines go to the console too. -/
  console : Bool := false
  /-- Whether the console is kept quiet in any case. -/
  quiet : Bool := false
deriving DecidableEq, Inhabited, Repr

/-- The file of a session that is asked for. -/
def Request.file (r : Request) (stamp : Stamp) : File.Path := r.directory.child stamp.fileName

/-- The link to the file of the latest session in the directory. -/
def Request.link (r : Request) : File.Path := r.directory.child linkName

/-- The outlets that are asked for. -/
def Request.outlets (r : Request) (stamp : Stamp) : List Outlet :=
  .file (r.file stamp) :: if r.console && !r.quiet then [.console] else []

/-- Why a session cannot start. -/
inductive Fault where
  | directory (fault : File.Fault)
  | level (error : LevelError)
deriving DecidableEq, Inhabited, Repr

/-- An event of the log itself. -/
def ownEvent (severity : Severity) (message : String) : Event := ⟨severity, rootSource, message⟩

/-- The rule that encloses the start of a session. -/
def wideRule : String := String.ofList (List.replicate 80 '=')

/-- What a session reports when it starts, where the link may be blocked. -/
def openingEvents (stamp : Stamp) (r : Request) (blocked : Bool) : List Event :=
  (if blocked then [ownEvent debug ("Could not update " ++ r.link.text ++ " symlink")] else []) ++
    [wideRule, "schemadoc logging session started", "  Session ID: " ++ stamp.id,
     "  Log file: " ++ (r.file stamp).text, "  Log level: " ++ Text.upper r.level,
     wideRule].map (ownEvent info)

/-- The logger of the program as a session leaves it: it had to lose what it had before. -/
def fitted (l : Logger) (id : String) (level : Severity) (outlets : List Outlet) : Logger :=
  outlets.foldl (fun l outlet => l.addHandler ⟨outlet, level⟩) ({ l with level }.addFilter id)

/-- The outcome of an attempt to start a session. -/
structure Started where
  journal : Journal
  tree : File.Tree
  /-- What the session reports, oldest first. -/
  events : List Event := []
  fault : Option Fault := none
deriving Inhabited

/-- The log once the directory of a session is there: the logger of the program has lost what it had. -/
def cleared (j : Journal) (stamp : Stamp) (r : Request) : Journal :=
  { j with drawn := some stamp, file := some (r.file stamp), known := j.known.insert rootSource
           logger := j.logger.cleared }

/-- The log with a session for which the logger of the program was cleared; the link may be blocked. -/
def opened (j : Journal) (stamp : Stamp) (r : Request) (level : Severity) (blocked : Bool) : Journal :=
  { j with
    ready := true
    logger := fitted j.logger stamp.id level (r.outlets stamp)
    judged := []
    files := j.files.setNew (r.file stamp).text []
    links := if blocked then j.links else j.links.set r.directory.text (r.file stamp) }

/-- Starts a session. If its directory cannot be made, the logger stays as it is; if there is no such
level, it has lost its handlers and filters and gets no others. -/
def start (j : Journal) (tree : File.Tree) (stamp : Stamp) (r : Request) : Started :=
  match tree.makeDirectory r.directory with
  | .error fault =>
    { journal := { j with drawn := some stamp }, tree, fault := some (.directory fault) }
  | .ok tree =>
    let j := j.cleared stamp r
    match levelOf r.level with
    | .error e => { journal := j, tree, fault := some (.level e) }
    | .ok level =>
      -- a link replaces a file or a link, but not a directory
      let blocked := tree.isDirectory r.link
      let events := openingEvents stamp r blocked
      { journal := (j.opened stamp r level blocked).writeAll events, tree, events }

/-- The outcome with a logger noted. -/
def Started.noting (started : Started) (source : String) : Started :=
  { started with
    journal := { started.journal with known := started.journal.known.insert source } }

/-- Asks for the logger of a name. The first one that is asked for starts a session, unless there is
one, with what is standard. -/
def obtain (j : Journal) (tree : File.Tree) (stamp : Stamp) (standard : Request) (name : String) :
    Started :=
  let started := if j.ready then { journal := j, tree } else j.start tree stamp standard
  if started.fault.isSome then started else started.noting (sourceOf name)

/-! ## Reading -/

/-- The lines that the link in a directory leads to. Where a directory stands in its place, the
lines of the latest session are meant. -/
def read (j : Journal) (tree : File.Tree) (directory : File.Path) : List String :=
  let shown (text : String) : List String := (Text.splitLines text.toList).map String.ofList
  let linesOf (file : File.Path) : Option (List String) := j.files.get? file.text
  match (j.links.get? directory.text).bind linesOf with
  | some lines => shown (textOfLines lines)
  | none => match tree.find (directory.child linkName) with
    | .ok .directory => ((j.file.bind linesOf).map fun lines => shown (textOfLines lines)).getD []
    | .ok (.file content) => shown ((Text.decode? content).getD "")
    | .error _ => []

end Journal

end ServiceSchema.Log

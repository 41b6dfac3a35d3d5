/-
What a run that is refused leaves behind.

Most steps of a run touch neither the files nor the document output: they read, record events,
show lines or stop. Of the others, the log starts before the words after the verb are read, and
documents are delivered after everything that can be refused. So a run that ends in a refusal,
which is every stop but the end on request and the fault of a file that cannot be written, has
output nothing and has changed no more of the tree than the start of the log does.
-/
import ServiceSchema.Command.Program
import ServiceSchema.Proofs.Directories

set_option autoImplicit false

namespace ServiceSchema.Command

/-! ## Steps -/

namespace Run

variable {α β : Type} {around : Surroundings} {t : Transcript}

/-- How a part of a run ends, and the transcript that it leaves. -/
def after (x : Run α) (around : Surroundings) (t : Transcript) : Except Stop α × Transcript :=
  (x.run around).run.run t

@[simp] theorem after_pure (a : α) : (pure a : Run α).after around t = (.ok a, t) := rfl

@[simp] theorem after_throw (stop : Stop) :
    (throw stop : Run α).after around t = (.error stop, t) := rfl

@[simp] theorem after_read : (read : Run Surroundings).after around t = (.ok around, t) := rfl

@[simp] theorem after_get : (get : Run Transcript).after around t = (.ok t, t) := rfl

@[simp] theorem after_set (t' : Transcript) :
    (set t' : Run PUnit).after around t = (.ok ⟨⟩, t') := rfl

@[simp] theorem after_files : files.after around t = (.ok t.tree, t) := rfl

/-- A part of a run that stops ends the run; otherwise the run goes on where the part ended. -/
theorem after_bind (x : Run α) (f : α → Run β) :
    (x >>= f).after around t =
      match x.after around t with
      | (.ok a, t') => (f a).after around t'
      | (.error stop, t') => (.error stop, t') := by
  simp only [after, ReaderT.run_bind, ExceptT.run_bind, StateT.run_bind]
  rcases (x.run around).run.run t with ⟨result, t'⟩
  cases result <;> rfl

end Run

/-! ## Refusals -/

/-- The ways to stop that refuse what was asked for: a misuse of the command line, a failure that
can be expected, and a fault of the settings, the log, the file or the classes. What is left are a
file that cannot be written, documents that cannot be put out and an end on request. -/
def Stop.isRefusal : Stop → Bool
  | misuse _ _ | failure _ => true
  | fault (.file _) | fault (.output _) | exit _ => false
  | fault _ => true

/-- Transcripts with the same files and the same document output. -/
def Transcript.Agrees (t t' : Transcript) : Prop := t'.tree = t.tree ∧ t'.output = t.output

theorem Transcript.agrees_refl (t : Transcript) : t.Agrees t := ⟨rfl, rfl⟩

theorem Transcript.Agrees.trans {t t' t'' : Transcript} (h : t.Agrees t') (h' : t'.Agrees t'') :
    t.Agrees t'' :=
  ⟨h'.1.trans h.1, h'.2.trans h.2⟩

namespace Run

variable {α β : Type}

/-- A part of a run that touches neither the files nor the document output. -/
def Quiet (x : Run α) : Prop :=
  ∀ (around : Surroundings) (t : Transcript), t.Agrees (x.after around t).2

/-- A part of a run that has touched neither the files nor the document output when it refuses. -/
def Careful (x : Run α) : Prop :=
  ∀ around t stop t', x.after around t = (.error stop, t') → stop.isRefusal = true → t.Agrees t'

/-- A part of a run that refuses nothing. -/
def Willing (x : Run α) : Prop :=
  ∀ around t stop t', x.after around t = (.error stop, t') → stop.isRefusal = false

theorem Quiet.careful {x : Run α} (h : Quiet x) : Careful x := by
  intro around t stop t' hend _
  have hagrees := h around t
  rwa [hend] at hagrees

theorem Willing.careful {x : Run α} (h : Willing x) : Careful x := by
  intro around t stop t' hend hrefusal
  rw [h around t stop t' hend] at hrefusal
  cases hrefusal

/-! ### Sequences -/

/-- How a sequence ends: in its first part, or in the second after it. -/
theorem after_bind_cases {x : Run α} {f : α → Run β} {around : Surroundings}
    {t t' : Transcript} {result : Except Stop β} (h : (x >>= f).after around t = (result, t')) :
    (∃ stop, x.after around t = (.error stop, t') ∧ result = .error stop) ∨
    ∃ a t₁, x.after around t = (.ok a, t₁) ∧ (f a).after around t₁ = (result, t') := by
  rw [after_bind] at h
  rcases hx : x.after around t with ⟨first, t₁⟩
  cases first with
  | error stop =>
    simp only [hx, Prod.mk.injEq] at h
    obtain ⟨rfl, rfl⟩ := h
    exact .inl ⟨stop, rfl, rfl⟩
  | ok a =>
    rw [hx] at h
    exact .inr ⟨a, t₁, rfl, h⟩

theorem Quiet.bind {x : Run α} {f : α → Run β} (hx : Quiet x) (hf : ∀ a, Quiet (f a)) :
    Quiet (x >>= f) := by
  intro around t
  have hagrees := hx around t
  rcases hend : (x >>= f).after around t with ⟨result, t'⟩
  rcases after_bind_cases hend with ⟨stop, hx', -⟩ | ⟨a, t₁, hx', hf'⟩
  · rwa [hx'] at hagrees
  · have hrest := hf a around t₁
    rw [hx'] at hagrees
    rw [hf'] at hrest
    exact hagrees.trans hrest

theorem Quiet.bind_careful {x : Run α} {f : α → Run β} (hx : Quiet x) (hf : ∀ a, Careful (f a)) :
    Careful (x >>= f) := by
  intro around t stop t' hend hrefusal
  have hagrees := hx around t
  rcases after_bind_cases hend with ⟨stop', hx', -⟩ | ⟨a, t₁, hx', hend⟩
  · rwa [hx'] at hagrees
  · rw [hx'] at hagrees
    exact hagrees.trans (hf a around t₁ stop t' hend hrefusal)

theorem Willing.bind {x : Run α} {f : α → Run β} (hx : Willing x) (hf : ∀ a, Willing (f a)) :
    Willing (x >>= f) := by
  intro around t stop t' hend
  rcases after_bind_cases hend with ⟨stop', hx', hstop⟩ | ⟨a, t₁, -, hend⟩
  · obtain rfl := Except.error.inj hstop
    exact hx around t stop t' hx'
  · exact hf a around t₁ stop t' hend

/-! ### Single steps -/

theorem quiet_pure (a : α) : Quiet (pure a : Run α) := fun _ t => t.agrees_refl

theorem quiet_throw (stop : Stop) : Quiet (throw stop : Run α) := fun _ t => t.agrees_refl

theorem quiet_throw_bind (stop : Stop) (f : α → Run β) : Quiet (throw stop >>= f) :=
  fun _ t => t.agrees_refl

theorem quiet_read : Quiet (read : Run Surroundings) := fun _ t => t.agrees_refl

theorem quiet_get : Quiet (get : Run Transcript) := fun _ t => t.agrees_refl

theorem quiet_files : Quiet files := fun _ t => t.agrees_refl

theorem quiet_tell (lines : List String) : Quiet (tell lines) := fun _ _ => ⟨rfl, rfl⟩

theorem quiet_record (e : Log.Event) : Quiet (record e) := fun _ _ => ⟨rfl, rfl⟩

theorem willing_pure (a : α) : Willing (pure a : Run α) := fun _ _ _ _ h => nomatch h

theorem willing_files : Willing files := fun _ _ _ _ h => nomatch h

theorem willing_modify (f : Transcript → Transcript) : Willing (modify f : Run PUnit) :=
  fun _ _ _ _ h => nomatch h

theorem willing_tell (lines : List String) : Willing (tell lines) := willing_modify _

theorem willing_record (e : Log.Event) : Willing (record e) := willing_modify _

theorem willing_emit (text : String) : Willing (emit text) := willing_modify _

/-- That a file cannot be written is no refusal. -/
theorem willing_fault (f : File.Fault) : Willing (throw (.fault (.file f)) : Run α) := by
  intro around t stop t' h
  rw [after_throw] at h
  obtain rfl := Except.error.inj (Prod.mk.inj h).1
  rfl

theorem recordAll_cons (e : Log.Event) (events : List Log.Event) :
    recordAll (e :: events) = (do record e; recordAll events) := rfl

theorem quiet_recordAll (events : List Log.Event) : Quiet (recordAll events) := by
  induction events with
  | nil => exact quiet_pure _
  | cons e events ih =>
    rw [recordAll_cons]
    exact (quiet_record e).bind fun _ => ih

theorem willing_recordAll (events : List Log.Event) : Willing (recordAll events) := by
  induction events with
  | nil => exact willing_pure _
  | cons e events ih =>
    rw [recordAll_cons]
    exact (willing_record e).bind fun _ => ih

/-- A computation that reports events only records them. -/
theorem quiet_ofTraced (x : Log.Traced Stop α) : Quiet (ofTraced x) := by
  unfold ofTraced
  refine (quiet_recordAll x.events).bind fun _ => ?_
  cases x.outcome with
  | ok a => exact quiet_pure a
  | error stop => exact quiet_throw stop

/-- That a value cannot be put out is no refusal either. -/
theorem willing_orOutputFault (x : Except Schema.OutputFault α) : Willing (orOutputFault x) := by
  cases x with
  | ok a => exact willing_pure a
  | error f =>
    intro around t stop t' h
    obtain rfl := Except.error.inj (Prod.mk.inj h).1
    rfl

/-- The only faults of writing a file are that it cannot be written and that the text cannot be
encoded. -/
theorem willing_writeFile (path : File.Path) (text : String) : Willing (writeFile path text) := by
  refine Willing.bind willing_files fun tree => ?_
  cases tree.makeDirectory path.parent with
  | error f => exact willing_fault f
  | ok made =>
    refine Willing.bind (willing_modify _) fun _ => ?_
    cases made.write path ((encoded text).toOption.getD .empty) with
    | error f => exact willing_fault f
    | ok written =>
      exact (willing_modify _).bind fun _ => (willing_orOutputFault _).bind fun _ => willing_pure _

theorem willing_deliver (path : Option File.Path) (text : String) :
    Willing (deliver path text) := by
  cases path with
  | none => exact (willing_orOutputFault _).bind fun _ => willing_emit text
  | some path => exact (willing_writeFile path text).bind fun _ => willing_tell _

end Run

/-! ## Verbs -/

open Run

theorem quiet_orMisuse {α : Type} (verb : Option Verb) (x : Except Misuse α) :
    Quiet (orMisuse verb x) := by
  cases x with
  | ok a => exact quiet_pure a
  | error m => exact quiet_throw _

/-- **Generation writes nothing that it could still refuse**: what can be refused comes before the
delivery, and neither the delivery nor what follows it refuses anything. -/
theorem careful_generate (settings : Settings) (a : Arguments) : Careful (generate settings a) := by
  refine quiet_read.bind_careful fun around => quiet_files.bind_careful fun tree =>
    (quiet_ofTraced _).bind_careful fun ready => Willing.careful ?_
  exact (willing_orOutputFault _).bind fun _ => (willing_deliver _ _).bind fun _ =>
    (willing_recordAll _).bind fun _ => willing_tell _

theorem careful_writeDefinitions (settings : Settings) (a : Arguments) :
    Careful (writeDefinitions settings a) :=
  quiet_read.bind_careful fun _ => quiet_files.bind_careful fun _ =>
    (quiet_ofTraced _).bind_careful fun _ =>
      ((willing_orOutputFault _).bind fun _ => willing_deliver _ _).careful

theorem quiet_validate (a : Arguments) : Quiet (validate a) := by
  refine quiet_read.bind fun around => quiet_files.bind fun tree =>
    (quiet_ofTraced _).bind fun spec => (quiet_tell _).bind fun _ => (quiet_tell _).bind fun _ => ?_
  split
  · exact quiet_throw _
  · exact quiet_pure _

theorem quiet_showSettings (settings : Settings) : Quiet (showSettings settings) :=
  quiet_get.bind fun _ => quiet_tell _

theorem careful_perform (settings : Settings) (a : Arguments) (verb : Verb) :
    Careful (perform settings a verb) := by
  cases verb with
  | generate => exact careful_generate settings a
  | definitions => exact careful_writeDefinitions settings a
  | validate => exact (quiet_validate a).careful
  | config => exact (quiet_showSettings settings).careful

/-- Help ends the run. -/
theorem after_writeHelp {α : Type} (verb : Option Verb) (around : Surroundings) (t : Transcript) :
    (writeHelp verb : Run α).after around t =
      (.error (.exit 0), { t with
        output :=
          t.output ++ String.join ((helpLines around.program verb).map (· ++ "\n")) }) := rfl

/-- What comes after the start of the log: the words after the verb, and what the verb does. -/
def runRest (settings : Settings) (verb : Verb) (words : List String) : Run Unit := do
  let scanned ← orMisuse (some verb) (scan verb.switches true words)
  if scanned.given.any (·.1 == .help) then writeHelp (some verb)
  perform settings (← orMisuse (some verb) (Arguments.ofScanned (← Run.files) verb scanned)) verb

theorem runVerb_eq (verb : Verb) (words : List String) (verbose : Bool) :
    runVerb verb words verbose = (do
      let settings ← loadSettings
      Run.startLog
        { level := settings.logLevel, directory := settings.logDirectory, console := verbose }
      runRest settings verb words) := rfl

/-- Help is not followed by anything, so it does no harm that it is output. -/
theorem careful_writeHelp_bind {α β : Type} (verb : Option Verb) (f : α → Run β) :
    Careful (writeHelp verb >>= f) := by
  intro around t stop t' h hrefusal
  rw [after_bind, after_writeHelp] at h
  obtain rfl := Except.error.inj (Prod.mk.inj h).1
  cases hrefusal

theorem careful_runRest (settings : Settings) (verb : Verb) (words : List String) :
    Careful (runRest settings verb words) := by
  refine (quiet_orMisuse _ _).bind_careful fun scanned => ?_
  dsimp only
  split
  · exact careful_writeHelp_bind _ _
  · refine quiet_files.bind_careful fun tree => (quiet_orMisuse _ _).bind_careful fun a => ?_
    exact careful_perform settings a verb

theorem quiet_loadSettings : Quiet loadSettings := by
  refine quiet_read.bind fun around => quiet_files.bind fun tree => ?_
  cases Settings.load around.home tree around.environment [] with
  | valid settings => exact quiet_pure settings
  | invalid details => exact quiet_throw _

/-! ## The start of the log -/

/-- A session starts in a directory that is made for it, unless it cannot be made. -/
theorem tree_start (j : Log.Journal) (tree : File.Tree) (stamp : Log.Stamp)
    (r : Log.Journal.Request) :
    (j.start tree stamp r).tree = tree ∨
      tree.makeDirectory r.directory = .ok (j.start tree stamp r).tree := by
  unfold Log.Journal.start
  cases tree.makeDirectory r.directory with
  | error f => exact .inl rfl
  | ok made =>
    right
    dsimp only
    split <;> rfl

/-- What the start of the log makes of a tree: the directory of the log, if it gets that far. -/
def LogDirectoryMade (around : Surroundings) (tree tree' : File.Tree) : Prop :=
  tree' = tree ∨ ∃ settings,
    Settings.load around.home tree around.environment [] = .valid settings ∧
    tree.makeDirectory settings.logDirectory = .ok tree'

theorem after_startLog (r : Log.Journal.Request) (around : Surroundings) (t : Transcript) :
    ((startLog r).after around t).2.tree = (t.journal.start t.tree around.stamp r).tree ∧
      ((startLog r).after around t).2.output = t.output := by
  unfold startLog
  simp only [after_bind, after_get, after_read, after_set]
  split <;> exact ⟨rfl, rfl⟩

theorem loadSettings_eq_ok {around : Surroundings} {t t' : Transcript} {settings : Settings}
    (h : loadSettings.after around t = (.ok settings, t')) :
    Settings.load around.home t.tree around.environment [] = .valid settings ∧ t' = t := by
  simp only [loadSettings, after_bind, after_read, after_files] at h
  cases hload : Settings.load around.home t.tree around.environment [] with
  | valid loaded =>
    simp only [hload, after_pure, Prod.mk.injEq, Except.ok.injEq] at h
    obtain ⟨rfl, rfl⟩ := h
    exact ⟨rfl, rfl⟩
  | invalid details =>
    simp only [hload, after_throw, Prod.mk.injEq, reduceCtorEq, false_and] at h

/-- A part of a run that has at most started the log when it refuses. -/
def Contained {α : Type} (x : Run α) : Prop :=
  ∀ around t stop t', x.after around t = (.error stop, t') → stop.isRefusal = true →
    t'.output = t.output ∧ LogDirectoryMade around t.tree t'.tree

theorem contained_of_careful {α : Type} {x : Run α} (h : Careful x) : Contained x := by
  intro around t stop t' hend hrefusal
  obtain ⟨htree, houtput⟩ := h around t stop t' hend hrefusal
  exact ⟨houtput, .inl htree⟩

theorem contained_bind {α β : Type} {x : Run α} {f : α → Run β} (hx : Quiet x)
    (hf : ∀ a, Contained (f a)) : Contained (x >>= f) := by
  intro around t stop t' hend hrefusal
  have hagrees := hx around t
  rcases after_bind_cases hend with ⟨stop', hx', -⟩ | ⟨a, t₁, hx', hend⟩
  · rw [hx'] at hagrees
    exact ⟨hagrees.2, .inl hagrees.1⟩
  · rw [hx'] at hagrees
    have hrest := hf a around t₁ stop t' hend hrefusal
    rwa [hagrees.1, hagrees.2] at hrest

/-- A verb starts the log once its settings are there, and is careful from then on. -/
theorem contained_runVerb (verb : Verb) (words : List String) (verbose : Bool) :
    Contained (runVerb verb words verbose) := by
  intro around t stop t' hend hrefusal
  rw [runVerb_eq] at hend
  rcases after_bind_cases hend with ⟨stop', hload, -⟩ | ⟨settings, t₁, hload, hloaded⟩
  · have hagrees := quiet_loadSettings around t
    rw [hload] at hagrees
    exact ⟨hagrees.2, .inl hagrees.1⟩
  · obtain ⟨hvalid, rfl⟩ := loadSettings_eq_ok hload
    have hstarted (t₂ : Transcript) (result : Except Stop Unit)
        (hlog : (startLog { level := settings.logLevel, directory := settings.logDirectory
                            console := verbose }).after around t₁ = (result, t₂)) :
        t₂.output = t₁.output ∧ LogDirectoryMade around t₁.tree t₂.tree := by
      obtain ⟨htree, houtput⟩ := after_startLog { level := settings.logLevel
                                                  directory := settings.logDirectory
                                                  console := verbose } around t₁
      rw [hlog] at htree houtput
      refine ⟨houtput, (htree ▸ tree_start _ _ _ _).imp id fun hmade => ?_⟩
      exact ⟨settings, hvalid, hmade⟩
    rcases after_bind_cases hloaded with ⟨stop', hlog, -⟩ | ⟨_, t₂, hlog, hrest⟩
    · exact hstarted t' _ hlog
    · obtain ⟨houtput, htree⟩ := hstarted t₂ _ hlog
      obtain ⟨htree', houtput'⟩ :=
        careful_runRest settings verb words around t₂ stop t' hrest hrefusal
      exact ⟨houtput'.trans houtput, htree' ▸ htree⟩

theorem quiet_readVerb (word : String) : Quiet (readVerb word) := by
  unfold readVerb
  split
  · exact quiet_pure _
  · exact quiet_throw _

/-- **A run that refuses has output nothing, and has at most started the log.** -/
theorem contained_runWords (words : List String) : Contained (runWords words) := by
  unfold runWords
  dsimp only
  split
  · refine contained_bind quiet_read fun around => contained_bind (quiet_tell _) fun _ =>
      contained_of_careful (quiet_throw_bind _ _).careful
  · refine contained_bind (quiet_orMisuse _ _) fun scanned => ?_
    split
    · exact contained_bind (quiet_tell _) fun _ => contained_of_careful (quiet_throw _).careful
    · exact contained_of_careful (careful_writeHelp_bind none pure)
    · split
      · exact contained_of_careful (quiet_throw _).careful
      · exact contained_bind (quiet_readVerb _) fun verb => contained_runVerb verb _ _

end ServiceSchema.Command

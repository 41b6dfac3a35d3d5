/-
Checking a specification and generating from it strictly come to one verdict.

One verb counts the defects and sets the exit code, the other stops at the error of the strict
generation. Both start from the same settings and the same log, tell their words apart and load
the file in the same way, so neither ends well unless the file holds a specification without
defective references and names. The check then ends well; the generation still has to put the
documents out, and their text may be none that can be encoded, or none that can be made.
-/
import ServiceSchema.Proofs.CommandRuns
import ServiceSchema.Proofs.Outcomes
import ServiceSchema.Proofs.References

set_option autoImplicit false

namespace ServiceSchema.Command

open Run

/-! ## Exit codes -/

/-- The exit code that a result amounts to. -/
def codeOf {α : Type} : Except Stop α → Nat
  | .ok _ => 0
  | .error stop => stop.code

/-- The outcome of a command line is the end of its run. -/
theorem execute_eq (around : Surroundings) (tree : File.Tree) (words : List String) :
    execute around tree words =
      match (runWords words).after around { tree } with
      | (.ok (), t) => { exitCode := 0, transcript := t }
      | (.error stop, t) => .ofStop around.program stop t := rfl

theorem execute_exitCode (around : Surroundings) (tree : File.Tree) (words : List String) :
    (execute around tree words).exitCode = codeOf ((runWords words).after around { tree }).1 := by
  rw [execute_eq]
  rcases (runWords words).after around { tree } with ⟨result, t⟩
  cases result <;> rfl

/-- Whether a run ends in a refusal. -/
def isRefused : Except Stop Unit → Bool
  | .ok _ => false
  | .error stop => stop.isRefusal

/-- An end of a run that is no refusal. -/
def Unrefused (good : Except Stop Unit → Prop) : Prop :=
  ∀ stop : Stop, stop.isRefusal = true → ¬ good (.error stop)

theorem code_of_isRefusal {stop : Stop} (h : stop.isRefusal = true) : stop.code ≠ 0 := by
  cases stop with
  | exit code => cases h
  | _ => simp [Stop.code]

theorem unrefused_code_eq_zero : Unrefused fun result => codeOf result = 0 :=
  fun _ hstop => code_of_isRefusal hstop

theorem unrefused_eq_outputFault (fault : Schema.OutputFault) :
    Unrefused (· = .error (.fault (.output fault))) := by
  rintro stop hstop ⟨⟩
  cases hstop

section Steps

variable {α β : Type} {around : Surroundings} {t t' : Transcript}

/-- A part of a run that ends well is followed by the rest. -/
theorem after_bind_of_ok {x : Run α} {a : α} (hx : x.after around t = (.ok a, t'))
    (f : α → Run β) : (x >>= f).after around t = (f a).after around t' := by
  rw [after_bind, hx]

theorem after_bind_of_error {x : Run α} {stop : Stop} (hx : x.after around t = (.error stop, t'))
    (f : α → Run β) : (x >>= f).after around t = (.error stop, t') := by
  rw [after_bind, hx]

theorem after_recordAll (around : Surroundings) (t : Transcript) (events : List Log.Event) :
    ∃ t', (recordAll events).after around t = (.ok (), t') ∧ t'.tree = t.tree := by
  refine ⟨((recordAll events).after around t).2, ?_, (quiet_recordAll events around t).1⟩
  induction events generalizing t with
  | nil => rfl
  | cons e events ih =>
    rw [recordAll_cons, after_bind_of_ok (x := record e) rfl]
    exact ih _

/-- A report at the end does not keep a run from ending well. -/
theorem result_recordAll_tell (events : List Log.Event) (lines : List String) :
    ((recordAll events >>= fun _ => tell lines).after around t).1 = .ok () := by
  obtain ⟨t', hrecord, -⟩ := after_recordAll around t events
  rw [after_bind_of_ok hrecord]
  rfl

/-- A computation that reports events leaves its result, and the files as they are. -/
theorem after_ofTraced (around : Surroundings) (t : Transcript) (x : Log.Traced Stop α) :
    ∃ t', (ofTraced x).after around t = (x.outcome, t') ∧ t'.tree = t.tree := by
  obtain ⟨t', hrecord, htree⟩ := after_recordAll around t x.events
  refine ⟨t', ?_, htree⟩
  rw [ofTraced, after_bind_of_ok hrecord]
  cases x.outcome <;> rfl

end Steps

/-! ## Files that hold a sound specification -/

/-- A file holds a specification without defective references and names. -/
structure Holds (around : Surroundings) (tree : File.Tree) (file : String) (spec : Specification) :
    Prop where
  exists_file : ∃ content, leadsTo? tree file = some (.file content)
  load : loadFile tree (.ofText file) around.reader = .ok spec
  sound : spec.validate = .ok ()

theorem isRefusal_ofLoad (e : FileLoadError) : (Stop.ofLoad e).isRefusal = true := by
  cases e with
  | text error => cases error <;> rfl
  | _ => rfl

/-- That a file cannot be loaded is a refusal. -/
theorem isRefusal_of_loadFile {tree : File.Tree} {path : File.Path} {reader : Yaml.Reader}
    {stop : Stop} (h : loadFile tree path reader = .error stop) : stop.isRefusal = true := by
  obtain ⟨cause, -, rfl⟩ := Except.mapError_eq_error.1 h
  exact isRefusal_ofLoad cause

/-- The text in which a value is put out. -/
def putOut (around : Surroundings) (settings : Settings) (a : Arguments) (value : Json) :
    Except Schema.OutputFault String := do
  let text ← layout around settings a value
  let _ ← encoded text
  return text

/-- What is put out does not depend on where it comes from. -/
theorem putOut_file (around : Surroundings) (settings : Settings) (a : Arguments)
    (file : Option File.Path) (value : Json) :
    putOut around settings { a with file } value = putOut around settings a value := rfl

/-- How a run ends that puts a value out. -/
def outputResult {α : Type} : Except Schema.OutputFault α → Except Stop Unit
  | .ok _ => .ok ()
  | .error fault => .error (.fault (.output fault))

variable {around : Surroundings} {t : Transcript} {path : File.Path} {a : Arguments}

/-- The check ends well exactly if the file is loaded and the specification has no defects. -/
theorem code_validate_eq_zero_iff (hfile : a.file = some path) :
    codeOf ((validate a).after around t).1 = 0 ↔
      ∃ spec, loadFile t.tree path around.reader = .ok spec ∧ spec.validate = .ok () := by
  obtain ⟨t', hload, -⟩ := after_ofTraced around t
    (.ofExcept (loadFile t.tree path around.reader))
  unfold validate
  rw [after_bind_of_ok after_read, after_bind_of_ok after_files, hfile, Option.getD_some]
  cases hspec : loadFile t.tree path around.reader with
  | error stop =>
    rw [hspec] at hload
    rw [after_bind_of_error hload]
    simp [codeOf, code_of_isRefusal (isRefusal_of_loadFile hspec)]
  | ok spec =>
    rw [hspec] at hload
    rw [after_bind_of_ok hload, after_bind_of_ok (x := tell _) rfl,
      after_bind_of_ok (x := tell _) rfl]
    simp only [Except.ok.injEq, exists_eq_left', Specification.validate_eq_ok]
    by_cases hsound : spec.unresolvedReferences = [] ∧ spec.duplicateNames = []
    · simp [hsound, codeOf]
    · have hdefects :
          (!spec.unresolvedReferences.isEmpty || !spec.duplicateNames.isEmpty) = true := by
        rw [not_and_or] at hsound
        simpa [List.isEmpty_iff] using hsound
      rw [if_pos hdefects]
      simp [hsound, codeOf, Stop.code]

theorem outcome_specificationOf {u : Universe} {tree : File.Tree} {verb : Verb}
    {reader : Yaml.Reader} (hfile : a.file = some path) (htargets : a.targets = []) :
    (specificationOf u tree verb a reader).outcome =
      (loadFile tree path reader).map fun spec => (spec, path.text) := by
  unfold specificationOf
  rw [hfile, htargets]
  cases hload : loadFile tree path reader <;>
    simp [Log.Traced.outcome_bind, Log.Traced.ofExcept, hload] <;> rfl

theorem outcome_documentsOf (spec : Specification) (source : String) :
    (documentsOf spec source true).outcome =
      (Schema.generateStrict spec).mapError fun e => .failure (.references e) := by
  unfold documentsOf
  simp only [if_true]
  cases Schema.generateStrict spec <;> rfl

/-- What the strict generation of all documents prepares: the documents, unless the file cannot be
loaded or has defects. -/
theorem outcome_prepare {u : Universe} {tree : File.Tree} {settings : Settings}
    {reader : Yaml.Reader} (hfile : a.file = some path) (htargets : a.targets = [])
    (hmethods : a.methods = []) (hstrict : a.strict = some true) :
    (prepare u tree settings a reader).outcome = (do
      let spec ← loadFile tree path reader
      let documents ← (Schema.generateStrict spec).mapError fun e => .failure (.references e)
      return { source := path.text, documents }) := by
  unfold prepare
  rw [Log.Traced.outcome_bind, outcome_specificationOf hfile htargets, hstrict, hmethods]
  cases loadFile tree path reader with
  | error stop => rfl
  | ok spec =>
    -- the reports and the choice among all methods leave the documents as they are
    simp only [Except.map, Log.Traced.outcome_bind, outcome_documentsOf,
      Option.getD_some, List.isEmpty_nil, Bool.not_true, Bool.false_and]
    cases Schema.generateStrict spec <;> rfl

theorem after_deliver (text : String) :
    (deliver none text).after around t =
      match encoded text with
      | .ok _ => (.ok (), { t with output := t.output ++ text })
      | .error fault => (.error (.fault (.output fault)), t) := by
  rw [deliver]
  cases encoded text <;> rfl

/-- Putting a value out to the document output ends well unless its text cannot be made or encoded;
what follows it does not change that. -/
theorem result_deliver {settings : Settings} {value : Json} {events : List Log.Event}
    {lines : List String} :
    ((do
      let text ← orOutputFault (layout around settings a value)
      deliver none text
      recordAll events
      tell lines : Run Unit).after around t).1 = outputResult (putOut around settings a value) := by
  rw [putOut]
  cases layout around settings a value with
  | error fault => rfl
  | ok text =>
    rw [after_bind_of_ok (x := orOutputFault _) rfl, after_bind, after_deliver]
    change _ = outputResult (encoded text >>= fun _ => Except.ok text)
    cases encoded text with
    | error fault => rfl
    | ok bytes => exact result_recordAll_tell events lines

/-- The strict generation of all documents to the output comes to an end without a refusal if the
file is loaded and has no defects: it ends as putting the documents out ends. -/
theorem result_generate_iff {settings : Settings} {good : Except Stop Unit → Prop}
    (hgood : Unrefused good) (hfile : a.file = some path) (htargets : a.targets = [])
    (houtput : a.output = none) (hmethods : a.methods = []) (hstrict : a.strict = some true) :
    good ((generate settings a).after around t).1 ↔
      ∃ spec, loadFile t.tree path around.reader = .ok spec ∧ spec.validate = .ok () ∧
        good (outputResult
          (putOut around settings a (Schema.documentsJson (Schema.generate spec)))) := by
  obtain ⟨t', hready, -⟩ := after_ofTraced around t
    (prepare around.classes t.tree settings a around.reader)
  rw [outcome_prepare hfile htargets hmethods hstrict] at hready
  unfold generate
  rw [after_bind_of_ok after_read, after_bind_of_ok after_files]
  cases hspec : loadFile t.tree path around.reader with
  | error stop =>
    rw [hspec] at hready
    rw [after_bind_of_error hready]
    simp [hgood stop (isRefusal_of_loadFile hspec)]
  | ok spec =>
    simp only [Except.ok.injEq, exists_eq_left']
    cases hstrictly : Schema.generateStrict spec with
    | error e =>
      have hdefects : spec.validate ≠ .ok () := by
        intro hsound
        cases hstrictly.symm.trans (Schema.generateStrict_eq_ok.2 ⟨hsound, rfl⟩)
      rw [hspec] at hready
      simp only [bind, Except.bind, hstrictly, Except.mapError] at hready
      rw [after_bind_of_error hready]
      simp [hgood (.failure (.references e)) rfl, hdefects]
    | ok documents =>
      obtain ⟨hsound, hdocuments⟩ := Schema.generateStrict_eq_ok.1 hstrictly
      rw [hspec] at hready
      simp only [bind, Except.bind, hstrictly, Except.mapError] at hready
      rw [after_bind_of_ok hready, houtput]
      simp only [result_deliver, hsound, true_and, hdocuments]

/-! ## Words -/

/-- After nothing but the switch that shows the log, the words name a verb, followed by others. -/
def AsksFor (verb : Verb) (words rest : List String) : Prop :=
  ∃ lead, scan Switch.leading false words = .ok ⟨lead, verb.word :: rest⟩ ∧
    ∀ s ∈ lead, s.1 = .verbose

/-- The words ask for the check of a file. -/
def Validates (words : List String) (file : String) : Prop :=
  ∃ rest, AsksFor .validate words rest ∧ scan Verb.validate.switches true rest = .ok ⟨[], [file]⟩

/-- The switches for strictness and for the layout of the output. -/
def plainSwitches : List Switch := [.strict, .lenient, .format, .indent]

/-- Switches that ask for strict checks, and apart from the layout of the output for nothing
else. -/
structure StrictSwitches (given : List (Switch × String)) : Prop where
  plain : ∀ s ∈ given.map (·.1), s ∈ plainSwitches
  strict : strictness given = some true
  formats : ∀ value ∈ valuesOf given .format, ∃ format, formatOf value = .ok format
  indents : ∀ value ∈ valuesOf given .indent, ∃ indent, indentOf value = .ok indent

/-- The words ask for the strict generation from a file, of all methods and to the document
output, and give these switches. -/
def GeneratesStrictly (words : List String) (file : String) (given : List (Switch × String)) :
    Prop :=
  ∃ rest, AsksFor .generate words rest ∧
    scan Verb.generate.switches true rest = .ok ⟨given, [file]⟩ ∧ StrictSwitches given

theorem after_runWords (around : Surroundings) (t : Transcript) {verb : Verb}
    {words rest : List String} (h : AsksFor verb words rest) :
    ∃ verbose, (runWords words).after around t = (runVerb verb rest verbose).after around t := by
  obtain ⟨lead, hscan, hlead⟩ := h
  refine ⟨lead.any (·.1 == .verbose), ?_⟩
  have hwords : words.isEmpty = false := by
    cases words with
    | nil => simp [scan] at hscan
    | cons word words => rfl
  have hnone (asked : Switch × String → Bool) (hasked : ∀ value, asked (.verbose, value) = false) :
      lead.find? asked = none := by
    rw [List.find?_eq_none]
    rintro ⟨s, value⟩ hs
    obtain rfl : s = .verbose := hlead _ hs
    simp [hasked]
  have hverb : readVerb verb.word = pure verb := by
    rw [readVerb, Verb.ofWord?_word]
  unfold runWords
  simp only [hwords, Bool.false_eq_true, if_false, hscan, orMisuse, pure_bind, hverb]
  rw [hnone _ fun _ => rfl]

/-! ### After the verb -/

/-- Once the words are told apart and no help is asked for, the verb goes by its arguments. -/
theorem after_runRest {settings : Settings} {verb : Verb} {words : List String} {s : Scanned}
    (hscan : scan verb.switches true words = .ok s) (hhelp : ∀ g ∈ s.given, g.1 ≠ .help) :
    (runRest settings verb words).after around t =
      match Arguments.ofScanned t.tree verb s with
      | .ok a => (perform settings a verb).after around t
      | .error m => (.error (.misuse (some verb) m), t) := by
  have hgiven : s.given.any (·.1 == .help) = false := by
    rw [List.any_eq_false]
    intro g hg
    simpa using hhelp g hg
  unfold runRest
  simp only [hscan, orMisuse, pure_bind, hgiven, Bool.false_eq_true, if_false]
  rw [after_bind_of_ok after_files]
  cases Arguments.ofScanned t.tree verb s <;> rfl

/-- The only word that is left is the file. -/
theorem ofScanned_file {tree : File.Tree} {verb : Verb} {given : List (Switch × String)}
    {file label : String} {a : Arguments} (hlabel : verb.file.label? = some label)
    (htake : (given.map (·.1)).eraseDups.foldlM (Arguments.take tree given) {} = .ok a) :
    Arguments.ofScanned tree verb ⟨given, [file]⟩ =
      (inputPath tree label file).map fun path => { a with file := some path } := by
  simp only [Arguments.ofScanned, htake, Arguments.takeRest, hlabel, bind, Except.bind]
  cases inputPath tree label file <;> rfl

/-- A verb that goes by a file ends without a refusal only if the file is there, and then ends as
it ends on the file. -/
theorem result_runRest_iff {good : Except Stop Unit → Prop} (hgood : Unrefused good)
    {settings : Settings} {verb : Verb} {words : List String} {given : List (Switch × String)}
    {file label : String} {a : Arguments}
    (hscan : scan verb.switches true words = .ok ⟨given, [file]⟩)
    (hhelp : ∀ g ∈ given, g.1 ≠ .help) (hlabel : verb.file.label? = some label)
    (htake : (given.map (·.1)).eraseDups.foldlM (Arguments.take t.tree given) {} = .ok a) :
    good ((runRest settings verb words).after around t).1 ↔
      (∃ content, leadsTo? t.tree file = some (.file content)) ∧
        good ((perform settings { a with file := some (.ofText file) } verb).after around t).1 := by
  rw [after_runRest hscan hhelp, ofScanned_file hlabel htake, inputPath]
  cases hleads : leadsTo? t.tree file with
  | none => simp [Except.map, hgood (.misuse _ _) rfl]
  | some entry =>
    cases entry with
    | directory => simp [Except.map, hgood (.misuse _ _) rfl]
    | file content => simp [Except.map]

theorem code_validate_words {settings : Settings} {words : List String} {file : String}
    (hscan : scan Verb.validate.switches true words = .ok ⟨[], [file]⟩) :
    codeOf ((runRest settings .validate words).after around t).1 = 0 ↔
      ∃ spec, Holds around t.tree file spec := by
  rw [result_runRest_iff unrefused_code_eq_zero hscan (by simp) rfl rfl]
  refine (and_congr_right fun _ => code_validate_eq_zero_iff rfl).trans ⟨?_, ?_⟩
  · rintro ⟨hfile, spec, hload, hsound⟩
    exact ⟨spec, hfile, hload, hsound⟩
  · rintro ⟨spec, hfile, hload, hsound⟩
    exact ⟨hfile, spec, hload, hsound⟩

/-- The value that counts for a switch that is given is one of those that are given for it. -/
theorem getLastD_valuesOf_mem {given : List (Switch × String)} {s : Switch}
    (h : s ∈ given.map (·.1)) : (valuesOf given s).getLastD "" ∈ valuesOf given s := by
  have hvalues : valuesOf given s ≠ [] := by
    obtain ⟨g, hg, rfl⟩ := List.mem_map.1 h
    exact List.ne_nil_of_mem (List.mem_map_of_mem (List.mem_filter.2 ⟨hg, by simp⟩))
  rw [List.getLastD_eq_getLast?, List.getLast?_eq_getLast_of_ne_nil hvalues, Option.getD_some]
  exact List.getLast_mem hvalues

section Switches

variable {given : List (Switch × String)}

/-- Taking in a switch for strictness or layout leaves the rest of what is asked for, and does not
depend on the files. -/
theorem exists_take_plain
    (hformat : ∀ value ∈ valuesOf given .format, ∃ format, formatOf value = .ok format)
    (hindent : ∀ value ∈ valuesOf given .indent, ∃ indent, indentOf value = .ok indent)
    {s : Switch} (hgiven : s ∈ given.map (·.1)) (hs : s ∈ plainSwitches) (a : Arguments) :
    ∃ a', (∀ tree, Arguments.take tree given a s = .ok a') ∧ a'.targets = a.targets ∧
      a'.output = a.output ∧ a'.methods = a.methods ∧
      (a'.strict = strictness given ∨ a'.strict = a.strict ∧ s ≠ .strict ∧ s ≠ .lenient) := by
  have hvalue := getLastD_valuesOf_mem hgiven
  simp only [plainSwitches, List.mem_cons, List.not_mem_nil, or_false] at hs
  rcases hs with rfl | rfl | rfl | rfl
  · exact ⟨_, fun _ => rfl, rfl, rfl, rfl, .inl rfl⟩
  · exact ⟨_, fun _ => rfl, rfl, rfl, rfl, .inl rfl⟩
  · obtain ⟨format, hformat⟩ := hformat _ hvalue
    refine ⟨{ a with format := some format }, fun tree => ?_, rfl, rfl, rfl, .inr ⟨rfl, by decide⟩⟩
    simp only [Arguments.take, hformat]
    rfl
  · obtain ⟨indent, hindent⟩ := hindent _ hvalue
    refine ⟨{ a with indent := some indent }, fun tree => ?_, rfl, rfl, rfl, .inr ⟨rfl, by decide⟩⟩
    simp only [Arguments.take, hindent]
    rfl

theorem exists_foldlM_take_plain
    (hformat : ∀ value ∈ valuesOf given .format, ∃ format, formatOf value = .ok format)
    (hindent : ∀ value ∈ valuesOf given .indent, ∃ indent, indentOf value = .ok indent)
    {switches : List Switch} (hgiven : ∀ s ∈ switches, s ∈ given.map (·.1))
    (hplain : ∀ s ∈ switches, s ∈ plainSwitches) (a : Arguments) :
    ∃ a', (∀ tree, switches.foldlM (Arguments.take tree given) a = .ok a') ∧
      a'.targets = a.targets ∧ a'.output = a.output ∧ a'.methods = a.methods ∧
      (a'.strict = strictness given ∨
        a'.strict = a.strict ∧ .strict ∉ switches ∧ .lenient ∉ switches) := by
  induction switches generalizing a with
  | nil => exact ⟨a, fun _ => rfl, rfl, rfl, rfl, .inr ⟨rfl, by simp⟩⟩
  | cons s rest ih =>
    rw [List.forall_mem_cons] at hgiven hplain
    obtain ⟨a₁, htake, htargets, houtput, hmethods, hstrict⟩ :=
      exists_take_plain hformat hindent hgiven.1 hplain.1 a
    obtain ⟨a₂, hrest, htargets', houtput', hmethods', hstrict'⟩ := ih hgiven.2 hplain.2 a₁
    refine ⟨a₂, fun tree => ?_, htargets'.trans htargets, houtput'.trans houtput,
      hmethods'.trans hmethods, ?_⟩
    · rw [List.foldlM_cons, htake tree]
      exact hrest tree
    · rcases hstrict' with hstrict' | ⟨hsame', hnot'⟩
      · exact .inl hstrict'
      · rcases hstrict with hstrict | ⟨hsame, hnot⟩
        · exact .inl (hsame'.trans hstrict)
        · refine .inr ⟨hsame'.trans hsame, ?_⟩
          simp only [List.mem_cons, not_or]
          exact ⟨⟨Ne.symm hnot.1, hnot'.1⟩, Ne.symm hnot.2, hnot'.2⟩

/-- Strictness is asked for by one of its two switches. -/
theorem strict_or_lenient_mem {b : Bool} (h : strictness given = some b) :
    .strict ∈ given.map (·.1) ∨ .lenient ∈ given.map (·.1) := by
  obtain ⟨g, hg, hb⟩ := List.exists_of_findSome?_eq_some h
  have hmem : g.1 ∈ given.map (·.1) := List.mem_map_of_mem (List.mem_reverse.1 hg)
  rcases g with ⟨s, value⟩
  cases s <;> simp at hb
  · exact .inl hmem
  · exact .inr hmem

end Switches

/-- What switches for strictness and layout ask for. They do not depend on the files. -/
def asked (given : List (Switch × String)) : Arguments :=
  ((given.map (·.1)).eraseDups.foldlM (Arguments.take {} given) {}).toOption.getD {}

/-- Strict switches ask for the strict generation of all methods to the output. -/
theorem asked_strict {given : List (Switch × String)} (h : StrictSwitches given) :
    (∀ tree,
      (given.map (·.1)).eraseDups.foldlM (Arguments.take tree given) {} = .ok (asked given)) ∧
    (asked given).targets = [] ∧ (asked given).output = none ∧ (asked given).methods = [] ∧
    (asked given).strict = some true := by
  have hlisted : ∀ s ∈ (given.map (·.1)).eraseDups, s ∈ given.map (·.1) :=
    fun s hs => List.mem_eraseDups.1 hs
  obtain ⟨a, htake, htargets, houtput, hmethods, hstrict⟩ :=
    exists_foldlM_take_plain h.formats h.indents hlisted
      (fun s hs => h.plain s (hlisted s hs)) {}
  obtain rfl : asked given = a := by
    rw [asked, htake {}]
    rfl
  refine ⟨htake, htargets, houtput, hmethods, ?_⟩
  rw [← h.strict]
  refine hstrict.resolve_right ?_
  rintro ⟨-, hnot⟩
  rw [List.mem_eraseDups, List.mem_eraseDups, ← not_or] at hnot
  exact hnot (strict_or_lenient_mem h.strict)

/-- How putting the documents of a specification out ends for these switches. -/
def documentsOutput (around : Surroundings) (settings : Settings) (given : List (Switch × String))
    (spec : Specification) : Except Schema.OutputFault String :=
  putOut around settings (asked given) (Schema.documentsJson (Schema.generate spec))

theorem result_generate_words {good : Except Stop Unit → Prop} (hgood : Unrefused good)
    {settings : Settings} {words : List String} {file : String} {given : List (Switch × String)}
    (hscan : scan Verb.generate.switches true words = .ok ⟨given, [file]⟩)
    (h : StrictSwitches given) :
    good ((runRest settings .generate words).after around t).1 ↔
      ∃ spec, Holds around t.tree file spec ∧
        good (outputResult (documentsOutput around settings given spec)) := by
  obtain ⟨htake, htargets, houtput, hmethods, hstrict⟩ := asked_strict h
  have hhelp : ∀ g ∈ given, g.1 ≠ .help := by
    intro g hg hhelp
    have hplain := h.plain g.1 (List.mem_map_of_mem hg)
    rw [hhelp] at hplain
    exact absurd hplain (by decide)
  rw [result_runRest_iff hgood hscan hhelp rfl (htake _), perform,
    result_generate_iff (a := { asked given with file := some (.ofText file) })
      hgood rfl htargets houtput hmethods hstrict]
  simp only [putOut_file, ← documentsOutput.eq_1]
  constructor
  · rintro ⟨hfile, spec, hload, hsound, hend⟩
    exact ⟨spec, ⟨hfile, hload, hsound⟩, hend⟩
  · rintro ⟨spec, ⟨hfile, hload, hsound⟩, hend⟩
    exact ⟨hfile, spec, hload, hsound, hend⟩

/-! ### In front of the verb -/

/-- The settings are valid, and the log starts in a tree and leaves another one. -/
def LogStarts (around : Surroundings) (tree : File.Tree) (settings : Settings)
    (tree' : File.Tree) : Prop :=
  Settings.load around.home tree around.environment [] = .valid settings ∧
    tree.makeDirectory settings.logDirectory = .ok tree' ∧
    ∃ level, Log.levelOf settings.logLevel = .ok level

/-- What follows the start of the log ends without a refusal only if the directory of the log can be
made and its level is one, and then ends as it ends on the tree with the directory. -/
theorem result_startLog_bind_iff {good : Except Stop Unit → Prop} (hgood : Unrefused good)
    {r : Log.Journal.Request} {f : Unit → Run Unit} {P : File.Tree → Prop}
    (hf : ∀ t', good ((f ()).after around t').1 ↔ P t'.tree) :
    good ((startLog r >>= f).after around t).1 ↔
      ∃ tree', t.tree.makeDirectory r.directory = .ok tree' ∧
        (∃ level, Log.levelOf r.level = .ok level) ∧ P tree' := by
  cases hmade : t.tree.makeDirectory r.directory with
  | error e => simp [startLog, after_bind, Log.Journal.start, hmade, hgood (.fault (.log _)) rfl]
  | ok made =>
    cases hlevel : Log.levelOf r.level with
    | error e =>
      simp [startLog, after_bind, Log.Journal.start, hmade, hlevel, hgood (.fault (.log _)) rfl]
    | ok level => simp [startLog, after_bind, Log.Journal.start, hmade, hlevel, hf]

/-- A verb ends without a refusal only if the log starts, and then ends as it ends on what the log
has left. -/
theorem result_runVerb_iff {good : Except Stop Unit → Prop} (hgood : Unrefused good)
    {verb : Verb} {words : List String} {P : Settings → File.Tree → Prop} (verbose : Bool)
    (hrest : ∀ settings t, good ((runRest settings verb words).after around t).1 ↔
      P settings t.tree) :
    good ((runVerb verb words verbose).after around t).1 ↔
      ∃ settings tree', LogStarts around t.tree settings tree' ∧ P settings tree' := by
  rw [runVerb_eq]
  cases hload : Settings.load around.home t.tree around.environment [] with
  | invalid details =>
    have hstop : loadSettings.after around t = (.error (.fault (.settings details)), t) := by
      simp [loadSettings, after_bind, hload]
    rw [after_bind_of_error hstop]
    simp [hgood (.fault (.settings details)) rfl, LogStarts, hload]
  | valid settings =>
    have hloaded : loadSettings.after around t = (.ok settings, t) := by
      simp [loadSettings, after_bind, hload]
    rw [after_bind_of_ok hloaded, result_startLog_bind_iff hgood (hrest settings)]
    simp [LogStarts, hload, and_assoc]

/-! ## The verdicts -/

/-- A sound specification passes the check: with valid settings and a log that starts, the file
holds one. -/
theorem validates_iff {tree : File.Tree} {words : List String} {file : String}
    (h : Validates words file) :
    (execute around tree words).exitCode = 0 ↔
      ∃ settings tree', LogStarts around tree settings tree' ∧
        ∃ spec, Holds around tree' file spec := by
  obtain ⟨rest, hasks, hscan⟩ := h
  obtain ⟨verbose, hrun⟩ := after_runWords around { tree } hasks
  rw [execute_exitCode, hrun]
  exact result_runVerb_iff (P := fun _ tree' => ∃ spec, Holds around tree' file spec)
    unrefused_code_eq_zero verbose fun settings t => code_validate_words hscan

/-- If the strict generation from a file does not refuse it, the file holds a sound specification,
and the run ends as putting its documents out ends. -/
theorem generatesStrictly_iff {good : Except Stop Unit → Prop} (hgood : Unrefused good)
    {tree : File.Tree} {words : List String} {file : String} {given : List (Switch × String)}
    (h : GeneratesStrictly words file given) :
    good ((runWords words).after around { tree }).1 ↔
      ∃ settings tree', LogStarts around tree settings tree' ∧
        ∃ spec, Holds around tree' file spec ∧
          good (outputResult (documentsOutput around settings given spec)) := by
  obtain ⟨rest, hasks, hscan, hswitches⟩ := h
  obtain ⟨verbose, hrun⟩ := after_runWords around { tree } hasks
  rw [hrun]
  exact result_runVerb_iff
    (P := fun settings tree' => ∃ spec, Holds around tree' file spec ∧
      good (outputResult (documentsOutput around settings given spec)))
    hgood verbose fun settings t => result_generate_words hgood hscan hswitches

/-- A file holds a sound specification whose documents a fault keeps from the output: their text
holds a surrogate, the indent is beyond all lengths, or there is no room for it. -/
def HeldBack (around : Surroundings) (tree : File.Tree) (file : String)
    (given : List (Switch × String)) (fault : Schema.OutputFault) : Prop :=
  ∃ settings tree', LogStarts around tree settings tree' ∧
    ∃ spec, Holds around tree' file spec ∧ documentsOutput around settings given spec = .error fault

theorem outputResult_eq_error {α : Type} {x : Except Schema.OutputFault α}
    {fault : Schema.OutputFault} :
    (outputResult x = .error (.fault (.output fault))) ↔ x = .error fault := by
  cases x <;> simp [outputResult]

/-- The strict generation ends in a fault of the output exactly if this fault holds the documents
back. -/
theorem heldBack_iff {tree : File.Tree} {words : List String} {file : String}
    {given : List (Switch × String)} {fault : Schema.OutputFault}
    (h : GeneratesStrictly words file given) :
    ((runWords words).after around { tree }).1 = .error (.fault (.output fault)) ↔
      HeldBack around tree file given fault := by
  refine (generatesStrictly_iff (unrefused_eq_outputFault fault) h).trans ?_
  simp only [outputResult_eq_error, HeldBack]

/-- What passes the check is generated, or a fault of the output keeps it back. -/
theorem validates_iff_generatesStrictly_or {tree : File.Tree} {words words' : List String}
    {file : String} {given : List (Switch × String)} (hvalidates : Validates words file)
    (hgenerates : GeneratesStrictly words' file given) :
    (execute around tree words).exitCode = 0 ↔
      (execute around tree words').exitCode = 0 ∨
        ∃ fault, HeldBack around tree file given fault := by
  rw [validates_iff hvalidates, execute_exitCode,
    generatesStrictly_iff unrefused_code_eq_zero hgenerates]
  constructor
  · rintro ⟨settings, tree', hstarts, spec, hholds⟩
    cases hout : documentsOutput around settings given spec with
    | ok text =>
      refine .inl ⟨settings, tree', hstarts, spec, hholds, ?_⟩
      rw [hout]
      rfl
    | error fault => exact .inr ⟨fault, settings, tree', hstarts, spec, hholds, hout⟩
  · rintro (⟨settings, tree', hstarts, spec, hholds, -⟩ |
      ⟨fault, settings, tree', hstarts, spec, hholds, -⟩) <;>
    exact ⟨settings, tree', hstarts, spec, hholds⟩

/-- A word that does not start like a switch is the file that is checked, or generated from. -/
theorem plain_words {file : String} (h : ∀ c rest, file.toList ≠ '-' :: c :: rest) :
    Validates ["validate", file] file ∧
      GeneratesStrictly ["generate", file, "--strict"] file [(.strict, "")] := by
  have hword : file ≠ "--" := fun hdashes => h '-' [] (by rw [hdashes]; rfl)
  have hrow (allowed : List Switch) : readRow? allowed file = none := by
    unfold readRow?
    split
    · next hlong => exact absurd hlong (h _ _)
    · next hshort => exact absurd hshort (h _ _)
    · rfl
  refine ⟨⟨[file], ⟨[], rfl, by simp⟩, ?_⟩,
    ⟨[file, "--strict"], ⟨[], rfl, by simp⟩, ?_, ?_⟩⟩
  · simp [scan, hword, hrow, Except.map]
  · have hstrict : scan Verb.generate.switches true ["--strict"] = .ok ⟨[(.strict, "")], []⟩ := by
      decide
    rw [scan, if_neg hword, hrow, hstrict]
    rfl
  · exact ⟨by decide, rfl, by simp [valuesOf], by simp [valuesOf]⟩

/-- What a run that refuses has made of a tree: no file is another one, and so is no place, unless
the log has started and the place is on the way to its directory. -/
def LeftAlone (around : Surroundings) (tree tree' : File.Tree) : Prop :=
  tree'.files = tree.files ∧
    (tree' = tree ∨ ∃ settings,
      Settings.load around.home tree around.environment [] = .valid settings ∧
      tree.Opens settings.logDirectory.way tree' ∧
      tree.isDirectory settings.logDirectory = false)

theorem leftAlone_of_logDirectoryMade {tree tree' : File.Tree}
    (h : LogDirectoryMade around tree tree') : LeftAlone around tree tree' := by
  rcases h with rfl | ⟨settings, hload, hmade⟩
  · exact ⟨rfl, .inl rfl⟩
  · have hopens := File.Tree.opens_makeDirectory hmade
    refine ⟨hopens.files, ?_⟩
    cases hthere : tree.isDirectory settings.logDirectory with
    | true =>
      rw [File.Tree.makeDirectory_of_isDirectory hthere] at hmade
      exact .inl (Except.ok.inj hmade).symm
    | false => exact .inr ⟨settings, hload, hopens, hthere⟩

/-- **The check of a file and the strict generation from it agree, and a run that refuses writes
nothing.** Whatever the files, the reader of texts, the environment and the other words are, a file
passes the check exactly if the strict generation ends well, or ends in a fault that holds the
documents of a sound specification back. Whatever a run is asked for, if it refuses it has output no
document and left the files and directories alone; only the directory of the log is made before
anything else is looked at. -/
theorem verdicts_agree_and_refusals_write_nothing :
    (∀ around tree words words' file given,
      Validates words file → GeneratesStrictly words' file given →
      ((execute around tree words).exitCode = 0 ↔
        (execute around tree words').exitCode = 0 ∨
          ∃ fault, HeldBack around tree file given fault) ∧
      ∀ fault, ((runWords words').after around { tree }).1 = .error (.fault (.output fault)) ↔
        HeldBack around tree file given fault) ∧
    (∀ file : String, (∀ c rest, file.toList ≠ '-' :: c :: rest) →
      Validates ["validate", file] file ∧
      GeneratesStrictly ["generate", file, "--strict"] file [(.strict, "")]) ∧
    ∀ around tree words, isRefused ((runWords words).after around { tree }).1 = true →
      (execute around tree words).exitCode ≠ 0 ∧
      (execute around tree words).transcript.output = "" ∧
      LeftAlone around tree (execute around tree words).transcript.tree := by
  refine ⟨fun around tree words words' file given hvalidates hgenerates =>
      ⟨validates_iff_generatesStrictly_or hvalidates hgenerates,
        fun fault => heldBack_iff hgenerates⟩,
    fun file h => plain_words h, fun around tree words hrefused => ?_⟩
  rw [execute_eq]
  rcases hend : (runWords words).after around { tree } with ⟨result, t⟩
  rw [hend] at hrefused
  cases result with
  | ok _ => cases hrefused
  | error stop =>
    obtain ⟨houtput, htree⟩ := contained_runWords words around { tree } stop t hend hrefused
    exact ⟨code_of_isRefusal hrefused, houtput, leftAlone_of_logDirectoryMade htree⟩

/-- A shell in which the program has its home below the current directory. -/
def shell : Surroundings where
  program := "cli"
  home := ⟨"/", ["home", "user"]⟩
  environment := [("SCHEMADOC_HOME_DIR", "home")]
  stamp :=
    { id := "0f3a9c", start := "20240101_000000", time := "2024-01-01 00:00:00", place := "1" }
  elapsed := "0.00"

/-- The same shell with an indent of its own, and without room for the widest indents. -/
def wideShell (indent : String) : Surroundings :=
  { shell with
    environment := shell.environment ++ [("SCHEMADOC_JSON_INDENT", indent)]
    hasRoom := fun _ indent _ => 2 * indent < Schema.Format.lengthLimit }

/-- A directory with two files: a specification, and one that defines a name twice. -/
def shelf : File.Tree where
  files := .ofList [("cat.yaml", Text.encode "structs: [{name: Cat}]"),
    ("twins.yaml", Text.encode "structs: [{name: Cat}, {name: Cat}]")]

/-- A directory with a specification whose only method is described by two surrogates. -/
def album : File.Tree where
  files := .ofList [("cat.yaml", Text.encode ("services:\n- name: Cat\n  methods:\n"
    ++ "  - name: purr\n    description: \"\\ud83d\\ude00\"\n"))]

/-- The specification in the album passes the check, but nothing is generated from it. -/
theorem album_exitCodes :
    (execute shell album ["validate", "cat.yaml"]).exitCode = 0 ∧
      (execute shell album ["generate", "cat.yaml", "--strict"]).exitCode = 1 :=
  ⟨by decide +kernel, by decide +kernel⟩

/-- On the shelf the specification passes both verbs and the twins pass neither, so that they leave
nothing behind where their documents were to be written. The specification in the album passes the
check, but its document is held back. -/
theorem shelf_verdicts :
    (execute shell shelf ["validate", "cat.yaml"]).exitCode = 0 ∧
    (execute shell shelf ["generate", "cat.yaml", "--strict"]).exitCode = 0 ∧
    (execute shell shelf ["validate", "twins.yaml"]).exitCode = 1 ∧
    (execute shell shelf ["generate", "twins.yaml", "--strict"]).exitCode ≠ 0 ∧
    (execute shell album ["validate", "cat.yaml"]).exitCode = 0 ∧
    (∃ fault, HeldBack shell album "cat.yaml" [(.strict, "")] fault) ∧
    let refused := execute shell shelf ["generate", "twins.yaml", "--strict", "-o", "out/d.json"]
    refused.transcript.output = "" ∧ LeftAlone shell shelf refused.transcript.tree := by
  obtain ⟨hagree, hplain, hrefused⟩ := verdicts_agree_and_refusals_write_nothing
  obtain ⟨hcat, hcatStrict⟩ := hplain "cat.yaml" (by simp)
  obtain ⟨htwins, htwinsStrict⟩ := hplain "twins.yaml" (by simp)
  have hgenerated : (execute shell shelf ["generate", "cat.yaml", "--strict"]).exitCode = 0 := by
    decide +kernel
  have hfails : (execute shell shelf ["validate", "twins.yaml"]).exitCode = 1 := by decide +kernel
  obtain ⟨hchecked, hkept⟩ := album_exitCodes
  obtain ⟨-, hsilent, halone⟩ := hrefused shell shelf
    ["generate", "twins.yaml", "--strict", "-o", "out/d.json"] (by decide +kernel)
  have hpasses := (hagree shell shelf _ _ _ _ hcat hcatStrict).1.2 (.inl hgenerated)
  have hheld := ((hagree shell album _ _ _ _ hcat hcatStrict).1.1 hchecked).resolve_left
    (by simp [hkept])
  refine ⟨hpasses, hgenerated, hfails, ?_, hchecked, hheld, hsilent, halone⟩
  intro hzero
  have htwinsPass := (hagree shell shelf _ _ _ _ htwins htwinsStrict).1.2 (.inl hzero)
  rw [hfails] at htwinsPass
  cases htwinsPass

/-- A file passes the check although its documents are held back: by the surrogates of a
description, by an indent beyond all lengths, or by one that there is no room for. And the start of
the log can make what a run then refuses to write to: the words give a file that is missing and, as
the place of the output, the directory of the log. It was not there, nor was the directory that it
lies in, and both are when the run ends in a misuse. -/
theorem documents_held_back_and_log_occupies_output :
    ((execute shell album ["validate", "cat.yaml"]).exitCode = 0 ∧
      (execute shell album ["generate", "cat.yaml", "--strict"]).exitCode = 1) ∧
    (∀ indent ∈ ["9223372036854775808", "4611686018427387904"],
      (execute (wideShell indent) shelf ["validate", "cat.yaml"]).exitCode = 0 ∧
      (execute (wideShell indent) shelf ["generate", "cat.yaml", "--strict"]).exitCode = 1) ∧
    ((runWords ["generate", "missing.yaml", "-o", "home/logs"]).after shell {}).1 =
      .error (.misuse (some .generate) (.badValue Switch.output.label (.directory "home/logs"))) ∧
    File.Tree.isDirectory {} (.ofText "home/logs") = false ∧
    File.Tree.isDirectory {} (.ofText "home") = false ∧
    let left := (execute shell {} ["generate", "missing.yaml", "-o", "home/logs"]).transcript.tree
    left.isDirectory (.ofText "home/logs") = true ∧ left.isDirectory (.ofText "home") = true :=
  ⟨album_exitCodes, by decide +kernel, rfl,
    by decide +kernel, by decide +kernel, by decide +kernel, by decide +kernel⟩

end ServiceSchema.Command

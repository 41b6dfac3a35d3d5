/-
How loading a specification ends.

Loading announces one kind of error, and everything that is wrong with a document is
announced as that: text that is malformed or no mapping, entries that do not fit, types that
cannot be read, files that are not there. Three things are not. A scalar may have no value,
a file may hold no text, and no path contains the character with number zero. Callers that
are prepared for the announced errors alone do not see these coming.
-/
import ServiceSchema.Command.Stop
import ServiceSchema.Document.File
import ServiceSchema.Proofs.ScalarFaults

set_option autoImplicit false

namespace ServiceSchema

/-! ## Announced errors -/

/-- The errors of a text that loading announces. -/
def LoadError.isAnnounced : LoadError → Bool
  | .scalar _ => false
  | _ => true

/-- The errors of a file that loading announces. -/
def FileLoadError.isAnnounced : FileLoadError → Bool
  | .unreadable .. => true
  | .nulInPath | .notUnicode => false
  | .text error => error.isAnnounced

/-- A run is prepared for the announced errors and for no other. -/
theorem isAnnounced_iff_failure (e : FileLoadError) :
    e.isAnnounced = true ↔ ∃ failure, Command.Stop.ofLoad e = .failure failure := by
  cases e with
  | unreadable name fault => exact ⟨fun _ => ⟨_, rfl⟩, fun _ => rfl⟩
  | nulInPath => exact ⟨nofun, nofun⟩
  | notUnicode => exact ⟨nofun, nofun⟩
  | text error =>
    cases error with
    | scalar fault => exact ⟨nofun, nofun⟩
    | malformed | notMapping | invalid | conversion => exact ⟨fun _ => ⟨_, rfl⟩, fun _ => rfl⟩

/-! ## Loading a text -/

variable {reader : Yaml.Reader}

theorem Document.read_of_ofText {text : String} {e : LoadError}
    (h : ofText text reader = .error e) (hannounced : e.isAnnounced = false) :
    ∃ fault, e = .scalar fault ∧ reader text = .error (.scalar fault) := by
  unfold ofText at h
  split at h
  · cases h
    cases hannounced
  · next fault hread =>
    cases h
    exact ⟨fault, rfl, hread⟩
  · dsimp only at h
    split at h
    · next value hvalue =>
      cases h
      split at hvalue
      · cases hvalue
      · cases hvalue
      · cases hvalue
        cases hannounced
    · split at h
      · cases h
      · cases h
        cases hannounced

/-- The only error of a text that is not announced is that of a scalar, and the reader raises it. -/
theorem Specification.ofText_unannounced_iff {text : String} {e : LoadError} :
    (ofText text reader = .error e ∧ e.isAnnounced = false) ↔
      ∃ fault, e = .scalar fault ∧ reader text = .error (.scalar fault) := by
  constructor
  · rintro ⟨h, hannounced⟩
    rcases Except.bind_eq_error.1 h with hdocument | ⟨d, -, hconvert⟩
    · exact Document.read_of_ofText hdocument hannounced
    · obtain ⟨cause, -, rfl⟩ := Except.mapError_eq_error.1 hconvert
      cases hannounced
  · rintro ⟨fault, rfl, hread⟩
    have hdocument : Document.ofText text reader = .error (.scalar fault) := by
      simp only [Document.ofText, hread]
    exact ⟨Except.bind_eq_error.2 (.inl hdocument), rfl⟩

/-- Where YAML is read, there is a cause for it in the text. -/
theorem Specification.valueless_of_unannounced {text : String} {e : LoadError}
    (h : ofText text = .error e) (hannounced : e.isAnnounced = false) :
    ∃ fault, e = .scalar fault ∧ Yaml.Valueless text fault := by
  obtain ⟨fault, rfl, hload⟩ := ofText_unannounced_iff.1 ⟨h, hannounced⟩
  exact ⟨fault, rfl, Yaml.valueless_of_load hload⟩

/-! ## Loading a file -/

/-- The errors of a file that are not announced, with their causes. -/
inductive Unannounced (reader : Yaml.Reader) (tree : File.Tree) (name : String) :
    FileLoadError → Prop
  | path (nul : Char.ofNat 0 ∈ name.toList) : Unannounced reader tree name .nulInPath
  | encoding {content : ByteArray} (legal : Char.ofNat 0 ∉ name.toList)
      (read : tree.read (.ofText name) = .ok content)
      (undecodable : Text.decode? content = none) : Unannounced reader tree name .notUnicode
  | scalar {content : ByteArray} {text : String} {fault : Yaml.ScalarFault}
      (legal : Char.ofNat 0 ∉ name.toList) (read : tree.read (.ofText name) = .ok content)
      (decoded : Text.decode? content = some text)
      (fails : reader text = .error (.scalar fault)) :
      Unannounced reader tree name (.text (.scalar fault))

theorem Specification.ofFile_unannounced_iff {tree : File.Tree} {name : String}
    {e : FileLoadError} :
    (ofFile tree name reader = .error e ∧ e.isAnnounced = false) ↔
      Unannounced reader tree name e := by
  constructor
  · rintro ⟨h, hannounced⟩
    unfold ofFile at h
    dsimp only at h
    split at h
    · next hnul =>
      cases h
      exact .path (by simpa using hnul)
    next hnul =>
    have hlegal : Char.ofNat 0 ∉ name.toList := by simpa using hnul
    split at h
    · cases h
      cases hannounced
    next content hread =>
    split at h
    · next hnone =>
      cases h
      exact .encoding hlegal hread hnone
    · next text hsome =>
      obtain ⟨cause, hcause, rfl⟩ := Except.mapError_eq_error.1 h
      obtain ⟨fault, rfl, hfails⟩ := Specification.ofText_unannounced_iff.1 ⟨hcause, hannounced⟩
      exact .scalar hlegal hread hsome hfails
  · intro h
    cases h with
    | path nul => simp [ofFile, nul, FileLoadError.isAnnounced]
    | encoding legal read undecodable =>
      simp [ofFile, legal, read, undecodable, FileLoadError.isAnnounced]
    | scalar legal read decoded fails =>
      have htext := (Specification.ofText_unannounced_iff.2 ⟨_, rfl, fails⟩).1
      simp [ofFile, legal, read, decoded, htext, Except.mapError, FileLoadError.isAnnounced,
        LoadError.isAnnounced]

/-! ## Whether loading keeps its promise -/

/-- A result is a value or an announced error unless it is another error. -/
theorem announced_or_value_iff {ε α : Type} {isAnnounced : ε → Bool} {x : Except ε α} :
    ((∃ a, x = .ok a) ∨ ∃ e, x = .error e ∧ isAnnounced e = true) ↔
      ¬ ∃ e, x = .error e ∧ isAnnounced e = false := by
  cases x <;> simp

/-- **Loading ends with a specification or an announced error, unless there is cause for another
one**, whatever the texts are read by. For a text the only such cause is a scalar that the reader
finds no value for; for a file there are besides a path that cannot be and content that is no
text. -/
theorem load_announced_iff (reader : Yaml.Reader) (text : String) (tree : File.Tree)
    (name : String) :
    (((∃ spec, Specification.ofText text reader = .ok spec) ∨
        ∃ e, Specification.ofText text reader = .error e ∧ e.isAnnounced = true) ↔
      ¬ ∃ fault, reader text = .error (.scalar fault)) ∧
    (((∃ spec, Specification.ofFile tree name reader = .ok spec) ∨
        ∃ e, Specification.ofFile tree name reader = .error e ∧ e.isAnnounced = true) ↔
      ¬ ∃ e, Unannounced reader tree name e) := by
  constructor
  · rw [announced_or_value_iff]
    simp only [Specification.ofText_unannounced_iff]
    exact not_congr ⟨fun ⟨_, fault, _, h⟩ => ⟨fault, h⟩, fun ⟨fault, h⟩ => ⟨_, fault, rfl, h⟩⟩
  · rw [announced_or_value_iff]
    simp only [Specification.ofFile_unannounced_iff]

/-- A date in month 13 is such a scalar: the text is well formed, and loading it neither yields
a specification nor ends with an announced error. -/
theorem impossibleDate_unannounced :
    ¬ ((∃ spec, Specification.ofText "a: 2020-13-45" = .ok spec) ∨
      ∃ e, Specification.ofText "a: 2020-13-45" = .error e ∧ e.isAnnounced = true) := by
  have hresult : Specification.ofText "a: 2020-13-45" =
      .error (.scalar (.invalid "month must be in 1..12")) := by
    decide +kernel
  rw [hresult]
  rintro (⟨spec, h⟩ | ⟨e, h, hannounced⟩)
  · cases h
  · cases h
    cases hannounced

end ServiceSchema

/-
What making a directory does to a tree of files.

The places on the way to a directory are directories afterwards, and everything else is what it
was. What makes this so is that the way never leaves places that are known: a directory that is
missing is made under one that is there, and a step to the parent leads back to something that
is there already. So no place above a new directory becomes anything else by it.
-/
import ServiceSchema.File.Tree

set_option autoImplicit false

namespace ServiceSchema.File

/-! ## Ways -/

namespace Path

/-- Where a name leads from a path. -/
def step (here : Path) (name : String) : Path :=
  if name = ".." then here.parent else here.child name

/-- The places that names lead to, one after another. -/
def wayFrom (here : Path) : List String → List Path
  | [] => []
  | name :: rest => here.step name :: (here.step name).wayFrom rest

/-- The places on the way to a path, the last of which it leads to. -/
def way (p : Path) : List Path := wayFrom ⟨p.root, []⟩ p.names

/-- A path that another one starts with. -/
def Above (q p : Path) : Prop := q.root = p.root ∧ q.names <+: p.names

theorem above_parent {q p : Path} (h : q.Above p.parent) : q.Above p :=
  ⟨h.1, h.2.trans (List.dropLast_prefix p.names)⟩

/-- Above a child are the path itself and what is above the path. -/
theorem above_child {q p : Path} {name : String} (h : q.Above (p.child name)) :
    q = p.child name ∨ q.Above p := by
  obtain ⟨hroot, hnames⟩ := h
  rcases List.prefix_concat_iff.1 hnames with hnames | hnames
  · left
    cases q
    simp_all [child]
  · exact .inr ⟨hroot, hnames⟩

end Path

/-! ## One directory -/

namespace Tree

variable {t : Tree} {p q : Path}

/-- Whether a path leads to a directory, unless a file is there. -/
def Holds (t : Tree) (q : Path) : Prop :=
  q.names = [] ∨ q ∈ t.directories ∨ t.hasBelow q = true

theorem entry?_of_file {content : ByteArray} (h : t.files.get? q.text = some content) :
    t.entry? q = some (.file content) := by
  simp [h, entry?]

theorem entry?_of_no_file (h : t.files.get? q.text = none) :
    t.entry? q = some .directory ∧ t.Holds q ∨ t.entry? q = none ∧ ¬ t.Holds q := by
  by_cases hthere : t.Holds q
  · left
    refine ⟨?_, hthere⟩
    simp only [h, entry?]
    exact if_pos (by simpa [Holds, or_assoc] using hthere)
  · right
    refine ⟨?_, hthere⟩
    simp only [h, entry?]
    exact if_neg (by simpa [Holds, or_assoc] using hthere)

/-- The tree with one directory more. -/
def addDirectory (t : Tree) (p : Path) : Tree := { t with directories := t.directories ++ [p] }

/-- A new directory is one, and so is whatever is above it. -/
theorem holds_addDirectory : (t.addDirectory p).Holds q ↔ t.Holds q ∨ q.Above p := by
  have hbelow : (t.addDirectory p).hasBelow q = true ↔ t.hasBelow q = true ∨
      p.root = q.root ∧ q.names.length < p.names.length ∧ q.names <+: p.names := by
    simp [hasBelow, addDirectory, List.any_append, and_assoc, or_assoc]
  have habove : q.Above p ↔ q = p ∨
      p.root = q.root ∧ q.names.length < p.names.length ∧ q.names <+: p.names := by
    constructor
    · rintro ⟨hroot, hnames⟩
      rcases Nat.lt_or_eq_of_le hnames.length_le with hlt | heq
      · exact .inr ⟨hroot.symm, hlt, hnames⟩
      · have hsame := hnames.eq_of_length heq
        exact .inl (by cases q; cases p; simp_all)
    · rintro (rfl | ⟨hroot, -, hnames⟩)
      · exact ⟨rfl, List.prefix_refl q.names⟩
      · exact ⟨hroot.symm, hnames⟩
  rw [Holds, Holds, hbelow, habove]
  simp only [addDirectory, List.mem_append, List.mem_singleton]
  grind

/-- What is somewhere stays what it is when a directory is made. -/
theorem entry?_addDirectory_of_ne_none (h : t.entry? q ≠ none) :
    entry? (t.addDirectory p) q = t.entry? q := by
  cases hfile : t.files.get? q.text with
  | some content =>
    rw [entry?_of_file hfile, entry?_of_file (t := t.addDirectory p) hfile]
  | none =>
    rcases entry?_of_no_file hfile with ⟨hentry, hholds⟩ | ⟨hentry, -⟩
    · rcases entry?_of_no_file (t := t.addDirectory p) hfile with ⟨hentry', -⟩ | ⟨-, hnot⟩
      · rw [hentry, hentry']
      · exact absurd (holds_addDirectory.2 (.inl hholds)) hnot
    · exact absurd hentry h

/-- Where nothing was, a directory is there once it is made. -/
theorem entry?_addDirectory_self (h : t.entry? p = none) :
    entry? (t.addDirectory p) p = some .directory := by
  cases hfile : t.files.get? p.text with
  | some content =>
    rw [entry?_of_file hfile] at h
    cases h
  | none =>
    rcases entry?_of_no_file (t := t.addDirectory p) hfile with ⟨hentry, -⟩ | ⟨-, hnot⟩
    · exact hentry
    · exact absurd (holds_addDirectory.2 (.inr ⟨rfl, List.prefix_refl p.names⟩)) hnot

/-- A place that is not above a new directory is not changed by it. -/
theorem entry?_addDirectory_of_not_above (h : ¬ q.Above p) :
    entry? (t.addDirectory p) q = t.entry? q := by
  cases hfile : t.files.get? q.text with
  | some content =>
    rw [entry?_of_file hfile, entry?_of_file (t := t.addDirectory p) hfile]
  | none =>
    have hsame : (t.addDirectory p).Holds q ↔ t.Holds q := by
      rw [holds_addDirectory, or_iff_left h]
    rcases entry?_of_no_file hfile with ⟨hentry, hholds⟩ | ⟨hentry, hholds⟩ <;>
      rcases entry?_of_no_file (t := t.addDirectory p) hfile with
        ⟨hentry', hholds'⟩ | ⟨hentry', hholds'⟩
    · rw [hentry, hentry']
    · exact absurd (hsame.2 hholds) hholds'
    · exact absurd (hsame.1 hholds') hholds
    · rw [hentry, hentry']

/-! ## All directories on a way -/

theorem makeAlong_cons (t : Tree) (whole here : Path) (name : String) (rest : List String) :
    t.makeAlong whole here (name :: rest) =
      match t.entry? (here.step name) with
      | some .directory => t.makeAlong whole (here.step name) rest
      | some (.file _) => .error (if rest.isEmpty then .occupied whole else .notDirectory whole)
      | none => (t.addDirectory (here.step name)).makeAlong whole (here.step name) rest := rfl

/-- A place with everything above it there. -/
def Reached (t : Tree) (here : Path) : Prop := ∀ q : Path, q.Above here → t.entry? q ≠ none

theorem reached_root (t : Tree) (root : String) : t.Reached ⟨root, []⟩ := by
  rintro q ⟨-, hnames⟩
  have hnil : q.names = [] := List.prefix_nil.1 hnames
  cases hfile : t.files.get? q.text with
  | some content =>
    rw [entry?_of_file hfile]
    exact nofun
  | none =>
    rcases entry?_of_no_file hfile with ⟨hentry, -⟩ | ⟨-, hnot⟩
    · rw [hentry]
      exact nofun
    · exact absurd (.inl hnil) hnot

/-- One step further everything above is there if something is at the new place. -/
theorem Reached.step {here : Path} {name : String} (h : t.Reached here)
    (hnext : t.entry? (here.step name) ≠ none) : t.Reached (here.step name) := by
  intro q hq
  unfold Path.step at hq hnext
  split at hq
  · exact h q (Path.above_parent hq)
  · next hname =>
    rw [if_neg hname] at hnext
    rcases Path.above_child hq with rfl | hq
    · exact hnext
    · exact h q hq

/-- What is missing above the next place is that place alone: a step to the parent leads to
something that is there. -/
theorem Reached.eq_step {here : Path} {name : String} (h : t.Reached here) {q : Path}
    (hnone : t.entry? q = none) (habove : q.Above (here.step name)) : q = here.step name := by
  have hnot : ¬ q.Above here := fun hq => h q hq hnone
  unfold Path.step at habove ⊢
  split at habove
  · exact absurd (Path.above_parent habove) hnot
  · next hname =>
    rw [if_neg hname]
    exact (Path.above_child habove).resolve_right hnot

/-- A tree in which the places on a way are directories, and otherwise the tree that was. -/
structure Opens (t : Tree) (way : List Path) (made : Tree) : Prop where
  files : made.files = t.files
  on_way : ∀ q ∈ way, made.entry? q = some .directory
  elsewhere : ∀ q, q ∉ way → made.entry? q = t.entry? q

/-- A way is opened if its first place is, and then the rest. -/
theorem Opens.cons {next : Path} {rest : List Path} {more made : Tree}
    (hfirst : t.Opens [next] more) (hrest : more.Opens rest made) :
    t.Opens (next :: rest) made where
  files := hrest.files.trans hfirst.files
  on_way := by
    intro q hq
    by_cases hqrest : q ∈ rest
    · exact hrest.on_way q hqrest
    · rw [hrest.elsewhere q hqrest]
      exact hfirst.on_way q (by simpa [hqrest] using hq)
  elsewhere := by
    intro q hq
    rw [List.mem_cons, not_or] at hq
    rw [hrest.elsewhere q hq.2, hfirst.elsewhere q (by simpa using hq.1)]

/-- A directory is opened as it is. -/
theorem opens_self (h : t.entry? p = some .directory) : t.Opens [p] t where
  files := rfl
  on_way := by
    intro q hq
    rw [List.mem_singleton.1 hq, h]
  elsewhere _ _ := rfl

theorem Reached.opens_step {here : Path} {name : String} (h : t.Reached here)
    (hmissing : t.entry? (here.step name) = none) :
    t.Opens [here.step name] (t.addDirectory (here.step name)) where
  files := rfl
  on_way := by
    intro q hq
    rw [List.mem_singleton.1 hq, entry?_addDirectory_self hmissing]
  elsewhere q hq := by
    cases hentry : t.entry? q with
    | some e => rw [entry?_addDirectory_of_ne_none (by rw [hentry]; exact nofun), hentry]
    | none =>
      rw [entry?_addDirectory_of_not_above fun habove => hq ?_, hentry]
      exact List.mem_singleton.2 (h.eq_step hentry habove)

/-- **A directory is made by making the places on its way directories**, and nothing else. The
induction is on the way; what carries it is that all above the place where it stands is there. -/
theorem opens_makeAlong {whole here : Path} {names : List String} {made : Tree}
    (h : t.makeAlong whole here names = .ok made) (hhere : t.Reached here) :
    t.Opens (here.wayFrom names) made := by
  induction names generalizing t here with
  | nil =>
    obtain rfl := Except.ok.inj h
    exact ⟨rfl, fun _ hq => absurd hq List.not_mem_nil, fun _ _ => rfl⟩
  | cons name rest ih =>
    rw [makeAlong_cons] at h
    cases hnext : t.entry? (here.step name) with
    | none =>
      simp only [hnext] at h
      have hself := entry?_addDirectory_self hnext
      have hreached : (t.addDirectory (here.step name)).Reached here := fun q hq => by
        rw [entry?_addDirectory_of_ne_none (hhere q hq)]
        exact hhere q hq
      exact (hhere.opens_step hnext).cons (ih h (hreached.step (by rw [hself]; exact nofun)))
    | some e =>
      cases e with
      | file content => simp only [hnext, reduceCtorEq] at h
      | directory =>
        simp only [hnext] at h
        exact (opens_self hnext).cons (ih h (hhere.step (by rw [hnext]; exact nofun)))

/-- What making a directory leaves behind. -/
theorem opens_makeDirectory {made : Tree} (h : t.makeDirectory p = .ok made) :
    t.Opens p.way made :=
  opens_makeAlong h (reached_root t p.root)

/-! ## Directories that are there -/

theorem follow_cons (t : Tree) (whole here : Path) (name : String) (rest : List String) :
    t.follow whole here (name :: rest) =
      match t.entry? here with
      | some .directory => t.follow whole (here.step name) rest
      | some (.file _) => .error (.notDirectory whole)
      | none => .error (.missing whole) := rfl

/-- Whoever gets to a directory starts from one. -/
theorem entry?_of_follow {whole here place : Path} {names : List String}
    (h : t.follow whole here names = .ok place) (hplace : t.entry? place = some .directory) :
    t.entry? here = some .directory := by
  cases names with
  | nil =>
    obtain rfl := Except.ok.inj h
    exact hplace
  | cons name rest =>
    rw [follow_cons] at h
    cases hhere : t.entry? here with
    | none => simp [hhere] at h
    | some e =>
      cases e with
      | file content => simp [hhere] at h
      | directory => rfl

theorem makeAlong_of_follow {whole whole' here place : Path} {names : List String}
    (h : t.follow whole here names = .ok place) (hplace : t.entry? place = some .directory) :
    t.makeAlong whole' here names = .ok t := by
  induction names generalizing here with
  | nil => rfl
  | cons name rest ih =>
    have hhere := entry?_of_follow h hplace
    rw [follow_cons] at h
    simp only [hhere] at h
    have hnext := entry?_of_follow h hplace
    rw [makeAlong_cons]
    simp only [hnext]
    exact ih h

/-- To make a directory that is there changes nothing. -/
theorem makeDirectory_of_isDirectory (h : t.isDirectory p = true) : t.makeDirectory p = .ok t := by
  unfold isDirectory find locate at h
  cases hplace : t.follow p ⟨p.root, []⟩ p.names with
  | error e => simp [hplace, bind, Except.bind] at h
  | ok place =>
    refine makeAlong_of_follow hplace ?_
    cases hentry : t.entry? place with
    | none => simp [hplace, hentry, bind, Except.bind, throw, throwThe, MonadExceptOf.throw] at h
    | some e =>
      cases e with
      | file content => simp [hplace, hentry, bind, Except.bind, pure, Except.pure] at h
      | directory => rfl

end Tree

end ServiceSchema.File

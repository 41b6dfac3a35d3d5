/-
Trees of files.

A tree holds files and directories under their paths. A directory is there if it was
made or if something lies in it. Looking up a path says what it leads to, or why it
leads nowhere: a part is missing, or something on the way is a file.
-/
import ServiceSchema.File.Path
import ServiceSchema.Json.Table

set_option autoImplicit false

namespace ServiceSchema.File

/-- Why a path cannot be used. -/
inductive Fault where
  /-- Nothing is there. -/
  | missing (path : Path)
  /-- A file is where a directory would have to be made. -/
  | occupied (path : Path)
  /-- A part of the way is a file. -/
  | notDirectory (path : Path)
  /-- A directory is where a file is expected. -/
  | isDirectory (path : Path)
deriving DecidableEq, Inhabited, Repr

/-- A tree of files. -/
structure Tree where
  files : Table ByteArray := .empty
  /-- The directories that were made, by their paths. -/
  directories : List Path := []
deriving Inhabited

/-- What a path leads to. -/
inductive Entry where
  | file (content : ByteArray)
  | directory

namespace Tree

/-- Whether something lies below a path. -/
def hasBelow (t : Tree) (p : Path) : Bool :=
  (t.files.keys.map Path.ofText ++ t.directories).any fun q =>
    q.root == p.root && p.names.length < q.names.length && p.names.isPrefixOf q.names

/-- What lies directly at a path. -/
def entry? (t : Tree) (p : Path) : Option Entry :=
  match t.files.get? p.text with
  | some content => some (.file content)
  | none =>
    if p.names.isEmpty || t.directories.contains p || t.hasBelow p then some .directory else none

/-- What names lead to, one after another; `here` is where they start, and `whole` is the path that
faults report. -/
def follow (t : Tree) (whole : Path) : Path → List String → Except Fault Path
  | here, [] => .ok here
  | here, name :: rest =>
    match t.entry? here with
    | some .directory => t.follow whole (if name = ".." then here.parent else here.child name) rest
    | some (.file _) => .error (.notDirectory whole)
    | none => .error (.missing whole)

/-- The place that a path leads to. -/
def locate (t : Tree) (p : Path) : Except Fault Path := t.follow p ⟨p.root, []⟩ p.names

/-- What a path leads to. -/
def find (t : Tree) (p : Path) : Except Fault Entry := do
  match t.entry? (← t.locate p) with
  | some entry => return entry
  | none => throw (.missing p)

/-- The content of the file that a path leads to. -/
def read (t : Tree) (p : Path) : Except Fault ByteArray := do
  match ← t.find p with
  | .file content => return content
  | .directory => throw (.isDirectory p)

/-- Whether a path leads to a directory. -/
def isDirectory (t : Tree) (p : Path) : Bool :=
  match t.find p with
  | .ok .directory => true
  | _ => false

/-- Makes the directories on the way that names lead; `here` is where they start. -/
def makeAlong (t : Tree) (whole : Path) : Path → List String → Except Fault Tree
  | _, [] => .ok t
  | here, name :: rest =>
    let next := if name = ".." then here.parent else here.child name
    match t.entry? next with
    | some .directory => t.makeAlong whole next rest
    | some (.file _) => .error (if rest.isEmpty then .occupied whole else .notDirectory whole)
    | none => { t with directories := t.directories ++ [next] }.makeAlong whole next rest

/-- Makes a directory and all that it lies in. -/
def makeDirectory (t : Tree) (p : Path) : Except Fault Tree := t.makeAlong p ⟨p.root, []⟩ p.names

/-- Writes a file into a directory that is there. -/
def write (t : Tree) (p : Path) (content : ByteArray) : Except Fault Tree := do
  let place ← t.locate p
  match t.entry? place with
  | some .directory => throw (.isDirectory p)
  | _ => return { t with files := t.files.set place.text content }

end Tree

end ServiceSchema.File

/-
The program on the command line.

Here, and nowhere else, a run meets the system: the files that its words can name are
read before it, and what it wrote, logged and showed is handed over after it. What the
run does in between is `Command.execute`.
-/
import ServiceSchema.Command.Program
import Std.Time.Format

set_option autoImplicit false

namespace ServiceSchema.CommandLine

/-! ## Before the run -/

/-- A path and all directories that it lies in. -/
def withParents (p : File.Path) : List File.Path :=
  (List.range (p.names.length + 1)).map fun n => { p with names := p.names.take n }

/-- The paths that a word can name: the word itself, the value after an equals sign and the value
after a one-letter switch. -/
def namedPaths (word : String) : List File.Path :=
  let value := (word.toList.dropWhile (· ≠ '=')).drop 1
  [word, String.ofList value, String.ofList (word.toList.drop 2)].map File.Path.ofText

/-- The tree with what the system has under a path. -/
def observe (tree : File.Tree) (p : File.Path) : IO File.Tree := do
  try
    let place ← IO.FS.realPath p.text
    if ← place.isDir then return { tree with directories := tree.directories ++ [p] }
    return { tree with files := tree.files.set p.text (← IO.FS.readBinFile place) }
  catch _ => return tree

/-- The variables that concern the program. -/
def variableNames : List String :=
  ["SCHEMADOC_OUTPUT_FORMAT", "SCHEMADOC_JSON_INDENT", "SCHEMADOC_STRICT_REFERENCES",
   "SCHEMADOC_LOG_LEVEL", "SCHEMADOC_HOME_DIR", "SCHEMADOC_LOG_DIR"]

/-- The variables of the environment that are set. -/
def readVariables : IO Settings.Variables := do
  let values ← variableNames.mapM fun name => return (name, ← IO.getEnv name)
  return values.filterMap fun (name, value) => value.map (name, ·)

/-- What distinguishes this session. -/
def readStamp : IO Log.Stamp := do
  let now ← Std.Time.PlainDateTime.now
  let id ← IO.rand 0 0xFFFFFF
  return { id := String.ofList (Text.hex 6 id), start := now.format "uuuuMMdd_HHmmss"
           time := now.format "uuuu-MM-dd HH:mm:ss", place := "0" }

/-- A number of milliseconds in seconds. -/
def secondsText (milliseconds : Nat) : String :=
  (Number.Binary64.nearest false milliseconds 1000).fixed 3

/-! ## After the run -/

/-- Writes a file, and the directories that it lies in. -/
def writeFile (p : File.Path) (content : ByteArray) : IO Unit := do
  IO.FS.createDirAll p.parent.text
  IO.FS.writeBinFile p.text content

/-- Leads the link of a directory to a file in it. -/
def writeLink (directory file : File.Path) : IO Unit := do
  let link := (directory.child Log.Journal.linkName).text
  try IO.FS.removeFile link catch _ => pure ()
  try IO.FS.hardLink file.text link catch _ => pure ()

/-- Hands over what a run did. -/
def handOver (before : File.Tree) (t : Command.Transcript) : IO Unit := do
  for (name, content) in t.tree.files.entries do
    if (before.files.get? name).map (·.data) ≠ some content.data then writeFile (.ofText name) content
  for (name, lines) in t.journal.files.entries do
    writeFile (.ofText name) (Text.encode (Log.textOfLines lines))
  for (directory, file) in t.journal.links.entries do
    writeLink (.ofText directory) file
  IO.print t.output
  for line in t.shown do
    IO.eprintln (Text.trimEnd line)

end ServiceSchema.CommandLine

open ServiceSchema ServiceSchema.CommandLine in
/-- Runs the program. -/
def main (words : List String) : IO UInt32 := do
  let started ← IO.monoMsNow
  let home := File.Path.ofText ((← IO.getEnv "HOME").getD "")
  let environment ← readVariables
  let named := (words ++ environment.map (·.2)).flatMap namedPaths
  let paths := (Settings.assignmentFile :: home.child ".schemadoc" :: named).flatMap withParents
  let tree ← paths.eraseDups.foldlM observe {}
  let around : Command.Surroundings :=
    { program := "schemadoc", home, environment, stamp := ← readStamp
      elapsed := secondsText ((← IO.monoMsNow) - started) }
  let outcome := Command.execute around tree words
  handOver tree outcome.transcript
  if let some fault := outcome.fault then IO.eprintln fault.message
  return UInt32.ofNat outcome.exitCode

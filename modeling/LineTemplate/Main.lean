import LineTemplate.Command.Run
import LineTemplate.Text.Utf8

/-!
The command line. It reads what the command looks at, runs the command on that, prints what the
command has printed and writes the files that it has changed.
-/

set_option autoImplicit false

namespace LineTemplate.Main

def content? (p : Path) : IO (Option Text) := do
  try
    let bytes ← IO.FS.readBinFile (Text.toString p.text)
    return some (Utf8.decode bytes.toList)
  catch _ => return none

def names? (p : Path) : IO (Option (List Text)) := do
  try
    let place ← IO.FS.realPath (Text.toString p.text)
    let entries ← place.readDir
    return some (entries.toList.map fun e => Text.ofString e.fileName)
  catch _ => return none

def look (tree : FileTree) (p : Path) : IO FileTree := do
  match ← names? p with
  | none =>
    match ← content? p with
    | some content => return tree.put p content
    | none => return tree
  | some names =>
    let mut tree := (FileTree.ancestors p).foldl FileTree.ensureDirectory tree
    for name in names do
      let inner := p ++ [name]
      match ← content? inner with
      | some content => tree := tree.set inner (.file content)
      | none => tree := tree.set inner .directory
    return tree

def now : IO (Option Instant) := do
  let (_, file) ← IO.FS.createTempFile
  let time := (← file.metadata).modified
  IO.FS.removeFile file
  return Instant.ofMilliseconds? (time.sec * 1000 + time.nsec.toNat / 1000000)

def environment : IO Variables := do
  let mut v : Variables := []
  for key in Settings.variableNames do
    if let some value ← IO.getEnv (Text.toString key) then
      v := Members.set v key (Text.ofString value)
  return v

def store (before : FileTree) (p : Path) (node : FileNode) : IO Unit := do
  if before.find? p = some node then return ()
  let place := Text.toString p.text
  match node with
  | .directory => IO.FS.createDirAll place
  | .file content => IO.FS.writeBinFile place ⟨(Utf8.encode content).toArray⟩

def print (out : IO.FS.Stream) (t : Text) : IO Unit := do
  out.write ⟨(Utf8.encode t).toArray⟩
  out.flush

end LineTemplate.Main

open LineTemplate in
def main (arguments : List String) : IO UInt32 := do
  let here ← IO.currentDir
  let directory := Path.resolve [] (Text.ofString here.toString)
  let start ← Main.look [] (directory ++ [(".env" : Text)])
  let bytes ← IO.getRandomBytes 3
  let input : Command.Input := {
    arguments := arguments.map Text.ofString
    environment := ← Main.environment
    directory
    files := (FileTree.ancestors directory).foldl FileTree.ensureDirectory start
    clock := ← Main.now
    runBytes := bytes.toList }
  let files ← (Command.paths input).foldlM Main.look input.files
  let outcome := Command.run { input with files := files }
  for (path, node) in outcome.files do
    Main.store files path node
  Main.print (← IO.getStdout) outcome.output
  Main.print (← IO.getStderr) outcome.errors
  return outcome.exit.toUInt32

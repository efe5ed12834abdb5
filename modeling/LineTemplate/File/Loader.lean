import LineTemplate.File.Tree
import LineTemplate.Members
import LineTemplate.Text.Case

/-!
Loading templates from a directory. A loader reads files below its directory only, and keeps what it
has read, by the name it was asked for.
-/

set_option autoImplicit false

namespace LineTemplate

structure TemplateFile where
  /-- The name for inclusions: that of the file without its extension. -/
  name : Text
  filename : Text
  source : Text
deriving DecidableEq, Repr

structure Loader where
  base : Path
  cache : Members TemplateFile

namespace Loader

def extensions : List Text := List.map Text.ofString [".tpl", ".txt", ".md"]

def extensionOf (filename : Text) : Text := (Path.fileExtension filename).toLower

def isTemplateName (filename : Text) : Bool := extensions.contains (extensionOf filename)

def openDirectory (files : FileTree) (base : Path) : Except ErrorReport Loader :=
  if files.contains base then .ok ⟨base, []⟩
  else
    .error (.templateLoad base.text
      (some (("Template directory does not exist: " : Text) ++ base.text)))

def outside (base : Path) (filename : Text) : ErrorReport :=
  .templateLoad (Path.resolve base filename).text
    (some (("Template path leaves the template directory: " : Text) ++ filename))

def read (files : FileTree) (base : Path) (filename : Text) : Except ErrorReport TemplateFile :=
  let path := Path.resolve base filename
  if Path.leaves (Path.relative base path) then .error (outside base filename)
  else if !files.contains path then
    .error (.templateLoad path.text (some (("Template file not found: " : Text) ++ path.text)))
  else if !isTemplateName filename then
    .error (.templateLoad path.text
      (some (("Unsupported template extension \"" : Text) ++ extensionOf filename ++
        ("\". Use: " : Text) ++ Text.join ", " extensions)))
  else
    match files.read path with
    | .ok source => .ok ⟨Path.fileStem filename, filename, source⟩
    | .error fault => .error (fault.report "read" none)

/-- The template in a file. What fails is not kept. -/
def load (l : Loader) (files : FileTree) (filename : Text) :
    Except ErrorReport TemplateFile × Loader :=
  match l.cache.get? filename with
  | some file => (.ok file, l)
  | none =>
    match read files l.base filename with
    | .ok file => (.ok file, { l with cache := l.cache.set filename file })
    | .error e => (.error e, l)

def clear (l : Loader) : Loader := { l with cache := [] }

/-- The names of the templates in a directory, in order. A directory that does not exist has none. It fails
if one of the names that are read, of whatever kind, leads to nothing. -/
def list (files : FileTree) (directory : Path) : Except ErrorReport (List Text) :=
  match files.find? directory with
  | none => .ok []
  | some (.file _) => .error (FileFault.notDirectory.report "scandir" (some directory.text))
  | some .directory =>
    match (files.names directory).find? fun name => !files.contains (directory ++ [name]) with
    | some name => .error (FileFault.notFound.report "stat" (some (directory ++ [name]).text))
    | none =>
      let templates := (files.names directory).filter fun name =>
        files.isFile (directory ++ [name]) && isTemplateName name
      .ok (templates.mergeSort Text.le)

def reservedName : Text := "__proto__"

/-- Loads files in order, adding the source of each under its name. Of two files with one name the
later one counts. -/
def loadEach (files : FileTree) (l : Loader) (sofar : Members Text) :
    List Text → Except ErrorReport (Members Text) × Loader
  | [] => (.ok sofar, l)
  | filename :: rest =>
    match l.load files filename with
    | (.error e, l) => (.error e, l)
    | (.ok file, l) =>
      loadEach files l (if file.name = reservedName then sofar else sofar.set file.name file.source)
        rest

def loadAll (l : Loader) (files : FileTree) : Except ErrorReport (Members Text) × Loader :=
  match list files l.base with
  | .error e => (.error e, l)
  | .ok filenames => loadEach files l [] filenames

end Loader

end LineTemplate

import LineTemplate.ErrorReport
import LineTemplate.File.Path

/-!
File trees: which places hold files and which are directories. The root is always a directory. Files
hold text. The names on the disk are bytes, not all of them UTF-8: a name that is not is spelled here with
surrogates that have no partners. No path leads there, and it is listed with U+FFFD in their place.
-/

set_option autoImplicit false

namespace LineTemplate

inductive FileNode where
  | file (content : Text)
  | directory
deriving DecidableEq, Repr

inductive FileFault where
  | notFound
  | isDirectory
  | notDirectory
  | alreadyExists
deriving DecidableEq, Repr

namespace FileFault

def description : FileFault → Text
  | .notFound => "ENOENT: no such file or directory"
  | .isDirectory => "EISDIR: illegal operation on a directory"
  | .notDirectory => "ENOTDIR: not a directory"
  | .alreadyExists => "EEXIST: file already exists"

def report (fault : FileFault) (operation : String) (written : Option Text) : ErrorReport :=
  let place : Text :=
    match written with
    | some path => (" '" : Text) ++ path ++ ("'" : Text)
    | none => []
  .plain "Error" (fault.description ++ (", " : Text) ++ (operation : Text) ++ place)

end FileFault

/-- Places with what they hold; no place occurs twice in a tree that `set` has built. -/
abbrev FileTree := List (Path × FileNode)

namespace FileTree

def find? (tree : FileTree) (p : Path) : Option FileNode :=
  if p.isEmpty then some .directory else tree.lookup p.onDisk

def contains (tree : FileTree) (p : Path) : Bool := (tree.find? p).isSome

def isFile (tree : FileTree) (p : Path) : Bool :=
  match tree.find? p with
  | some (.file _) => true
  | _ => false

def replace (tree : FileTree) (place : Path) (node : FileNode) : FileTree :=
  match tree with
  | [] => [(place, node)]
  | (q, old) :: rest => if q = place then (place, node) :: rest else (q, old) :: replace rest place node

def set (tree : FileTree) (p : Path) (node : FileNode) : FileTree := tree.replace p.onDisk node

def erase (tree : FileTree) (p : Path) : FileTree := tree.filter fun (q, _) => !p.onDisk.isPrefixOf q

def read (tree : FileTree) (p : Path) : Except FileFault Text :=
  match tree.find? p with
  | some (.file content) => .ok content
  | some .directory => .error .isDirectory
  | none => .error .notFound

def names (tree : FileTree) (p : Path) : List Text :=
  tree.filterMap fun (q, _) => if q.dropLast = p.onDisk then q.getLast?.map Text.wellFormed else none

/-- The paths on the way to `p`, and `p` itself. -/
def ancestors (p : Path) : List Path := (List.range p.length).map fun n => p.take (n + 1)

def ensureDirectory (tree : FileTree) (p : Path) : FileTree :=
  if tree.contains p then tree else tree.set p .directory

def makeDirectories (tree : FileTree) (p : Path) : Except FileFault FileTree :=
  if tree.isFile p then .error .alreadyExists
  else if (ancestors p).any tree.isFile then .error .notDirectory
  else .ok ((ancestors p).foldl ensureDirectory tree)

def put (tree : FileTree) (p : Path) (content : Text) : FileTree :=
  ((ancestors p.dropLast).foldl ensureDirectory tree).set p (.file content)

def append (tree : FileTree) (p : Path) (content : Text) : Except FileFault FileTree :=
  match tree.find? p with
  | some (.file old) => .ok (tree.set p (.file (old ++ content)))
  | some .directory => .error .isDirectory
  | none =>
    match tree.find? p.dropLast with
    | some .directory => .ok (tree.set p (.file content))
    | some (.file _) => .error .notDirectory
    | none => .error (if (ancestors p).any tree.isFile then .notDirectory else .notFound)

end FileTree

end LineTemplate

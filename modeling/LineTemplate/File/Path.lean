import LineTemplate.Text.Basic

/-!
Paths. An absolute path is the list of its components from the root. A written path may be relative,
may repeat slashes and may hold the components `.` and `..`; resolving it removes them.
-/

set_option autoImplicit false

namespace LineTemplate

abbrev Path := List Text

namespace Path

def segments (written : Text) : List Text := Text.splitOn '/' written

def isAbsolute (written : Text) : Bool := written.head? == some '/'

/-- Goes one segment further. The root has no directory above it. -/
def follow (p : Path) (segment : Text) : Path :=
  if segment.isEmpty || segment = "." then p
  else if segment = ".." then p.dropLast
  else p ++ [segment]

def resolve (base : Path) (written : Text) : Path :=
  (segments written).foldl follow (if isAbsolute written then [] else base)

/-- The place on the disk that a path means: names are written as UTF-8. -/
def onDisk (p : Path) : Path := p.map Text.wellFormed

def text (p : Path) : Text := ("/" : Text) ++ Text.join "/" p

/-- The segments of the way from a directory to a path: up to the last directory that they share, then
down. -/
def way (directory p : Path) : List Text :=
  match directory, p with
  | [], p => p
  | a :: rest, b :: below =>
    if a = b then way rest below else List.replicate directory.length (".." : Text) ++ p
  | _ :: _, [] => List.replicate directory.length (".." : Text)

def relative (directory p : Path) : Text := Text.join "/" (way directory p)

/-- Whether a written path leads out of the directory it starts at, or to this directory itself. -/
def leaves (written : Text) : Bool :=
  written.isEmpty || written = ".." || ("../" : Text).isPrefixOf written || isAbsolute written

def fileName (written : Text) : Text :=
  ((segments written).reverse.find? fun s => !s.isEmpty).getD []

/-- The end of a name from its last dot on. A dot that starts the name starts no extension, and the
name `..` has none. -/
def extensionOfName (name : Text) : Text :=
  let (start, rest) := Text.splitEnd (fun c => c != '.') name
  if start.length ≤ 1 || name = ".." then [] else ("." : Text) ++ rest

def fileExtension (written : Text) : Text := extensionOfName (fileName written)

def fileStem (written : Text) : Text :=
  let name := fileName written
  name.take (name.length - (extensionOfName name).length)

def joinSegment (absolute : Bool) (sofar : List Text) (segment : Text) : List Text :=
  if segment.isEmpty || segment = "." then sofar
  else if segment = ".." then
    match sofar.getLast? with
    | some last => if last = ".." then sofar ++ [segment] else sofar.dropLast
    | none => if absolute then [] else [segment]
  else sofar ++ [segment]

def tidy (written : Text) : Text :=
  if written.isEmpty then "."
  else
    let absolute := isAbsolute written
    let body := Text.join "/" ((segments written).foldl (joinSegment absolute) [])
    let closing : Text := if written.getLast? == some '/' then "/" else []
    if absolute then ("/" : Text) ++ body ++ (if body.isEmpty then [] else closing)
    else if body.isEmpty then ("." : Text) ++ closing
    else body ++ closing

def joinWritten (directory name : Text) : Text :=
  tidy (Text.join "/" ([directory, name].filter fun part => !part.isEmpty))

end Path

end LineTemplate

import LineTemplate.File.Tree
import LineTemplate.Json.Parser
import LineTemplate.Template.Options

/-!
Files of template variables: a JSON object, whose members become the entries of a scope.
-/

set_option autoImplicit false

namespace LineTemplate

namespace Json

mutual

def toDatum : Json → Datum
  | .null => .null
  | .bool b => .bool b
  | .number x => .number x
  | .text t => .text t
  | .array items => .array (itemsToDatum items)
  | .object members => .object (membersToDatum members)

def itemsToDatum : List Json → List Datum
  | [] => []
  | j :: rest => j.toDatum :: itemsToDatum rest

def membersToDatum : List (Text × Json) → List (Text × Datum)
  | [] => []
  | (key, j) :: rest => (key, j.toDatum) :: membersToDatum rest

end

end Json

namespace VariablesFile

def reservedName : Text := "__proto__"

def parseFault : Text := "the text is not a JSON value"

def invalid (path : Path) (reason : Text) : ErrorReport :=
  .variablesFile path.text (some (("Variables file is not valid JSON: " : Text) ++ reason))

def ofText (path : Path) (content : Text) : Except ErrorReport (Members Datum) :=
  match Json.parse? content with
  | none => .error (invalid path parseFault)
  | some j =>
    match j.toDatum with
    | .object members => .ok (members.filter fun m => m.1 != reservedName)
    | d =>
      .error (.variablesFile path.text
        (some (("Variables file must hold a JSON object: (root): Expected object, received " : Text)
          ++ d.kindName)))

def load (files : FileTree) (path : Path) : Except ErrorReport (Members Datum) :=
  if !files.contains path then
    .error (.variablesFile path.text (some (("Variables file not found: " : Text) ++ path.text)))
  else
    match files.read path with
    | .ok content => ofText path content
    | .error fault => .error (invalid path (fault.report "read" none).message)

end VariablesFile

end LineTemplate

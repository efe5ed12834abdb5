import LineTemplate.Script.Tree

/-!
The names that blocks and functions declare. A function declared in a block is exposed to the whole
function around it, unless a name of a block between, a name or a parameter of the function is in the
way.
-/

set_option autoImplicit false

namespace LineTemplate.Script

/-- The names that a list of statements declares for its own block: those that have no value before
their declaration runs, with whether they may be assigned to. -/
def lexicalNames (body : List Stmt) : List (Text × Bool) :=
  body.flatMap fun
    | .declare mutable pattern _ _ => pattern.names.map fun id => (id, mutable)
    | _ => []

def declaredFunctions (body : List Stmt) : List (Text × FunctionHead × List Stmt) :=
  body.filterMap fun
    | .function id head inner _ => some (id, head, inner)
    | _ => none

def blockNames (body : List Stmt) : List Text :=
  (lexicalNames body).map (·.1) ++ (declaredFunctions body).map (·.1)

mutual

/-- The functions that are exposed by the blocks inside a statement; `barred` are the names in the
way. -/
def exposedNames (barred : List Text) : Stmt → List Text
  | .choose _ yes no _ => exposedByBlock barred yes ++ exposedByBlock barred no
  | .forOf _ pattern _ body _ _ => exposedByBlock (pattern.names ++ barred) body
  | .forLoop start _ _ body => exposedByBlock (blockNames start ++ barred) body
  | .repeatWhile _ body => exposedByBlock barred body
  | .block body => exposedByBlock barred body
  | .expr _ _ | .declare _ _ _ _ | .function _ _ _ _ | .return _ _ | .throw _ _ => []

def exposedByBlock (barred : List Text) (body : List Stmt) : List Text :=
  ((declaredFunctions body).map (·.1)).filter (fun id => !barred.contains id) ++
    exposedByAll (blockNames body ++ barred) body

def exposedByAll (barred : List Text) : List Stmt → List Text
  | [] => []
  | s :: rest => exposedNames barred s ++ exposedByAll barred rest

end

def exposedFunctions (params : List Text) (body : List Stmt) : List Text :=
  exposedByAll ((lexicalNames body).map (·.1) ++ params) body

end LineTemplate.Script

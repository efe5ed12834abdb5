import LineTemplate.Json.Basic
import LineTemplate.Number.Printing
import LineTemplate.Text.Quoted

/-!
Writing JSON, on one line or over several. A number without a JSON form is written as null.
-/

set_option autoImplicit false

namespace LineTemplate.Json

def numberText (x : Float) : Text := if x.isFinite then Number.text x else "null"

def bracketed (opening closing : Text) (indent : Option Nat) (parts : List Text) : Text :=
  if parts.isEmpty then opening ++ closing
  else
    match indent with
    | none => opening ++ Text.join "," parts ++ closing
    | some columns =>
      let line (n : Nat) : Text := ("\n" : Text) ++ Text.spaces n
      opening ++ line (columns + 2) ++ Text.join (("," : Text) ++ line (columns + 2)) parts ++
        line columns ++ closing

mutual

/-- The text of a value that stands at the given indentation; `none` puts all on one line. -/
def write (indent : Option Nat) : Json → Text
  | .null => "null"
  | .bool true => "true"
  | .bool false => "false"
  | .number x => numberText x
  | .text t => t.quoted
  | .array items => bracketed "[" "]" indent (writeItems (indent.map (· + 2)) items)
  | .object members => bracketed "\x7b" "\x7d" indent (writeMembers (indent.map (· + 2)) members)

def writeItems (indent : Option Nat) : List Json → List Text
  | [] => []
  | item :: rest => write indent item :: writeItems indent rest

def writeMembers (indent : Option Nat) : List (Text × Json) → List Text
  | [] => []
  | (key, value) :: rest =>
    (key.quoted ++ (if indent.isSome then (": " : Text) else (":" : Text)) ++ write indent value) ::
      writeMembers indent rest

end

def compact (j : Json) : Text := j.write none

def pretty (j : Json) : Text := j.write (some 0)

end LineTemplate.Json

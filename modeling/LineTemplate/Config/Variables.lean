import LineTemplate.ErrorReport
import LineTemplate.Members
import LineTemplate.Number.Reading
import LineTemplate.Text.Case

/-!
Environment variables. An empty variable counts as one that is not set.
-/

set_option autoImplicit false

namespace LineTemplate

abbrev Variables := Members Text

def choose? (value : Text) (choices : List Text) : Option Text := choices.find? fun c => c = value

def unknownChoice (key value : Text) (choices : List Text) : ErrorReport :=
  .config (("Invalid " : Text) ++ key ++ (": " : Text) ++ value ++ (". Must be one of: " : Text) ++
    Text.join ", " choices ++ ("." : Text))

namespace Variables

def value? (v : Variables) (key : Text) : Option Text :=
  match Members.get? v key with
  | some [] | none => none
  | some t => some t

def required (v : Variables) (key : Text) : Except ErrorReport Text :=
  match v.value? key with
  | some t => .ok t
  | none => .error (.config (("Missing required environment variable: " : Text) ++ key))

def text (v : Variables) (key otherwise : Text) : Text := (v.value? key).getD otherwise

def integer (v : Variables) (key : Text) (otherwise : Float) : Except ErrorReport Float :=
  match v.value? key with
  | none => .ok otherwise
  | some t =>
    let x := Number.integerAtStart t
    if x.isNaN then
      .error (.config (("Environment variable " : Text) ++ key ++
        (" must be a valid integer, got: " : Text) ++ t))
    else .ok x

def yesWords : List Text := List.map Text.ofString ["true", "1", "yes"]

def noWords : List Text := List.map Text.ofString ["false", "0", "no"]

def flag (v : Variables) (key : Text) (otherwise : Bool) : Except ErrorReport Bool :=
  match v.value? key with
  | none => .ok otherwise
  | some t =>
    if yesWords.contains t.toLower then .ok true
    else if noWords.contains t.toLower then .ok false
    else
      .error (.config (("Environment variable " : Text) ++ key ++
        (" must be a boolean (true/false/1/0/yes/no), got: " : Text) ++ t))

def choice (v : Variables) (key : Text) (choices : List Text) (otherwise : Text) :
    Except ErrorReport Text :=
  match v.value? key with
  | none => .ok otherwise
  | some t =>
    match choose? t choices with
    | some c => .ok c
    | none => .error (unknownChoice key t choices)

end Variables

end LineTemplate

import LineTemplate.Evaluation.Binding

/-!
The engine: what functions do when they are called. Calls nest to a fixed depth; a call beyond it
raises an error that scripts can tell from others.
-/

set_option autoImplicit false

namespace LineTemplate.Script

namespace Run

def argument (args : List Value) (i : Nat) : Value := args[i]?.getD .undefined

/-- An error of a class, with its message argument. Without one it has no message of its own. -/
def makeError (engine : Engine) (frames : List Frame) (name : Text) (message : Value) :
    Run Value := do
  match message with
  | .undefined =>
    allocate { Obj.ofKind (.error .none name) with
      hidden := [("stack", .text (stackText name [] frames))] }
  | v => newError frames ⟨name, ← toText engine frames v, .none⟩

def evaluateLoaded (engine : Engine) (frames : List Frame) (template : Text) (options : Datum) :
    Run Value := do
  match (← get).templates.get? template with
  | none =>
    raise frames (.plain "Error" (("template '" : Text) ++ template ++ ("' is not loaded" : Text)))
  | some t =>
    match EvaluationOptions.parse (.spread (.record [("returnAsLines", .bool true)]) options) with
    | .error report => raise frames report
    | .ok o =>
      match ← t.evaluate engine frames o [] with
      | .failed trail => raise frames (.plain "Error" trail.format)
      | .produced (.lines content) => allocateArray (content.map .text)
      | .produced (.text content) => return .text content

/-- Calls a function that is not written in a script on a value. `self` is the function's address. -/
def callNative (engine : Engine) (frames : List Frame) (self : Nat) (this : Value)
    (args : List Value) : Native → Run Value
  | .const value => return value
  | .throw error => do throwValue (← make frames error)
  | .wrap lead trail => do
    return .text (lead ++ (← textOf engine frames (argument args 0)) ++ trail)
  | .identity => return argument args 0
  | .typeName => do return .text (← Run.typeName (argument args 0))
  | .counter count => do
    setKind self (.function (.native (.counter (count + 1))))
    return .number (count + 1)
  | .lookup table otherwise => do
    make frames ((Members.get? table (← textOf engine frames (argument args 0))).getD otherwise)
  | .sequence supply => allocateGiven (.generator (.supply supply))
  | .build value => make frames value
  | .decorate factory lead trail => allocateKind (.generator (.decorated factory lead trail))
  | .indexed => indexedItems frames (argument args 0)
  | .entries => entryPairs frames (argument args 0)
  | .evaluate template options => evaluateLoaded engine frames template options
  | .textHelper scope => do
    let expression ← textOf engine frames (argument args 1)
    let v ← readExpression engine frames (argument args 0) expression
    return .text (← convertValue engine frames scope v expression)
  | .listHelper scope => do
    let expression ← textOf engine frames (argument args 3)
    let indent ← textOf engine frames (argument args 2)
    let v ← readExpression engine frames (argument args 1) expression
    emitLines engine frames scope (argument args 0) v indent expression
    return .undefined
  | .read scope source => readSource frames scope source
  | .method m => Method.apply engine frames m this args
  | .errorClass name => makeError engine frames name (argument args 0)

def callFunction (engine : Engine) (frames : List Frame) (f this : Value) (args : List Value) :
    Run Value := do
  match f, ← kind? f with
  | .ref _, some (.function (.closure c)) => callClosure engine frames f c args
  | .ref address, some (.function (.native native)) =>
    callNative engine frames address this args native
  | _, _ => raiseType frames ((plainText f) ++ (" is not a function" : Text))

/-- The functions active when a function is entered: one of a script stands at its parameters. -/
def entryFrames (frames : List Frame) (f : Value) : Run (List Frame) := do
  match ← kind? f with
  | some (.function (.closure c)) => return ⟨c.home.serial, c.head.entry.line⟩ :: frames
  | _ => return frames

end Run

namespace Engine

def overflow {α : Type} (frames : List Frame) : Run α :=
  Run.raiseRange frames "Maximum call stack size exceeded"

def nested : Nat → Engine
  | 0 =>
    ⟨fun frames f _ _ => do overflow (← Run.entryFrames frames f), fun frames _ => overflow frames⟩
  | depth + 1 =>
    ⟨fun frames f this args => Run.callFunction (nested depth) frames f this args,
      fun frames address => Run.continueGenerator (nested depth) frames address⟩

def depthLimit : Nat := 9000

def standard : Engine := nested depthLimit

end Engine

end LineTemplate.Script

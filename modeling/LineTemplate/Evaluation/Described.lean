import LineTemplate.Evaluation.Session

/-!
The parts of the engine on described values: a template rendered in one step, code compiled and run
by itself, and the sequences that templates are given.
-/

set_option autoImplicit false

namespace LineTemplate

open Script

inductive Rendering where
  | text (content : Text)
  | failed (trail : ErrorTrail)

namespace Rendering

def ofAnswer : StepAnswer → Except Thrown Rendering
  | .produced output => .ok (.text output.toText)
  | .failed trail => .ok (.failed trail)
  | .refused report => .error (.error report)
  | .thrown v => .error (.value v)
  | .loaded _ | .listed _ | .done | .notLoaded => .ok (.text [])

end Rendering

def expansionKeys : List Text := ["indentColumns", "useAltDelimiters"]

def expansionPart (members : Members Datum) : Datum :=
  .object (expansionKeys.map fun key => (key, (members.get? key).getD .undefined))

def evaluationPart (members : Members Datum) : Datum :=
  .object (Members.set (members.filter fun m => !expansionKeys.contains m.1) "returnAsLines"
    (.bool false))

namespace Session

/-- Loads a program and evaluates what was loaded. The options are checked when the code has been
compiled. -/
def renderProgram (program : Program) (scope : Nat) (options : Datum) : Run StepAnswer := do
  match ← Run.load .standard program scope .script with
  | .failed trail => return .failed trail
  | .loaded template =>
    match EvaluationOptions.parse options with
    | .error report => return .refused report
    | .ok o =>
      match ← template.evaluate .standard [] o [] with
      | .produced output => return .produced output
      | .failed trail => return .failed trail

/-- Renders a template against a named scope. What is loaded is not kept. -/
def render (s : Session) (scope : Text) (options : Datum) (included : Members Text)
    (template : Text) : Except Thrown Rendering × Session :=
  match options with
  | .null =>
    (.error (.error (.plain "TypeError"
      "Cannot destructure property 'indentColumns' of 'options' as it is null.")), s)
  | _ =>
    let (s, address) := s.ensureScope scope
    match Program.ofTemplate (expansionPart options.members) included template with
    | .error report => (.error (.error report), s)
    | .ok program =>
      let run := renderProgram program address (evaluationPart options.members)
      let (answer, s) := ofRun s.scopes run s.store
      (Rendering.ofAnswer answer, s)

end Session

def render (scope options : Datum) (included : Members Text) (template : Text) :
    Except Thrown Rendering :=
  ((Session.empty.addScope "scope" scope).render "scope" options included template).1

inductive CodeOutcome where
  | refused (diagnostic : Diagnostic)
  | result (value : Datum)
  | failed (failure : FailureDescription)

def runCode (code : Text) (scope : Datum) : Except Thrown CodeOutcome :=
  let run : Run CodeOutcome := do
    match ← Run.make [] scope with
    | .ref address =>
      match ← Run.compileScript .standard code address with
      | .error diagnostic => return .refused diagnostic
      | .ok executable =>
        let bound : BoundTemplate := ⟨default, address, executable⟩
        match ← Run.attempt (bound.run .standard []) with
        | .ok v => return .result (← Run.describe v)
        | .error v => return .failed (← bound.describeFailure .standard [] v)
    | _ => return .result .undefined
  (run.finish .empty).1

def messageOf (thrown : Datum) : Except Thrown Text :=
  let run : Run Text := do Run.failureMessage .standard [] (← Run.make [] thrown)
  (run.finish .empty).1

def textOfThrown (thrown : Datum) : Except Thrown Text :=
  let run : Run Text := do Run.textOf .standard [] (← Run.make [] thrown)
  (run.finish .empty).1

def failureOf (thrown : Datum) (serial : Nat) : Except Thrown FailureDescription :=
  let run : Run FailureDescription := do
    Run.describeFailure .standard [] serial (← Run.make [] thrown)
  (run.finish .empty).1

def describeItems (v : Value) : Run (List Datum) := do
  (← Run.collect .standard [] v).mapM Run.describe

def indexedList (items : Datum) : Except Thrown (List Datum) :=
  let run : Run (List Datum) := do
    describeItems (← Run.indexedItems [] (← Run.make [] items))
  (run.finish .empty).1

def entryList (source : Datum) : Except Thrown (List Datum) :=
  let run : Run (List Datum) := do
    describeItems (← Run.entryPairs [] (← Run.make [] source))
  (run.finish .empty).1

def decoratedTwice (items : Datum) (lead trail : Text) : Except Thrown (List Datum × List Datum) :=
  let run : Run (List Datum × List Datum) := do
    let factory ← Run.allocateFunction (.build items)
    let once : Run (List Datum) := do
      describeItems (← Run.allocateKind (.generator (.decorated factory lead trail)))
    return (← once, ← once)
  (run.finish .empty).1

end LineTemplate

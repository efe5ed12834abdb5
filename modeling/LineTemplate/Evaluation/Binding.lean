import LineTemplate.Evaluation.Failure
import LineTemplate.Evaluation.Helper
import LineTemplate.Evaluation.Output
import LineTemplate.Script.Exchange
import LineTemplate.Script.Interpreter
import LineTemplate.Script.Parser
import LineTemplate.Script.Placement
import LineTemplate.Template.Expansion

/-!
Loading and evaluating templates. A loaded template is a program bound to a scope; each evaluation
reads the scope anew, so what one leaves there the next one sees. A failure while a program is
compiled or runs gives a trail; errors in options and in inclusions are the caller's.
-/

set_option autoImplicit false

namespace LineTemplate

open Script

def Script.SyntaxFault.message : Text := "Invalid or unexpected token"

inductive Evaluator where
  /-- As a script. -/
  | script
  /-- The code is left aside, and given steps run instead. -/
  | playback (steps : Playback)
  /-- The code is refused. -/
  | rejecting (diagnostic : Diagnostic)

inductive LoadResult where
  | loaded (template : BoundTemplate)
  | failed (trail : ErrorTrail)

inductive EvaluationResult where
  | produced (output : Output)
  | failed (trail : ErrorTrail)

namespace SourceLocation

def toDatum (l : SourceLocation) : Datum :=
  .record [("template", .text l.template), ("line", .number (Float.ofInt l.line))]

end SourceLocation

namespace ErrorTrail

def locationDatum (t : ErrorTrail) : Datum := .array (t.location.map SourceLocation.toDatum)

end ErrorTrail

def ExpansionOptions.style (o : ExpansionOptions) : DelimiterStyle :=
  if o.useAltDelimiters then .alternate else .standard

namespace Program

/-- The program of a template under described options. An indentation that no text can hold is
refused; beyond that the lengths of texts are not limited here. -/
def ofTemplate (options : Datum) (included : Members Text) (template : Text) :
    Except ErrorReport Program := do
  let o ← ExpansionOptions.parse options
  if Text.maxLength < o.columns then throw (.plain "RangeError" "Invalid string length")
  match expand o.columns o.style included template with
  | .ok program => .ok program
  | .error e => .error e.report

theorem ofTemplate_eq {given : Datum} {o : ExpansionOptions} (parsed : ExpansionOptions.parse given = .ok o)
    (fits : o.columns ≤ Text.maxLength) (included : Members Text) (template : Text) :
    ofTemplate given included template =
      (expand o.columns o.style included template).mapError ExpansionError.report := by
  unfold ofTemplate
  rw [parsed]
  change (if Text.maxLength < o.columns then _ else _) = _
  rw [if_neg (Nat.not_lt.2 fits)]
  cases expand o.columns o.style included template <;> rfl

end Program

namespace Script.Run

def attempt (run : Run Value) : Run (Except Value Value) :=
  tryCatch (do return .ok (← run)) fun
    | .thrown v => return .error v
    | .unfollowed => throw .unfollowed

def addText (engine : Engine) (frames : List Frame) (texts : List Text) (item : Value) :
    Run (List Text) := do
  return (← textOf engine frames item) :: texts

/-- The texts of the items of the array at an address. The array is read in place: what a conversion adds
to it is converted as well. -/
def itemTexts (engine : Engine) (frames : List Frame) (address : Nat) : Run (List Text) := do
  let limit ← loopLimit (.ref address)
  return (← fold engine frames (addText engine frames) limit [] (.array address 0)).reverse

def freshSerial : Run Nat := do
  let s ← get
  set { s with nextSerial := s.nextSerial + 1 }
  return s.nextSerial

def compileScript (engine : Engine) (code : Text) (scope : Nat) :
    Run (Except Diagnostic Executable) := do
  let serial ← freshSerial
  match parse code with
  | .error fault => return .error ⟨SyntaxFault.message, some fault.line⟩
  | .ok body =>
    let value ← runScript engine ⟨scope, serial⟩ (placed body)
    if ← isFunction value then return .ok (.script value serial)
    return .error ⟨"generated code did not evaluate to a function", none⟩

def compile (engine : Engine) (evaluator : Evaluator) (code : Text) (scope : Nat) :
    Run (Except Diagnostic Executable) :=
  match evaluator with
  | .script => compileScript engine code scope
  | .playback steps => return .ok (.playback steps)
  | .rejecting diagnostic => return .error diagnostic

def load (engine : Engine) (program : Program) (scope : Nat) (evaluator : Evaluator) :
    Run LoadResult := do
  logDebug "Template expanded"
    [("lines", .ofNat program.sourceLines.length),
      ("instructions", .ofNat program.instructions.length),
      ("inclusions", .array (program.inclusions.map fun i => .text i.name))]
  prepareScope scope
  match ← compile engine evaluator program.code scope with
  | .error diagnostic =>
    let trail := ErrorTrail.ofDiagnostic program diagnostic
    logDebug "Template compilation failed"
      [("message", .text trail.message), ("location", trail.locationDatum)]
    return .failed trail
  | .ok executable =>
    logDebug "Template compiled" [("instructions", .ofNat program.instructions.length)]
    return .loaded ⟨program, scope, executable⟩

def callEntry (engine : Engine) (frames : List Frame) (scope : Nat) (name : Text)
    (args : List Value) : Run Value := do
  let f ← member (.ref scope) name
  if ← isFunction f then engine.call frames f (.ref scope) args
  else raiseType frames (("scope." : Text) ++ name ++ (" is not a function" : Text))

def readSource (frames : List Frame) (scope : Nat) (source : ReadSource) : Run Value := do
  match source.error, source.name with
  | some error, _ => throwValue (← make frames error)
  | none, some name => member (.ref scope) name
  | none, none => make frames source.value

def playBack (engine : Engine) (frames : List Frame) (scope : Nat) (output : Value) :
    List Action → Run Value
  | [] => return output
  | .finish value :: _ => make frames value
  | .throw error :: _ => do throwValue (← make frames error)
  | .push value :: rest => do
    discard (Method.apply engine frames .push output [← make frames value])
    playBack engine frames scope output rest
  | .field lead expression source :: rest => do
    let read ← allocateFunction (.read scope source)
    let content ← callEntry engine frames scope textHelperName [read, .text expression]
    let line ← sum engine frames (.text lead) content
    discard (Method.apply engine frames .push output [line])
    playBack engine frames scope output rest
  | .list indent expression source :: rest => do
    let read ← allocateFunction (.read scope source)
    discard (callEntry engine frames scope listHelperName
      [output, read, .text indent, .text expression])
    playBack engine frames scope output rest
  | .set name value :: rest => do
    assignEntry frames [] scope name (← make frames value)
    playBack engine frames scope output rest
  | .delete name :: rest => do
    modifyObject scope fun o => { o with members := o.members.erase name }
    playBack engine frames scope output rest

end Script.Run

namespace Script.BoundTemplate

def run (engine : Engine) (frames : List Frame) (t : BoundTemplate) : Run Value := do
  match t.executable with
  | .script main _ => engine.call frames main .undefined []
  | .playback steps => Run.playBack engine frames t.scope (← Run.allocateArray []) steps.actions

def describeFailure (engine : Engine) (frames : List Frame) (t : BoundTemplate) (v : Value) :
    Run FailureDescription := do
  match t.executable with
  | .script _ serial => Run.describeFailure engine frames serial v
  | .playback steps =>
    let message ← Run.failureMessage engine frames v
    let o := steps.failure
    return ⟨o.message.getD message, o.line, o.stack.getD []⟩

def causeOf (v : Value) : Run (FailureKind × Option Text) := do
  match ← Run.kind? v with
  | some (.error (.undefinedReference expression) _) =>
    return (.undefinedReference, some expression)
  | some (.error (.badConversion _) _) => return (.badConversion, none)
  | _ => return (.evaluation, none)

def failed (engine : Engine) (frames : List Frame) (t : BoundTemplate) (v : Value) :
    Run EvaluationResult := do
  let failure ← t.describeFailure engine frames v
  let (kind, expression) ← causeOf v
  let trail := ErrorTrail.ofFailure t.program failure kind expression
  Run.logDebug "Template evaluation failed"
    [("template", .text t.program.name), ("kind", .text kind.name),
      ("location", trail.locationDatum)]
  return .failed trail

def produced (engine : Engine) (frames : List Frame) (t : BoundTemplate) (o : EvaluationOptions)
    (v : Value) : Run EvaluationResult := do
  match v, ← Run.kind? v with
  | .ref address, some (.array _) =>
    let content ← Run.itemTexts engine frames address
    let kept := o.keepLines t.program.endsWithNewline content
    Run.logDebug "Template evaluated"
      [("template", .text t.program.name), ("lines", .ofNat kept.length)]
    return .produced (.ofLines o kept)
  | _, _ =>
    let message := ("program returned " : Text) ++ (← Run.describeType v) ++
      (" instead of lines" : Text)
    return .failed (.ofFailure t.program ⟨message, none, []⟩ .evaluation none)

/-- What an evaluation does before the run: it assigns to entries of the scope and gives it the helpers.
Entries with names in `fixed` are read-only. -/
def prepareWith (frames : List Frame) (fixed : List Text) (t : BoundTemplate)
    (overrides : Members Datum) : Run Unit := do
  (← Run.makeMembers frames overrides).forM fun (key, value) =>
    Run.assignEntry frames fixed t.scope key value
  Run.prepareScopeWith frames fixed t.scope

def evaluateWith (engine : Engine) (frames : List Frame) (fixed : List Text) (t : BoundTemplate)
    (o : EvaluationOptions) (overrides : Members Datum) : Run EvaluationResult := do
  t.prepareWith frames fixed overrides
  match ← Run.attempt (t.run engine frames) with
  | .error v => failed engine frames t v
  | .ok v => produced engine frames t o v

/-- Evaluates a template after assigning to entries of its scope, which has no read-only entries. -/
def evaluate (engine : Engine) (frames : List Frame) (t : BoundTemplate) (o : EvaluationOptions)
    (overrides : Members Datum) : Run EvaluationResult :=
  t.evaluateWith engine frames [] o overrides

end Script.BoundTemplate

end LineTemplate

import LineTemplate.Command.VariablesFile
import LineTemplate.Evaluation.Described
import LineTemplate.File.Loader
import LineTemplate.Json.Printer

/-!
Rendering a file: a template of a directory is bound to the variables of a file, with all templates
of the directory available for inclusion. Failures of the template are part of the outcome; unusable
files are errors.
-/

set_option autoImplicit false

namespace LineTemplate

open Script (Thrown)

structure RenderRequest where
  templateName : Text
  directory : Text
  /-- The file of variables, if there is one. -/
  variablesFile : Option Text
  expansionOptions : Datum
  evaluationOptions : Datum

inductive RenderOutcome where
  | rendered (content code : Text) (included : List Text) (variableCount : Nat)
  /-- The code is there if the expansion got that far. -/
  | failed (message : Text) (trail : Option ErrorTrail) (code : Option Text)

namespace SourceLocation

def toJson (l : SourceLocation) : Json :=
  .record [("template", .text l.template), ("line", .ofInt l.line)]

end SourceLocation

namespace ErrorTrail

def toJson (t : ErrorTrail) : Json :=
  let expression : List (String × Json) :=
    match t.expression with
    | some e => [("expression", .text e)]
    | none => []
  .record ([("kind", .text t.kind.name), ("message", .text t.message),
    ("location", .array (t.location.map SourceLocation.toJson))] ++ expression ++
    [("lines", .array (t.lines.map .text))])

end ErrorTrail

namespace RenderOutcome

def metadata (content : Text) (included : List Text) (variableCount : Nat) : Json :=
  .record [("includedTemplates", .array (included.map .text)),
    ("variableCount", .ofNat variableCount),
    ("lineCount", .ofNat (Text.splitOn 0x0A content).length), ("charCount", .ofNat content.length)]

end RenderOutcome

namespace RenderRequest

structure Material where
  source : Text
  included : Members Text
  entries : Members Datum

def material (r : RenderRequest) (files : FileTree) (directory : Path) :
    Except ErrorReport Material := do
  let loader ← Loader.openDirectory files (Path.resolve directory r.directory)
  match loader.load files r.templateName with
  | (.error e, _) => throw e
  | (.ok file, loader) =>
    let included ← (loader.loadAll files).1
    let entries ←
      match r.variablesFile with
      | some (c :: rest) => VariablesFile.load files (Path.resolve directory (c :: rest))
      | some [] | none => pure []
    return ⟨file.source, included, entries⟩

def outcomeOf (program : Program) (variableCount : Nat) :
    StepAnswer → Except Thrown RenderOutcome
  | .produced output =>
    .ok (.rendered output.toText program.code (program.inclusions.map Inclusion.name) variableCount)
  | .failed trail => .ok (.failed trail.format (some trail) (some program.code))
  | .refused e => .error (.error e)
  | .thrown v => .error (.value v)
  | .loaded _ | .listed _ | .done | .notLoaded => .ok (.failed [] none none)

def renderMaterial (r : RenderRequest) (m : Material) : Except Thrown RenderOutcome × Session :=
  let s := Session.empty.addScope "scope" (.object m.entries)
  match Program.ofTemplate r.expansionOptions m.included m.source with
  | .error e => (.ok (.failed e.headline none none), s)
  | .ok program =>
    let request : LoadRequest :=
      ⟨r.templateName, m.source, r.expansionOptions, some "scope", m.included, .script⟩
    match s.load request with
    | (.loaded _, s) =>
      let (answer, s) := s.evaluate r.templateName r.evaluationOptions []
      (outcomeOf program m.entries.length answer, s)
    | (answer, s) => (outcomeOf program m.entries.length answer, s)

def render (r : RenderRequest) (files : FileTree) (directory : Path) :
    Except Thrown RenderOutcome × Session :=
  match r.material files directory with
  | .error e => (.error (.error e), .empty)
  | .ok m => r.renderMaterial m

end RenderRequest

end LineTemplate

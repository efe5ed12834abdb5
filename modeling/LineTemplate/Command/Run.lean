import LineTemplate.Command.Arguments
import LineTemplate.Command.Rendering
import LineTemplate.Config.Assignments
import LineTemplate.Config.Settings
import LineTemplate.Log.Logger

/-!
The command: it renders the template that its arguments name and prints the outcome. What it prints,
the exit code and the files it leaves are functions of its arguments, the variables and the files.
-/

set_option autoImplicit false

namespace LineTemplate

open Script (Thrown)

namespace Command

structure Input where
  arguments : List Text
  environment : Variables
  /-- The working directory. -/
  directory : Path
  files : FileTree
  clock : Option Instant
  /-- The bytes that tell this run from others. -/
  runBytes : List UInt8

structure Outcome where
  exit : Nat
  output : Text
  errors : Text
  files : FileTree

def indentOf (value : Text) : Except ErrorReport Float :=
  let columns := Number.ofText value
  if Number.isInteger columns && !(columns < 0) then .ok columns
  else
    .error (.plain "Error" (("--indent must be a non-negative integer (got \"" : Text) ++ value ++
      ("\")" : Text)))

def help (s : Settings) : Text :=
  Text.join "\n" (List.map Text.ofString
    ["",
      "Usage: render-template --template <filename> [options]",
      "",
      "Options:",
      "  --template <filename>   Template filename in the template directory (required)"] ++
    [("  --dir <dir>             Template directory (default: " : Text) ++ s.templateDirectory ++
        (")" : Text),
      "  --vars <path>           JSON file holding an object of template variables",
      ("  --indent <n>            Global indentation in columns (default: " : Text) ++
        Number.text s.indent ++ (")" : Text)] ++
    List.map Text.ofString
      ["  --alt-delimiters        Use «expr» fields instead of $(expr)",
        "  --drop-blank-lines      Turn whitespace-only lines into empty lines",
        "  --drop-empty-lines      Remove empty lines from the output",
        "  --show-code             Print the generated program instead of rendering",
        "                          (also printed before the error when rendering fails)",
        "  --no-color              Disable ANSI colors",
        "  --json                  Output as JSON (includes metadata)",
        "  -h, --help              Show this help message",
        "",
        "Exit codes:",
        "  0 - Success",
        "  1 - Error (missing template, invalid variables, failed evaluation)",
        ""])

def line (t : Text) : Text := t ++ ("\n" : Text)

def request (a : Arguments) (s : Settings) (templateName : Text) :
    Except ErrorReport RenderRequest := do
  let indent ← indentOf ((a.text? "indent").getD (Number.text s.indent))
  return {
    templateName
    directory := (a.text? "dir").getD s.templateDirectory
    variablesFile := a.text? "vars"
    expansionOptions := .record [("indentColumns", .number indent),
      ("useAltDelimiters", .bool (a.flag "alt-delimiters"))]
    evaluationOptions := .record [("preserveBlankLines", .bool (!a.flag "drop-blank-lines")),
      ("preserveEmptyLines", .bool (!a.flag "drop-empty-lines"))] }

structure Report where
  output : Text
  errors : Text
  exit : Nat

namespace Report

def codeText (templateName code : Text) : Text :=
  line (("// " : Text) ++ templateName) ++ line code

def ofRendered (a : Arguments) (templateName content code : Text) (metadata : Json) : Report :=
  if a.flag "json" then
    let mode : Json := .text (if a.flag "show-code" then "code" else "render")
    let j : Json := .record [("mode", mode), ("success", .bool true),
      ("templateName", .text templateName), ("rendered", .text content), ("code", .text code),
      ("metadata", metadata)]
    ⟨line j.pretty, [], 0⟩
  else if a.flag "show-code" then ⟨codeText templateName code, [], 0⟩
  else ⟨if content.getLast? = some 0x0A then content else line content, [], 0⟩

def ofFailed (a : Arguments) (templateName message : Text) (trail : Option ErrorTrail)
    (code : Option Text) : Report :=
  let shown := if a.flag "show-code" then code else none
  if a.flag "json" then
    let part (key : String) (j : Option Json) : List (String × Json) :=
      match j with
      | some j => [(key, j)]
      | none => []
    let j : Json := .record ([("mode", .string "error"), ("template", .text templateName),
      ("message", .text message)] ++ part "trail" (trail.map ErrorTrail.toJson) ++
      part "code" (shown.map .text))
    ⟨line j.pretty, [], 1⟩
  else ⟨(shown.map (codeText templateName)).getD [], line message, 1⟩

def ofOutcome (a : Arguments) (templateName : Text) : RenderOutcome → Report
  | .rendered content code included variableCount =>
    ofRendered a templateName content code (RenderOutcome.metadata content included variableCount)
  | .failed message trail code => ofFailed a templateName message trail code

def ofError (message : Text) : Report := ⟨[], line (("Error: " : Text) ++ message), 1⟩

def ofThrown : Thrown → Report
  | .error e => ofError e.message
  | .value v =>
    match textOfThrown v with
    | .ok t => ofError t
    | .error _ => ofError []

end Report

def Outcome.ofReport (files : FileTree) (r : Report) : Outcome :=
  ⟨r.exit, r.output, r.errors, files⟩

def consoleText (s : LogState) (levels : List LogLevel) : Text :=
  (s.console.filter fun entry => levels.contains entry.1).flatMap fun entry => line entry.2

def Outcome.ofLogged (s : LogState) (r : Report) : Outcome :=
  ⟨r.exit, consoleText s [.debug, .info] ++ r.output, consoleText s [.warn, .error] ++ r.errors,
    s.files⟩

def logAll (logger : Logger) (records : List Script.LogRecord) : Logging Unit :=
  records.forM fun r => logger.log r.level r.message r.context

def renderLogged (input : Input) (a : Arguments) (s : Settings) (logger : Logger) (log : LogState) :
    Outcome :=
  match a.text? "template" with
  | some (c :: rest) =>
    match request a s (c :: rest) with
    | .error e => .ofLogged log (.ofError e.message)
    | .ok r =>
      let (outcome, session) := r.render log.files input.directory
      match logAll logger session.store.log log, outcome with
      | .ok _ log, .ok outcome => .ofLogged log (.ofOutcome a (c :: rest) outcome)
      | .ok _ log, .error thrown => .ofLogged log (.ofThrown thrown)
      | .error e log, _ => .ofLogged log (.ofError e.message)
  | some [] | none =>
    .ofLogged log ⟨[], line "Error: --template is required" ++
      line "  Usage: npm run render-template -- --template <filename>", 1⟩

def renderWith (input : Input) (a : Arguments) (s : Settings) : Outcome :=
  match RunId.make input.clock input.runBytes with
  | .error e => .ofReport input.files (.ofError e.message)
  | .ok run =>
    let start : LogState := ⟨input.directory, some run, input.clock, input.files, [], []⟩
    let options : LoggerOptions :=
      { LoggerOptions.standard with
        level := s.logLevel, directory := s.logDirectory, file := s.logToFile }
    match options.openLogger start with
    | .error e log => .ofLogged log (.ofError e.message)
    | .ok logger log => renderLogged input a s logger log

def allVariables (input : Input) : Variables :=
  match input.files.read (input.directory ++ [(".env" : Text)]) with
  | .ok content => input.environment.withFile content
  | .error _ => input.environment

def paths (input : Input) : List Path :=
  match Settings.load (allVariables input), Arguments.parse input.arguments with
  | .ok s, .ok a =>
    let place (written : Text) : Path := Path.resolve input.directory written
    let templates := place ((a.text? "dir").getD s.templateDirectory)
    [templates, Path.resolve templates ((a.text? "template").getD []), place s.logDirectory,
      place (Path.joinWritten s.logDirectory LoggerOptions.standard.fileName)] ++
      (a.text? "vars").toList.map place
  | _, _ => []

def run (input : Input) : Outcome :=
  let v := allVariables input
  let failed (message : Text) : Outcome := .ofReport input.files (.ofError message)
  match Settings.load v with
  | .error e => failed e.message
  | .ok s =>
    match Arguments.parse input.arguments with
    | .error fault => failed fault.message
    | .ok a =>
      if a.flag "help" then .ofReport input.files ⟨line (help s), [], 0⟩
      else
        match s.validate v with
        | .error e => failed e.message
        | .ok () => renderWith input a s

end Command

end LineTemplate

import LineTemplate.Config.Variables
import LineTemplate.Log.Level
import LineTemplate.Number.Printing
import LineTemplate.Script.Datum

/-!
The settings of the program, as environment variables give them. Loading them is lenient about the
names of stages and levels; validating them is not.
-/

set_option autoImplicit false

namespace LineTemplate

inductive Stage where
  | development
  | production
  | test
deriving DecidableEq, Repr

namespace Stage

def name : Stage → Text
  | .development => "development"
  | .production => "production"
  | .test => "test"

def all : List Stage := [.development, .production, .test]

def ofName? (t : Text) : Option Stage := all.find? fun stage => stage.name = t

end Stage

structure Settings where
  stage : Stage
  debug : Bool
  logLevel : LogLevel
  /-- Write log entries to a file as well. -/
  logToFile : Bool
  logDirectory : Text
  appName : Text
  templateDirectory : Text
  /-- The columns put before every line, if the command is not told. -/
  indent : Float

namespace Settings

def variableNames : List Text :=
  List.map Text.ofString ["NODE_ENV", "DEBUG", "LOG_LEVEL", "LOG_TO_FILE", "LOG_DIR", "APP_NAME",
    "TEMPLATE_DIR", "TEMPLATE_INDENT"]

def load (v : Variables) : Except ErrorReport Settings := do
  let debug ← v.flag "DEBUG" false
  let logToFile ← v.flag "LOG_TO_FILE" false
  let indent ← v.integer "TEMPLATE_INDENT" 0
  return {
    stage := (Stage.ofName? (v.text "NODE_ENV" "development")).getD .development
    debug
    logLevel := (LogLevel.ofName? (v.text "LOG_LEVEL" "info")).getD .info
    logToFile
    logDirectory := v.text "LOG_DIR" "output/logs"
    appName := v.text "APP_NAME" "linemap-templates"
    templateDirectory := v.text "TEMPLATE_DIR" "templates"
    indent }

def standard : Settings :=
  ⟨.development, false, .info, false, "output/logs", "linemap-templates", "templates", 0⟩

def validate (s : Settings) (v : Variables) : Except ErrorReport Unit := do
  discard (v.choice "NODE_ENV" (Stage.all.map Stage.name) "development")
  discard (v.choice "LOG_LEVEL" (LogLevel.all.map LogLevel.name) "info")
  if s.indent < 0 then
    throw (.config (("Invalid TEMPLATE_INDENT: " : Text) ++ Number.text s.indent ++
      (". Must be zero or positive." : Text)))

def toDatum (s : Settings) : Datum :=
  .record [("env", .text s.stage.name), ("debug", .bool s.debug),
    ("logLevel", .text s.logLevel.name), ("logToFile", .bool s.logToFile),
    ("logDir", .text s.logDirectory), ("appName", .text s.appName),
    ("templateDir", .text s.templateDirectory), ("defaultIndent", .number s.indent)]

end Settings

end LineTemplate

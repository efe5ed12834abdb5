import LineTemplate.File.Tree
import LineTemplate.Log.Entry

/-!
Loggers. A logger hands entries from its level on to its sinks, in order, each with the context that is bound
to the logger below the context of the entry. A sink may be any function: it can fail, write, log in its turn,
and change the entry, which is one object for all sinks, so that those after it get what it leaves. Children
bind more context; they share the sinks and nothing else with other loggers. Contexts are values: what a sink
changes further inside a value that is bound somewhere else is not followed.
-/

set_option autoImplicit false

namespace LineTemplate

structure LogState where
  directory : Path
  run : Option Text
  clock : Option Instant
  files : FileTree
  /-- The lines on the console, each with its level. -/
  console : List (LogLevel × Text)
  /-- The entries that were kept, each with the number of its sink. -/
  records : List (Nat × LogEntry)

abbrev Logging (α : Type) := EStateM ErrorReport LogState α

/-- A sink gives back the entry as it leaves it. -/
abbrev LogSink := LogEntry → Logging LogEntry

namespace LogSink

def print (level : LogLevel) (content : Text) : Logging Unit :=
  modify fun s => { s with console := s.console ++ [(level, content)] }

def appendLine (written : Text) (entry : LogEntry) : Logging (Except ErrorReport Unit) := do
  let s ← get
  match entry.line with
  | .error e => return .error e
  | .ok content =>
    match s.files.append (Path.resolve s.directory written) (content ++ ("\n" : Text)) with
    | .ok files =>
      set { s with files := files }
      return .ok ()
    | .error fault => return .error (fault.report "open" (some written))

def record (index : Nat) : LogSink := fun entry => do
  modify fun s => { s with records := s.records ++ [(index, entry)] }
  return entry

def console : LogSink := fun entry => do
  match entry.line with
  | .ok content =>
    print entry.level content
    return entry
  | .error e => throw e

def file (written : Text) : LogSink := fun entry => do
  match ← appendLine written entry with
  | .ok () => return entry
  | .error e =>
    print .error (("Failed to write to log file: " : Text) ++ e.headline)
    return entry

/-- One sink after the other gets the entry as the one before has left it. -/
def giveAll (sinks : List LogSink) (entry : LogEntry) : Logging LogEntry :=
  sinks.foldlM (fun entry sink => sink entry) entry

end LogSink

structure Logger where
  sinks : List LogSink
  level : LogLevel
  bound : Datum

namespace Logger

def passes (l : Logger) (level : LogLevel) : Bool := l.level.rank ≤ level.rank

def child (l : Logger) (context : Datum) : Logger := { l with bound := l.bound.spread context }

def entry (l : Logger) (s : LogState) (level : LogLevel) (message : Text) (context : Datum) :
    LogEntry :=
  ⟨s.clock, level, s.run, message, l.bound.spread context⟩

def log (l : Logger) (level : LogLevel) (message : Text) (context : Datum) : Logging Unit := do
  if l.passes level then
    let _ ← LogSink.giveAll l.sinks (l.entry (← get) level message context)

end Logger

structure LoggerOptions where
  level : LogLevel
  directory : Text
  fileName : Text
  console : Bool
  file : Bool

namespace LoggerOptions

def standard : LoggerOptions := ⟨.info, "output/logs", "templates.log", true, true⟩

def prepareDirectory (written : Text) : Logging Unit := do
  let s ← get
  if written.isEmpty then throw (FileFault.notFound.report "mkdir" (some written))
  match s.files.makeDirectories (Path.resolve s.directory written) with
  | .ok files => set { s with files := files }
  | .error fault => throw (fault.report "mkdir" (some written))

def openLogger (o : LoggerOptions) : Logging Logger := do
  if o.file then prepareDirectory o.directory
  let console := if o.console then [LogSink.console] else []
  let file := if o.file then [LogSink.file (Path.joinWritten o.directory o.fileName)] else []
  return ⟨console ++ file, o.level, .object []⟩

def shared : LoggerOptions := { standard with file := false }

def openShared (o : LoggerOptions) : Option Logger → Logging Logger
  | some logger => return logger
  | none => o.openLogger

end LoggerOptions

end LineTemplate

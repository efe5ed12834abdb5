import LineTemplate.Log.Logger

/-!
Families of loggers: a root, the children that are made of it and of each other on the way, and the calls on
any of them, one step after the other. A step refers to a logger by its name; a name stands for the logger
that was made under it last.
-/

set_option autoImplicit false

namespace LineTemplate

inductive LoggerStep where
  /-- Makes a child of a logger. -/
  | child (name parent : Text) (context : Datum)
  | log (name : Text) (level : LogLevel) (message : Text) (context : Datum)

/-- A call on a logger, with all contexts from the root down to the one of the call. -/
structure LogCall where
  logger : Text
  level : LogLevel
  message : Text
  contexts : List Datum

namespace LoggerStep

def logger : LoggerStep → Text
  | .child name _ _ | .log name _ _ _ => name

def context : LoggerStep → Datum
  | .child _ _ context | .log _ _ _ context => context

def family (loggers : Members Logger) : LoggerStep → Members Logger
  | .child name parent context =>
    match loggers.get? parent with
    | some l => loggers.set name (l.child context)
    | none => loggers
  | .log _ _ _ _ => loggers

def act (loggers : Members Logger) : LoggerStep → Logging Unit
  | .child _ _ _ => return ()
  | .log name level message context =>
    match loggers.get? name with
    | some l => l.log level message context
    | none => return ()

def performAll (loggers : Members Logger) : List LoggerStep → Logging (Members Logger)
  | [] => return loggers
  | step :: rest => do
    step.act loggers
    performAll (step.family loggers) rest

/-- The entry that the step passes on, with the name of its logger. -/
def sent (s : LogState) (loggers : Members Logger) : LoggerStep → List (Text × LogEntry)
  | .child _ _ _ => []
  | .log name level message context =>
    match loggers.get? name with
    | some l => if l.passes level then [(name, l.entry s level message context)] else []
    | none => []

def sentAll (s : LogState) (loggers : Members Logger) : List LoggerStep → List (Text × LogEntry)
  | [] => []
  | step :: rest => step.sent s loggers ++ sentAll s (step.family loggers) rest

def ways (known : Members (List Datum)) : LoggerStep → Members (List Datum)
  | .child name parent context =>
    match known.get? parent with
    | some contexts => known.set name (contexts ++ [context])
    | none => known
  | .log _ _ _ _ => known

def call (known : Members (List Datum)) : LoggerStep → List LogCall
  | .child _ _ _ => []
  | .log name level message context =>
    match known.get? name with
    | some contexts => [⟨name, level, message, contexts ++ [context]⟩]
    | none => []

def calls (known : Members (List Datum)) : List LoggerStep → List LogCall
  | [] => []
  | step :: rest => step.call known ++ calls (step.ways known) rest

end LoggerStep

/-- The entries that were kept under a number. -/
def LogState.kept (s : LogState) (index : Nat) : List LogEntry :=
  s.records.filterMap fun r => if r.1 = index then some r.2 else none

end LineTemplate

import LineTemplate.Number.Printing
import LineTemplate.Template.Code

/-!
Error trails. A failure is known by lines of the generated code; its trail names the lines of the
templates that they come from, through any number of inclusions.
-/

set_option autoImplicit false

namespace LineTemplate

inductive FailureKind where
  | syntaxError
  | undefinedReference
  | badConversion
  | evaluation
deriving DecidableEq, Repr

namespace FailureKind

def name : FailureKind → Text
  | .syntaxError => "syntax"
  | .undefinedReference => "undefined-reference"
  | .badConversion => "bad-conversion"
  | .evaluation => "evaluation"

end FailureKind

structure SourceLocation where
  template : Text
  line : Int
deriving DecidableEq, Repr

/-- The lines of a trace and the chain of locations that they name, outermost first. The chain is
empty when the trace ends before it reaches a line. -/
structure Trace where
  lines : List Text
  location : List SourceLocation
deriving DecidableEq, Repr

structure Diagnostic where
  message : Text
  /-- The line of the generated code, counted from one. -/
  line : Option Int
deriving DecidableEq, Repr

structure StackEntry where
  text : Text
  line : Option Int
deriving DecidableEq, Repr

structure FailureDescription where
  message : Text
  /-- The code line of the innermost active function of the program. -/
  line : Option Int
  stack : List StackEntry
deriving DecidableEq, Repr

structure ErrorTrail where
  kind : FailureKind
  message : Text
  location : List SourceLocation
  /-- The expression that had no value. -/
  expression : Option Text
  /-- The report. -/
  lines : List Text
deriving DecidableEq, Repr

/-- Traces an instruction through the inclusions that it was spliced by. `codeLine` is only named in
the report of an index that has no origin. -/
def traceInstruction (program : Program) (index codeLine : Int) (indent : Text) : Trace :=
  match elementAt? program.sourceMap index with
  | none =>
    ⟨[indent ++ ("Internal error: could not trace code line " : Text) ++ Number.textOfInt codeLine ++
        (" back to the template" : Text)], []⟩
  | some (.line number) =>
    let source := (elementAt? program.sourceLines (number - 1)).getD []
    ⟨[indent ++ ("[" : Text) ++ program.name ++ ("]:" : Text) ++ Number.textOfInt number ++
        (": >>> " : Text) ++ source ++ (" <<<" : Text)], [⟨program.name, number⟩]⟩
  | some (.included name inclusion) =>
    match _found : elementAt? program.inclusions inclusion with
    | none =>
      ⟨[indent ++ ("Internal error: no inclusion record for template '" : Text) ++ name ++
          ("'" : Text)], []⟩
    | some record =>
      let nested :=
        traceInstruction record.program (index - record.firstIndex) codeLine (indent ++ ("  " : Text))
      ⟨(indent ++ ("in template '" : Text) ++ name ++ ("' included at line " : Text) ++
          Number.textOfInt record.atLine ++ (":" : Text)) :: nested.lines,
        if nested.location.isEmpty then [] else ⟨program.name, record.atLine⟩ :: nested.location⟩
termination_by sizeOf program
decreasing_by
  have member : record ∈ program.inclusions := by
    unfold elementAt? at _found
    split at _found
    · simp at _found
    · exact List.mem_of_getElem? _found
  have inner := List.sizeOf_lt_of_mem member
  have outer : sizeOf program.inclusions < sizeOf program := by
    cases program
    simp +arith
  have record_size : sizeOf record.program < sizeOf record := by
    cases record
    simp +arith
  omega

namespace Program

def traceCodeLine (p : Program) (codeLine : Int) : Trace :=
  traceInstruction p (Instruction.atCodeLine codeLine) codeLine []

def traceKnownLine (p : Program) : Option Int → Trace
  | none => ⟨[], []⟩
  | some codeLine => p.traceCodeLine codeLine

end Program

namespace ErrorTrail

def ofFailure (program : Program) (failure : FailureDescription) (kind : FailureKind)
    (expression : Option Text) : ErrorTrail :=
  let primary := program.traceKnownLine failure.line
  let known := failure.stack.filterMap StackEntry.line
  let stack : List Text :=
    if known.isEmpty then []
    else ("Possible stacktrace:" : Text) :: known.flatMap fun line => (program.traceCodeLine line).lines
  { kind, message := failure.message, location := primary.location, expression
    lines := (("Template evaluation failed: " : Text) ++ failure.message) :: primary.lines ++ stack }

def ofDiagnostic (program : Program) (diagnostic : Diagnostic) : ErrorTrail :=
  let primary := program.traceKnownLine diagnostic.line
  { kind := .syntaxError, message := diagnostic.message, location := primary.location
    expression := none
    lines := (("Syntax error in the template: " : Text) ++ diagnostic.message) :: primary.lines }

def format (trail : ErrorTrail) : Text := Text.join "\n" trail.lines

end ErrorTrail

end LineTemplate

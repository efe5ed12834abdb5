import LineTemplate.ErrorReport
import LineTemplate.Members
import LineTemplate.Template.Line
import LineTemplate.Template.Program

/-!
Expansion of templates into programs. Each line is classified and gives its instructions; an
inclusion gives those of the included template, spliced between two markers and indented by the
blanks before the inclusion token. A line without an inclusion gives exactly one instruction.
-/

set_option autoImplicit false

namespace LineTemplate

inductive ExpansionError where
  /-- The template `includer` includes, at this line, a name that is not available. -/
  | unresolved (name includer : Text) (line : Nat)
  /-- The last name of the chain occurs earlier in it. -/
  | cycle (chain : List Text)
deriving DecidableEq, Repr

namespace ExpansionError

def report : ExpansionError → ErrorReport
  | .unresolved name includer line => .unresolvedInclude name includer line none
  | .cycle chain => .includeCycle chain none

end ExpansionError

/-- The source lines of a template. A final newline ends the last line and starts no other. -/
def splitLines (template : Text) : List Text :=
  Text.splitOn 0x0A (if template.getLast? = some 0x0A then template.dropLast else template)

/-- What stays the same while one template is expanded. -/
structure ExpansionContext where
  columns : Nat
  style : DelimiterStyle
  /-- The templates that may be included, by name. -/
  included : Members Text
  /-- The names of the templates being expanded, outermost first. -/
  chain : List Text
  /-- The name of the template. -/
  name : Text

structure ProgramPart where
  instructions : List Instruction
  origins : List Origin
  inclusions : List (Inclusion Program)

namespace ProgramPart

def empty : ProgramPart := ⟨[], [], []⟩

def one (instruction : Instruction) (line : Nat) : ProgramPart := ⟨[instruction], [.line line], []⟩

def append (a b : ProgramPart) : ProgramPart :=
  ⟨a.instructions ++ b.instructions, a.origins ++ b.origins, a.inclusions ++ b.inclusions⟩

instance : Append ProgramPart := ⟨append⟩

end ProgramPart

namespace Program

/-- The instructions that an includer takes over: the terminator stays behind. -/
def spliced (p : Program) : List Instruction :=
  if p.endsWithNewline then p.instructions.dropLast else p.instructions

def ofPart (name template : Text) (part : ProgramPart) : Program :=
  let sourceLines := splitLines template
  let endsWithNewline := template.getLast? == some 0x0A
  let whole := if endsWithNewline then part ++ .one (.literal []) sourceLines.length else part
  ⟨name, sourceLines, whole.instructions, whole.origins, whole.inclusions, endsWithNewline⟩

end Program

/-- A place in the program under construction: the next source line, counted from one, the index of
the next instruction and the index of the next inclusion. -/
structure ProgramPlace where
  line : Nat
  instruction : Nat
  inclusion : Nat

namespace Expansion

/-- The part of an inclusion whose program is at hand. Halved backslashes get a line of their own. -/
def inclusionPart (place : ProgramPlace) (literal indent name : Text) (nested : Program) :
    ProgramPart :=
  let own (instruction : Instruction) : ProgramPart := .one instruction place.line
  let before : ProgramPart :=
    if literal.isEmpty then .empty else own (.literal (indent ++ literal))
  let opening := before ++ own (.marker .opening name)
  let body : ProgramPart :=
    ⟨nested.spliced, nested.spliced.map fun _ => .included name place.inclusion,
      [⟨name, nested, place.line, (place.instruction + opening.instructions.length : Nat)⟩]⟩
  opening ++ body ++ own (.marker .closing name)

/-- The program of an included template. `expandNested` expands one more level. -/
def resolve (context : ExpansionContext)
    (expandNested : ExpansionContext → Text → Except ExpansionError Program)
    (line : Nat) (indent name : Text) : Except ExpansionError Program :=
  match context.included.get? name with
  | none => .error (.unresolved name context.name line)
  | some source =>
    if context.chain.contains name then .error (.cycle (context.chain ++ [name]))
    else
      expandNested
        { context with
          columns := context.columns + indent.length
          chain := context.chain ++ [name]
          name := name }
        source

def linePart (context : ExpansionContext)
    (expandNested : ExpansionContext → Text → Except ExpansionError Program)
    (place : ProgramPlace) (line : Text) : Except ExpansionError ProgramPart :=
  let indent := Text.spaces context.columns
  let own (instruction : Instruction) : Except ExpansionError ProgramPart :=
    .ok (.one instruction place.line)
  match Line.classify line with
  | .statement code => own (.statement code)
  | .text content =>
    let tokenized := TokenizedLine.ofText context.style content
    if tokenized.matched then own (.fields indent tokenized.segments tokenized.trailing)
    else own (.literal (if content.isEmpty then [] else indent ++ content))
  | .list lineIndent backslashes expression trailing =>
    let quoting := Quoting.ofRun backslashes
    let lead := indent ++ lineIndent ++ quoting.literal
    if quoting.escaped then own (.literal (lead ++ Line.listToken expression ++ trailing))
    else if expression.isEmpty then own (.literal lead)
    else own (.list expression lead)
  | .inclusion lineIndent backslashes name trailing =>
    let quoting := Quoting.ofRun backslashes
    if quoting.escaped then
      own (.literal (indent ++ lineIndent ++ quoting.literal ++ Line.inclusionToken name ++ trailing))
    else do
      let nested ← resolve context expandNested place.line lineIndent name
      .ok (inclusionPart place quoting.literal (indent ++ lineIndent) name nested)

def linesPart (context : ExpansionContext)
    (expandNested : ExpansionContext → Text → Except ExpansionError Program) :
    ProgramPlace → List Text → Except ExpansionError ProgramPart
  | _, [] => .ok .empty
  | place, line :: rest => do
    let first ← linePart context expandNested place line
    let next : ProgramPlace :=
      ⟨place.line + 1, place.instruction + first.instructions.length,
        place.inclusion + first.inclusions.length⟩
    let others ← linesPart context expandNested next rest
    .ok (first ++ others)

/-- Expands a template whose inclusions nest at most `depth` levels deep. The names on a chain are
distinct names of included templates, so no chain is longer than there are such templates, and the
answer at depth zero is never needed. -/
def expandTo : Nat → ExpansionContext → Text → Except ExpansionError Program
  | 0, context, _ => .error (.cycle context.chain)
  | depth + 1, context, template => do
    let part ← linesPart context (expandTo depth) ⟨1, 0, 0⟩ (splitLines template)
    .ok (.ofPart context.name template part)

end Expansion

def expand (columns : Nat) (style : DelimiterStyle) (included : Members Text) (template : Text) :
    Except ExpansionError Program :=
  Expansion.expandTo (included.length + 1) ⟨columns, style, included, [], topLevelName⟩ template

end LineTemplate

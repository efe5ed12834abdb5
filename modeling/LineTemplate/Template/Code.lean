import LineTemplate.Template.Program
import LineTemplate.Text.Quoted

/-!
Code generation. The code of a program is a function expression: a header line, one line for each
instruction, and a footer line. Instruction `i` is therefore the code line `i + 2`, counted from one.
-/

set_option autoImplicit false

namespace LineTemplate

def textHelperName : Text := "__str"

def listHelperName : Text := "__emitLines"

def outputName : Text := "__text"

def codeHeader : Text := ("(function () \x7b const " : Text) ++ outputName ++ (" = [];" : Text)

def codeFooter : Text := ("return " : Text) ++ outputName ++ ("; \x7d)" : Text)

namespace Boundary

def word : Boundary → Text
  | .opening => "begin"
  | .closing => "end"

end Boundary

namespace Segment

def operands (s : Segment) : List Text :=
  (if s.lead.isEmpty then [] else [s.lead.quoted]) ++
    match s.expression with
    | none => []
    | some e =>
      [textHelperName ++ ("(() => (" : Text) ++ e ++ ("), " : Text) ++ e.quoted ++ (")" : Text)]

end Segment

namespace Instruction

def pushCode (value : Text) : Text := outputName ++ (".push(" : Text) ++ value ++ (");" : Text)

def fieldOperands (indent : Text) (segments : List Segment) (trailing : Text) : List Text :=
  (if indent.isEmpty then [] else [indent.quoted]) ++ segments.flatMap Segment.operands ++
    (if trailing.isEmpty then [] else [trailing.quoted])

def code : Instruction → Text
  | .literal text => pushCode text.quoted
  | .fields indent segments trailing =>
    let operands := fieldOperands indent segments trailing
    pushCode (if operands.isEmpty then Text.quoted [] else Text.join " + " operands)
  | .list expression indent =>
    listHelperName ++ ("(" : Text) ++ outputName ++ (", () => (" : Text) ++ expression ++
      ("), " : Text) ++ indent.quoted ++ (", " : Text) ++ expression.quoted ++ (");" : Text)
  | .statement code => code
  | .marker boundary name => ("// " : Text) ++ boundary.word ++ (" " : Text) ++ name

/-- The index of the instruction on a code line; it is out of range for header and footer. -/
def atCodeLine (codeLine : Int) : Int := codeLine - 2

end Instruction

namespace Program

/-- The lines of code of a program, each of which may hold line ends of its own. -/
def codeLines (p : Program) : List Text :=
  codeHeader :: p.instructions.map Instruction.code ++ [codeFooter]

def code (p : Program) : Text := Text.join "\n" p.codeLines

end Program

end LineTemplate

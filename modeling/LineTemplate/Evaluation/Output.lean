import LineTemplate.Template.Options
import LineTemplate.Text.Blank

/-!
The lines that a run yields, and what the options of evaluation leave of them.
-/

set_option autoImplicit false

namespace LineTemplate

namespace EvaluationOptions

def keepLine (o : EvaluationOptions) (line : Text) : Option Text :=
  let line := if !o.preserveBlankLines && line.isBlank then [] else line
  if !o.preserveEmptyLines && line.isEmpty then none else some line

/-- The lines that are left. The last line of a template that ends with a newline stays as it is. -/
def keepLines (o : EvaluationOptions) (endsWithNewline : Bool) (lines : List Text) : List Text :=
  if endsWithNewline then lines.dropLast.filterMap o.keepLine ++ lines.getLast?.toList
  else lines.filterMap o.keepLine

theorem keepLine_all {o : EvaluationOptions} (blank : o.preserveBlankLines = true)
    (empty : o.preserveEmptyLines = true) : o.keepLine = some := by
  funext line
  simp [keepLine, blank, empty]

end EvaluationOptions

inductive Output where
  | lines (content : List Text)
  | text (content : Text)
deriving DecidableEq, Repr

namespace Output

def ofLines (o : EvaluationOptions) (content : List Text) : Output :=
  if o.returnAsLines then .lines content else .text (Text.join "\n" content)

def toText : Output → Text
  | .lines content => Text.join "\n" content
  | .text content => content

end Output

end LineTemplate

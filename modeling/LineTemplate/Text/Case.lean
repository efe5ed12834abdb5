import LineTemplate.Text.Basic
import LineTemplate.Text.CaseTable

/-!
Letter case. Each character is mapped on its own, by the full mappings of Unicode: one letter may
become several (the sharp s becomes two capitals).
-/

set_option autoImplicit false

namespace LineTemplate.Text

def mapCase (rows : List CaseTable.Row) (expansions : List (Nat × List Nat)) (t : Text) : Text :=
  t.codePoints.flatMap fun n =>
    match expansions.lookup n with
    | some points => points.flatMap ofCodePoint
    | none => ofCodePoint ((CaseTable.find? rows n).getD n)

def toUpper (t : Text) : Text := mapCase CaseTable.upperRows CaseTable.upperExpansions t

def toLower (t : Text) : Text := mapCase CaseTable.lowerRows CaseTable.lowerExpansions t

end LineTemplate.Text

import LineTemplate.Text.Basic

/-!
White space and line ends. A blank is a space, a control that moves the print position, a line end
or the byte order mark; a line end is LF, CR, or one of the two Unicode separators.
-/

set_option autoImplicit false

namespace LineTemplate

namespace CodeUnit

def isLineEnd (c : CodeUnit) : Bool := c == 0x0A || c == 0x0D || c == 0x2028 || c == 0x2029

/-- White space: tab to CR, space, no-break space, the Unicode spaces, both separators and U+FEFF. -/
def isBlank (c : CodeUnit) : Bool :=
  (0x09 ≤ c && c ≤ 0x0D) || c == 0x20 || c == 0xA0 || c == 0x1680 || (0x2000 ≤ c && c ≤ 0x200A) ||
    c == 0x2028 || c == 0x2029 || c == 0x202F || c == 0x205F || c == 0x3000 || c == 0xFEFF

theorem isBlank_of_isLineEnd (c : CodeUnit) (h : c.isLineEnd = true) : c.isBlank = true := by
  simp only [isLineEnd, Bool.or_eq_true, beq_iff_eq] at h
  rcases h with ((h | h) | h) | h <;> subst h <;> decide

end CodeUnit

namespace Text

def isBlank (t : Text) : Bool := t.all CodeUnit.isBlank

def trim (t : Text) : Text := (splitEnd CodeUnit.isBlank (t.dropWhile CodeUnit.isBlank)).1

end Text

end LineTemplate

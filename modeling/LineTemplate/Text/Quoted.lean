import LineTemplate.Text.Basic

/-!
Quoted texts. Between the quotes stand the units of the text; a quote, a backslash, a control below
U+0020 and a surrogate without its partner are written as escapes, all else as itself.
-/

set_option autoImplicit false

namespace LineTemplate.Text

def numericEscape (c : CodeUnit) : Text :=
  let n := c.toNat
  ("\\u" : Text) ++ [CodeUnit.hexDigit (n / 0x1000), CodeUnit.hexDigit (n / 0x100 % 0x10),
    CodeUnit.hexDigit (n / 0x10 % 0x10), CodeUnit.hexDigit (n % 0x10)]

def quotedUnit (c : CodeUnit) : Text :=
  if c = '"' then "\\\""
  else if c = '\\' then "\\\\"
  else if c = 0x08 then "\\b"
  else if c = 0x09 then "\\t"
  else if c = 0x0A then "\\n"
  else if c = 0x0C then "\\f"
  else if c = 0x0D then "\\r"
  else if c < 0x20 then numericEscape c
  else [c]

def quotedBody : Text → Text
  | [] => []
  | [c] => if c.isHighSurrogate || c.isLowSurrogate then numericEscape c else quotedUnit c
  | c :: d :: rest =>
    if c.isHighSurrogate then
      if d.isLowSurrogate then c :: d :: quotedBody rest
      else numericEscape c ++ quotedBody (d :: rest)
    else if c.isLowSurrogate then numericEscape c ++ quotedBody (d :: rest)
    else quotedUnit c ++ quotedBody (d :: rest)

def quoted (t : Text) : Text := ("\"" : Text) ++ quotedBody t ++ ("\"" : Text)

end LineTemplate.Text

import LineTemplate.Number.Binary
import LineTemplate.Text.Blank

/-!
Reading numbers. `ofText` reads a whole text as one number (decimal with optional fraction and
exponent, or digits of base two, eight or sixteen after `0b`, `0o` or `0x`); `integerAtStart` reads
the leading decimal digits and leaves the rest unread.
-/

set_option autoImplicit false

namespace LineTemplate.Number

def infinity : Float := 1.0 / 0.0

def notANumber : Float := 0.0 / 0.0

/-- The nearest number to `digits * 10 ^ exponent`. Exponents far outside the range are answered at
once. -/
def ofDecimal (digits : Nat) (exponent : Int) : Float := .ofModel (.ofScientific digits exponent)

/-- The leading digits in `base`, as their value and their count, and what follows them. -/
def takeDigits (base : Nat) : Nat → Nat → Text → Nat × Nat × Text
  | value, count, [] => (value, count, [])
  | value, count, c :: rest =>
    match c.digitValue? with
    | some d =>
      if d < base then takeDigits base (value * base + d) (count + 1) rest
      else (value, count, c :: rest)
    | none => (value, count, c :: rest)

def takeSign : Text → Bool × Text
  | [] => (false, [])
  | c :: rest => if c = '-' then (true, rest) else if c = '+' then (false, rest) else (false, c :: rest)

/-- The exponent part of a decimal. Without a digit after the mark there is none, and nothing is
read. -/
def takeExponent (t : Text) : Int × Text :=
  match t with
  | [] => (0, [])
  | c :: rest =>
    if c = 'e' ∨ c = 'E' then
      let (negative, afterSign) := takeSign rest
      let (value, count, after) := takeDigits 10 0 0 afterSign
      if count = 0 then (0, t) else (if negative then -(value : Int) else value, after)
    else (0, t)

/-- An unsigned decimal at the start of a text: digits, optional fraction, optional exponent. -/
def takeDecimal? (t : Text) : Option (Float × Text) :=
  let (whole, wholeCount, afterWhole) := takeDigits 10 0 0 t
  let (value, count, afterFraction) :=
    match afterWhole with
    | [] => (whole, wholeCount, afterWhole)
    | c :: rest =>
      if c = '.' then takeDigits 10 whole wholeCount rest else (whole, wholeCount, afterWhole)
  if count = 0 then none
  else
    let (exponent, after) := takeExponent afterFraction
    some (ofDecimal value (exponent - ((count - wholeCount : Nat) : Int)), after)

def markedBase? : Text → Option (Nat × Text)
  | z :: m :: rest =>
    if z ≠ '0' then none
    else if m = 'x' ∨ m = 'X' then some (16, rest)
    else if m = 'o' ∨ m = 'O' then some (8, rest)
    else if m = 'b' ∨ m = 'B' then some (2, rest)
    else none
  | _ => none

/-- The number that a whole text spells, blanks around it aside; the empty text is zero and a text
that spells none is NaN. -/
def ofText (t : Text) : Float :=
  let t := t.trim
  if t.isEmpty then 0
  else
    match markedBase? t with
    | some (base, digits) =>
      let (value, count, rest) := takeDigits base 0 0 digits
      if count = 0 || !rest.isEmpty then notANumber else ofDecimal value 0
    | none =>
      let (negative, body) := takeSign t
      let size :=
        if body = "Infinity" then infinity
        else
          match takeDecimal? body with
          | some (x, []) => x
          | _ => notANumber
      if negative then -size else size

/-- The integer that a whole text spells, blanks around it aside, in decimal or in a marked base; the
empty text is zero. -/
def integerOfText? (t : Text) : Option Int :=
  let whole (base : Nat) (digits : Text) : Option Nat :=
    match takeDigits base 0 0 digits with
    | (value, count, []) => if count = 0 then none else some value
    | _ => none
  let t := t.trim
  if t.isEmpty then some 0
  else
    match markedBase? t with
    | some (base, digits) => (whole base digits).map Int.ofNat
    | none =>
      let (negative, body) := takeSign t
      (whole 10 body).map fun n => if negative then -(n : Int) else n

/-- The number spelt by the decimal digits at the start of a text, after blanks and a sign; NaN if
there is no digit. -/
def integerAtStart (t : Text) : Float :=
  let (negative, body) := takeSign (t.dropWhile CodeUnit.isBlank)
  let (value, count, _) := takeDigits 10 0 0 body
  if count = 0 then notANumber
  else if negative then -(ofDecimal value 0) else ofDecimal value 0

end LineTemplate.Number

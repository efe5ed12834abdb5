import LineTemplate.Number.Shortest
import LineTemplate.Text.Basic

/-!
The text of a number: the digits of its shortest decimal, laid out by one record of decisions.
-/

set_option autoImplicit false

namespace LineTemplate.Number

/-- How digits are laid out. `pointLimit` is the largest number of digits before the point that is
written without an exponent, `zeroLimit` the largest number of zeros after a leading point. -/
structure Layout where
  pointLimit : Nat
  zeroLimit : Nat
  exponentMark : Text
  plusSign : Text
  minusSign : Text
  infinity : Text
  notANumber : Text

/-- Values from 1e-6 up to below 1e21 are written positionally, others as `1.5e+21` or `1e-7`; both
zeros are `0`. -/
def layout : Layout where
  pointLimit := 21
  zeroLimit := 5
  exponentMark := "e"
  plusSign := "+"
  minusSign := "-"
  infinity := "Infinity"
  notANumber := "NaN"

/-- Digits with the point after `before` of them, where `before` may lie outside the digits. -/
def Layout.place (f : Layout) (digits : Text) (before : Int) : Text :=
  let zeros (n : Int) : Text := List.replicate n.toNat '0'
  let point : Text := "."
  if digits.length ≤ before ∧ before ≤ f.pointLimit then digits ++ zeros (before - digits.length)
  else if 0 < before ∧ before ≤ f.pointLimit then
    digits.take before.toNat ++ point ++ digits.drop before.toNat
  else if before ≤ 0 ∧ -before ≤ f.zeroLimit then zeros 1 ++ point ++ zeros (-before) ++ digits
  else
    let exponent := before - 1
    let sign := if exponent < 0 then f.minusSign else f.plusSign
    let tail : Text := if digits.length ≤ 1 then [] else point ++ digits.drop 1
    digits.take 1 ++ tail ++ f.exponentMark ++ sign ++ Text.ofNat exponent.natAbs

def Layout.write (f : Layout) (x : Float) : Text :=
  if x.isNaN then f.notANumber
  else if x == 0 then "0"
  else
    let sign := if isNegative x then f.minusSign else []
    if x.isInf then sign ++ f.infinity
    else
      let d := Decimal.shortest (Binary.ofFloat x)
      let digits := Text.ofNat d.digits
      sign ++ f.place digits (d.exponent + digits.length)

def text (x : Float) : Text := layout.write x

/-- The text of an integer, which beyond 2^53 is the text of the nearest number. -/
def textOfInt (n : Int) : Text := text (Float.ofInt n)

end LineTemplate.Number

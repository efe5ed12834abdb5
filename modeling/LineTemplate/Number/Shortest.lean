import LineTemplate.Number.Binary

/-!
The shortest decimal that reads back as a given number. The numbers that round to it form an
interval around it, whose ends belong to it when the mantissa is even. On each decimal grid, from
the coarsest down, the two neighbours of the number are tried; the first grid with a hit has the
fewest digits, and of two hits the nearer one is taken, the even one of two equally near.
-/

set_option autoImplicit false

namespace LineTemplate.Number

/-- The decimal `digits * 10 ^ exponent`. -/
structure Decimal where
  digits : Nat
  exponent : Int
deriving Repr, DecidableEq

/-- A comparison of points of the grid `10 ^ place` with multiples of `2 ^ unit`: a point `d` is at
most the multiple `x` exactly if `d * point ≤ x * multiple`. -/
structure Scale where
  point : Nat
  multiple : Nat

def Scale.of (place unit : Int) : Scale where
  point := Nat.pow 10 place.toNat <<< (-unit).toNat
  multiple := Nat.pow 10 (-place).toNat <<< unit.toNat

/-- The point of the grid `10 ^ place` to take for a number, if one reads back as it. -/
def gridPoint? (b : Binary) (place : Int) : Option Nat :=
  let scale := Scale.of place (b.exponent - 2)
  let value := 4 * b.mantissa * scale.multiple
  let low := (4 * b.mantissa - if b.hasShortLowerGap then 1 else 2) * scale.multiple
  let high := (4 * b.mantissa + 2) * scale.multiple
  let closed := b.mantissa % 2 == 0
  let hit (d : Nat) : Bool :=
    let point := d * scale.point
    if closed then low ≤ point && point ≤ high else low < point && point < high
  let below := value / scale.point
  let above := below + 1
  match hit below && below > 0, hit above with
  | false, false => none
  | true, false => some below
  | false, true => some above
  | true, true =>
    let under := value - below * scale.point
    let excess := above * scale.point - value
    if under < excess then some below
    else if excess < under then some above
    else if below % 2 == 0 then some below else some above

def searchGrids (b : Binary) : Nat → Int → Decimal
  | 0, place => ⟨0, place⟩
  | fuel + 1, place =>
    match gridPoint? b place with
    | some d => ⟨d, place⟩
    | none => searchGrids b fuel (place - 1)

/-- The shortest decimal of a positive finite number. The first grid is coarser than the number; the
grid eighteen places below the leading digit always has a hit. -/
def Decimal.shortest (b : Binary) : Decimal :=
  let bitLength : Int := (Nat.log2 b.mantissa : Int) + 1 + b.exponent
  searchGrids b 24 (bitLength * 30103 / 100000 + 2)

end LineTemplate.Number

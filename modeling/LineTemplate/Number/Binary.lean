/-!
The parts of a double-precision number: its sign, and its size as a natural number times a power of
two. All exact arithmetic on numbers is done on these parts.
-/

set_option autoImplicit false

namespace LineTemplate.Number

/-- The size `mantissa * 2 ^ exponent` of a finite number. -/
structure Binary where
  mantissa : Nat
  exponent : Int
deriving Repr, DecidableEq

def isNegative (x : Float) : Bool := x.toBits >>> 63 == 1

def isNegativeZero (x : Float) : Bool := x == 0 && isNegative x

/-- The leading binary digit of every mantissa but the smallest ones, two to the power 52. -/
def hiddenBit : Nat := 0x10000000000000

def Binary.ofFloat (x : Float) : Binary :=
  let field : Nat := (x.toBits >>> 52).toNat % 2048
  let fraction : Nat := x.toBits.toNat % hiddenBit
  if field = 0 then ⟨fraction, -1074⟩ else ⟨fraction + hiddenBit, (field : Int) - 1075⟩

/-- Whether the number below has a gap half as wide as the number above: the powers of two. -/
def Binary.hasShortLowerGap (b : Binary) : Bool := b.mantissa == hiddenBit && b.exponent > -1074

def isInteger (x : Float) : Bool :=
  x.isFinite &&
    (let b := Binary.ofFloat x
     b.exponent ≥ 0 || b.mantissa % (1 <<< b.exponent.natAbs) == 0)

def truncateSize (x : Float) : Nat :=
  let b := Binary.ofFloat x
  if b.exponent ≥ 0 then b.mantissa <<< b.exponent.natAbs else b.mantissa >>> b.exponent.natAbs

/-- A finite number cut toward zero. -/
def truncate (x : Float) : Int := if isNegative x then -(truncateSize x : Int) else truncateSize x

/-- The remainder of the division cut toward zero, exact, with the sign of the dividend. -/
def remainder (x y : Float) : Float :=
  if x.isNaN || y.isNaN || x.isInf || y == 0 then 0.0 / 0.0
  else if y.isInf || x == 0 then x
  else
    let a := Binary.ofFloat x
    let b := Binary.ofFloat y
    let e := min a.exponent b.exponent
    let units (p : Binary) : Nat := p.mantissa <<< (p.exponent - e).toNat
    let size := (Float.ofNat (units a % units b)).scaleB e
    if isNegative x then -size else size

/-- The order of an integer and a number other than NaN. -/
def compareInt (n : Int) (x : Float) : Ordering :=
  if x.isInf then if isNegative x then .gt else .lt
  else
    let b := Binary.ofFloat x
    let size : Int := if isNegative x then -(b.mantissa : Int) else b.mantissa
    compare (n * ((1 <<< (-b.exponent).toNat : Nat) : Int))
      (size * ((1 <<< b.exponent.toNat : Nat) : Int))

/-- The natural number that is closest to `n` among those with at most 53 binary digits before their
final zeros. Of two it is the one whose last kept digit is zero. -/
def nearest (n : Nat) : Nat :=
  let unit := 1 <<< (Nat.log2 n - 52)
  let kept := n / unit
  let rest := n % unit
  if unit < 2 * rest || (unit = 2 * rest && kept % 2 = 1) then (kept + 1) * unit else kept * unit

theorem nearest_eq_self (n : Nat) (h : n < 2 * hiddenBit) : nearest n = n := by
  have small : Nat.log2 n - 52 = 0 := by
    by_cases zero : n = 0
    · simp [zero]
    · have : n.log2 < 53 := (Nat.log2_lt zero).2 h
      omega
  simp [nearest, small, Nat.mod_one]

end LineTemplate.Number

import LineTemplate.Number.Binary

/-!
Powers. A power is two to the product of the exponent and the binary logarithm of the base; the
logarithm is a sum of a coarse and a fine part, so that the product keeps more digits than a number
has. The last bits of a result are those of the polynomials below, and the tests that come first
answer the exact cases.
-/

set_option autoImplicit false

namespace LineTemplate.Number

/-- The upper half of the bits of a number: its sign, its exponent and the first digits. -/
def upperBits (x : Float) : Nat := (x.toBits >>> 32).toNat

def upperSize (x : Float) : Nat := upperBits x % 0x80000000

def withUpperBits (x : Float) (upper : Nat) : Float :=
  Float.ofBits ((upper.toUInt64 <<< 32) ||| (x.toBits &&& 0xFFFFFFFF))

def coarse (x : Float) : Float := Float.ofBits (x.toBits &&& 0xFFFFFFFF00000000)

/-- A number as the sum of a coarse part and a fine one. -/
structure Split where
  major : Float
  minor : Float

namespace Power

def logNearOne (x : Float) : Split :=
  let t := x - 1
  let w := (t * t) * (0.5 - t * (0.3333333333333333333333 - t * 0.25))
  let u := 1.44269502162933349609e+00 * t
  let v := t * 1.92596299112661746887e-08 - w * 1.44269504088896338700e+00
  let major := coarse (u + v)
  ⟨major, v - (major - u)⟩

/-- A positive size as a power of two times a factor near one or near one and a half. -/
structure Scaled where
  exponent : Int
  factor : Float
  nearThreeHalves : Bool

def scaled (x : Float) : Scaled :=
  let tiny := upperSize x < 0x00100000
  let x := if tiny then x * 9007199254740992.0 else x
  let upper := upperSize x
  let exponent : Int := (upper / 0x100000 : Nat) - 0x3FF - if tiny then 53 else 0
  let digits := upper % 0x100000
  let one := digits + 0x3FF00000
  if digits ≤ 0x3988E then ⟨exponent, withUpperBits x one, false⟩
  else if digits < 0xBB67A then ⟨exponent, withUpperBits x one, true⟩
  else ⟨exponent + 1, withUpperBits x (one - 0x100000), false⟩

def log (x : Float) : Split :=
  let p := scaled x
  let center : Float := if p.nearThreeHalves then 1.5 else 1
  let u := p.factor - center
  let v := 1 / (p.factor + center)
  let ratio := u * v
  let ratioMajor := coarse ratio
  let sumMajor :=
    withUpperBits 0 (upperSize p.factor / 2 % 0x20000000 + 0x20000000 + 0x80000 +
      if p.nearThreeHalves then 0x40000 else 0)
  let sumMinor := p.factor - (sumMajor - center)
  let ratioMinor := v * ((u - ratioMajor * sumMajor) - ratioMajor * sumMinor)
  let s := ratio * ratio
  let r := s * s * (5.99999999999994648725e-01 + s * (4.28571428578550184252e-01 +
    s * (3.33333329818377432918e-01 + s * (2.72728123808534006489e-01 +
      s * (2.30660745775561754067e-01 + s * 2.06975017800338417784e-01)))))
  let r := r + ratioMinor * (ratioMajor + ratio)
  let s := ratioMajor * ratioMajor
  let major := coarse (3.0 + s + r)
  let minor := r - ((major - 3.0) - s)
  let u := ratioMajor * major
  let v := ratioMinor * major + minor * ratio
  let major := coarse (u + v)
  let minor := v - (major - u)
  let z := 9.61796700954437255859e-01 * major
  let zMinor := -7.02846165095275826516e-09 * major + minor * 9.61796693925975554329e-01 +
    if p.nearThreeHalves then 1.35003920212974897128e-08 else 0
  let offset : Float := if p.nearThreeHalves then 5.84962487220764160156e-01 else 0
  let t := Float.ofInt p.exponent
  let major := coarse (((z + zMinor) + offset) + t)
  ⟨major, zMinor - (((major - t) - offset) - z)⟩

/-- Two to a power within the range of exponents, given the power as a sum whose rounded value is
`z`. -/
def exponential (p : Split) (z : Float) : Float :=
  let field : Int := (upperSize z / 0x100000 : Nat) - 0x3FF
  let negative := isNegative z
  let (whole, major) : Int × Float :=
    if upperSize z ≤ 0x3FE00000 then (0, p.major)
    else
      -- the nearest integer: a half is added in the place below the point
      let rounded := (upperBits z + 0x100000 >>> (field + 1).toNat) % 0x100000000
      let place := ((rounded % 0x80000000) / 0x100000) - 0x3FF
      let kept := rounded >>> (20 - place) <<< (20 - place)
      let size : Nat := (rounded % 0x100000 + 0x100000) >>> (20 - place)
      (if negative then -(size : Int) else size, p.major - withUpperBits 0 kept)
  let t := coarse (p.minor + major)
  let u := t * 6.93147182464599609375e-01
  let v := (p.minor - (t - major)) * 6.93147180559945286227e-01 + t * -1.90465429995776804525e-09
  let z := u + v
  let w := v - (z - u)
  let t := z * z
  let t := z - t * (1.66666666666666019037e-01 + t * (-2.77777777770155933842e-03 +
    t * (6.61375632143793436117e-05 + t * (-1.65339022054652515390e-06 +
      t * 4.13813679705723846039e-08))))
  let r := (z * t) / ((t - 2) - (w + z * w))
  let z := 1 - (r - z)
  let upper : Int := upperBits z + whole * 0x100000
  if upper < 0x100000 then z.scaleB whole else withUpperBits z upper.toNat

/-- A positive size other than one to a power other than zero: too large and too small results are
infinite and zero. -/
def ofSize (x y : Float) : Float :=
  let steep := upperSize y > 0x41E00000
  let infinite : Float := 1.0 / 0.0
  if steep && upperSize x < 0x3FEFFFFF then if isNegative y then infinite else 0
  else if steep && upperSize x > 0x3FF00000 then if isNegative y then 0 else infinite
  else if upperSize y > 0x43F00000 then if (x < 1) == isNegative y then infinite else 0
  else
    let l := if steep then logNearOne x else log x
    let yMajor := coarse y
    let p : Split := ⟨yMajor * l.major, (y - yMajor) * l.major + y * l.minor⟩
    let z := p.minor + p.major
    if z ≥ 1024 && (z > 1024 || p.minor + 8.0085662595372944372e-17 > z - p.major) then infinite
    else if z ≤ -1075 && (z < -1075 || p.minor ≤ z - p.major) then 0
    else exponential p z

end Power

def isOdd (x : Float) : Bool := isInteger x && (remainder x 2).abs == 1

/-- Powers. A base of size one to an infinite or undefined exponent has no value, nor has a negative
base to a fraction. -/
def power (x y : Float) : Float :=
  if y == 0 then 1
  else if x.isNaN || y.isNaN || (x.abs == 1 && y.isInf) then 0.0 / 0.0
  else if y.isInf then if (x.abs > 1) == (y > 0) then y.abs else 0
  else if y == 1 then x
  else if y == -1 then 1 / x
  else if y == 2 then x * x
  else if y == 0.5 && !isNegative x then x.sqrt
  else
    let signed (size : Float) : Float := if isNegative x && isOdd y then -size else size
    if x == 0 || x.isInf || x.abs == 1 then
      if x == -1 && !isInteger y then 0.0 / 0.0
      else signed (if y < 0 then 1 / x.abs else x.abs)
    else if x < 0 && !isInteger y then 0.0 / 0.0
    else signed (Power.ofSize x.abs y)

end LineTemplate.Number

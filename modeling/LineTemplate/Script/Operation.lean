import LineTemplate.Script.Conversion

/-!
Operators. Sums of texts join them; all other arithmetic is on numbers, or on two big integers.
-/

set_option autoImplicit false

namespace LineTemplate.Script

namespace Run

/-- Whether two values are the same: equal numbers, equal texts, one object. NaN differs from itself. -/
def same : Value → Value → Bool
  | .undefined, .undefined => true
  | .null, .null => true
  | .bool a, .bool b => a == b
  | .number a, .number b => a == b
  | .bigint a, .bigint b => a == b
  | .text a, .text b => a == b
  | .symbol a _, .symbol b _ => a == b
  | .ref a, .ref b => a == b
  | _, _ => false

def numberResult (op : BinaryOp) (x y : Float) : Value :=
  match op with
  | .add => .number (x + y)
  | .subtract => .number (x - y)
  | .multiply => .number (x * y)
  | .divide => .number (x / y)
  | .remainder => .number (Number.remainder x y)
  | .power => .number (Number.power x y)
  | .less => .bool (x < y)
  | .lessOrEqual => .bool (x ≤ y)
  | .greater => .bool (y < x)
  | .greaterOrEqual => .bool (y ≤ x)
  | .same => .bool (x == y)
  | .different => .bool (x != y)

def bigintLimit : Nat := 0x40000000

def bigintPower? (x : Int) (n : Nat) : Option Int :=
  if n = 0 then some 1
  else if x.natAbs ≤ 1 then some (if n % 2 = 0 then x * x else x)
  else if bigintLimit ≤ Nat.log2 x.natAbs * n then none
  else some (Int.pow x n)

def comparisonHolds (op : BinaryOp) (order : Ordering) : Bool :=
  match op with
  | .less => order == .lt
  | .lessOrEqual => order != .gt
  | .greater => order == .gt
  | .greaterOrEqual => order != .lt
  | .different => order != .eq
  | _ => order == .eq

def bigintResult (frames : List Frame) (op : BinaryOp) (x y : Int) : Run Value :=
  match op with
  | .add => return .bigint (x + y)
  | .subtract => return .bigint (x - y)
  | .multiply => return .bigint (x * y)
  | .divide =>
    if y = 0 then raiseRange frames "Division by zero" else return .bigint (x.tdiv y)
  | .remainder =>
    if y = 0 then raiseRange frames "Division by zero" else return .bigint (x.tmod y)
  | .power =>
    if y < 0 then raiseRange frames "undefined must be positive"
    else
      match bigintPower? x y.toNat with
      | some z => return .bigint z
      | none => raiseRange frames "Maximum BigInt size exceeded"
  | op => return .bool (comparisonHolds op (compare x y))

def textOrder (a b : Text) : Ordering := if a = b then .eq else if Text.le a b then .lt else .gt

/-- The value that counts in arithmetic: a big integer, or a number. -/
def toNumeric (frames : List Frame) (plain : Value) : Run Value := do
  match plain with
  | .bigint n => return .bigint n
  | v => return .number (← plainNumber frames v)

def arithmetic (frames : List Frame) (op : BinaryOp) (l r : Value) : Run Value :=
  match l, r with
  | .number x, .number y => return numberResult op x y
  | .bigint x, .bigint y => bigintResult frames op x y
  | _, _ => raiseType frames "Cannot mix BigInt and other types, use explicit conversions"

/-- A comparison of a big integer with a number, which is exact; NaN compares with nothing. -/
def mixedComparison (op : BinaryOp) (x : Int) (y : Float) : Bool :=
  if y.isNaN then false else comparisonHolds op (Number.compareInt x y)

def mirrored : BinaryOp → BinaryOp
  | .less => .greater
  | .lessOrEqual => .greaterOrEqual
  | .greater => .less
  | .greaterOrEqual => .lessOrEqual
  | op => op

def comparison (frames : List Frame) (op : BinaryOp) (l r : Value) : Run Value := do
  match l, r with
  | .text a, .text b => return .bool (comparisonHolds op (textOrder a b))
  | .bigint x, .text t =>
    return .bool ((Number.integerOfText? t).any fun y => comparisonHolds op (compare x y))
  | .text t, .bigint y =>
    return .bool ((Number.integerOfText? t).any fun x => comparisonHolds op (compare x y))
  | l, r =>
    match ← toNumeric frames l, ← toNumeric frames r with
    | .number x, .number y => return numberResult op x y
    | .bigint x, .bigint y => bigintResult frames op x y
    | .bigint x, .number y => return .bool (mixedComparison op x y)
    | .number x, .bigint y => return .bool (mixedComparison (mirrored op) y x)
    | _, _ => return .bool false

def numeric (engine : Engine) (frames : List Frame) (v : Value) : Run Value := do
  toNumeric frames (← toPlain engine frames .plain v)

def joined (frames : List Frame) (s t : Text) : Run Value := do
  if Text.maxLength < s.length + t.length then raiseRange frames "Invalid string length"
  return .text (s ++ t)

def sum (engine : Engine) (frames : List Frame) (l r : Value) : Run Value := do
  let a ← toPlain engine frames .plain l
  let b ← toPlain engine frames .plain r
  match a, b with
  | .text s, other => joined frames s (← toText engine frames other)
  | other, .text t => joined frames (← toText engine frames other) t
  | a, b =>
    let x ← toNumeric frames a
    arithmetic frames .add x (← toNumeric frames b)

def binary (engine : Engine) (frames : List Frame) (op : BinaryOp) (l r : Value) : Run Value := do
  match op with
  | .same => return .bool (same l r)
  | .different => return .bool (!same l r)
  | .add => sum engine frames l r
  | .less | .lessOrEqual | .greater | .greaterOrEqual =>
    let a ← toPlain engine frames .plain l
    let b ← toPlain engine frames .plain r
    comparison frames op a b
  | .subtract | .multiply | .divide | .remainder | .power =>
    let x ← numeric engine frames l
    arithmetic frames op x (← numeric engine frames r)

def negative : Value → Value
  | .number x => .number (-x)
  | .bigint n => .bigint (-n)
  | v => v

/-- One, of the same sort as a value that counts. -/
def unitLike : Value → Value
  | .bigint _ => .bigint 1
  | _ => .number 1

end Run

end LineTemplate.Script

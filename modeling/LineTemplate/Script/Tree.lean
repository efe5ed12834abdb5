import LineTemplate.Number.Power
import LineTemplate.Number.Printing
import LineTemplate.Script.Token

/-!
The trees of the script language. Each tree knows its place in the code: the token that stands for it
in error reports. Some failures show at another place than their own; trees that can fail so carry
that place as well, and a parser leaves it at their own. The language is the part that templates are written
in: among others `var`, `this`, `==`, `delete`, `switch`, `try` and classes have no trees.
-/

set_option autoImplicit false

namespace LineTemplate.Script

inductive Literal where
  | undefined
  | null
  | bool (value : Bool)
  | number (value : Float)
  | text (value : Text)

inductive UnaryOp where
  | not
  | negate
  | plus
  | typeName
deriving DecidableEq, Repr

inductive BinaryOp where
  | add
  | subtract
  | multiply
  | divide
  | remainder
  | power
  | less
  | lessOrEqual
  | greater
  | greaterOrEqual
  | same
  | different
deriving DecidableEq, Repr

namespace BinaryOp

def isComparison : BinaryOp → Bool
  | .less | .lessOrEqual | .greater | .greaterOrEqual | .same | .different => true
  | .add | .subtract | .multiply | .divide | .remainder | .power => false

def chains (op : BinaryOp) : Bool := !op.isComparison && op ≠ .power

end BinaryOp

inductive LogicalOp where
  /-- The right value if the left one counts as true. -/
  | both
  /-- The right value if the left one counts as false. -/
  | either
  /-- The right value if the left one is missing. -/
  | fallback
deriving DecidableEq, Repr

/-- What a declaration or a loop binds: one name, or the first items of a sequence, of which some may
be left out. Each name has its place. -/
inductive Pattern where
  | name (id : Text) (spot : Spot)
  | items (ids : List (Option (Text × Spot)))

def Pattern.names : Pattern → List Text
  | .name id _ => [id]
  | .items ids => ids.filterMap fun item => item.map (·.1)

structure FunctionHead where
  /-- The name it is known by, which may be empty. -/
  name : Text
  /-- Whether the function can call itself by that name. -/
  namesItself : Bool
  isArrow : Bool
  params : List Text
  start : Spot
  /-- Where its parameters start; a call that cannot be entered is reported there. -/
  entry : Spot
  /-- The code from its start on. -/
  here : Text
  /-- The code after it. -/
  after : Text

def FunctionHead.text (f : FunctionHead) : Text := f.here.take (f.here.length - f.after.length)

mutual

inductive Expr where
  | literal (value : Literal) (spot : Spot)
  /-- A place left out of an array. -/
  | hole (spot : Spot)
  /-- Texts with the converted values of expressions between them; `shown` says where each
  conversion fails. -/
  | spliced (texts : List Text) (values : List Expr) (shown : List Spot) (spot : Spot)
  | name (id : Text) (spot shown : Spot)
  | array (items : List Expr) (spot : Spot)
  | object (keys : List Text) (values : List Expr) (spot : Spot)
  /-- All in order; the value is that of the last. -/
  | comma (items : List Expr)
  | function (head : FunctionHead) (body : List Stmt)
  | member (base : Expr) (key : Text) (spot : Spot)
  | index (base key : Expr) (spot : Spot)
  | call (callee : Expr) (args : List Expr) (spot : Spot)
  | create (callee : Expr) (args : List Expr) (spot : Spot)
  | unary (op : UnaryOp) (operand : Expr) (spot : Spot)
  | binary (op : BinaryOp) (left right : Expr) (spot : Spot)
  | logical (op : LogicalOp) (left right : Expr) (spot : Spot)
  | choose (condition yes no : Expr) (spot : Spot)
  | assign (target : Target) (value : Expr) (spot : Spot)
  /-- Combines the old value with a new one and assigns the result. Reading and combining fail at
  places of their own. -/
  | update (target : Target) (op : BinaryOp) (value : Expr) (read combined spot : Spot)
  /-- Adds one or subtracts one; the value is the new number or, if `old`, the old one. -/
  | step (target : Target) (op : BinaryOp) (old : Bool) (read combined spot : Spot)

/-- What can be assigned to. A call cannot, which shows when the assignment runs. -/
inductive Target where
  | name (id : Text) (spot : Spot)
  | member (base : Expr) (key : Text) (spot : Spot)
  | index (base key : Expr) (spot : Spot)
  | call (value : Expr) (message : Text) (shown : Spot)

inductive Stmt where
  | expr (value : Expr) (spot : Spot)
  /-- Declares the names of a pattern and gives them their first values. -/
  | declare (mutable : Bool) (pattern : Pattern) (value : Expr) (spot : Spot)
  /-- Declares a function; one that is exposed is known outside its block as well. -/
  | function (id : Text) (head : FunctionHead) (body : List Stmt) (exposed : Bool)
  | choose (condition : Expr) (yes no : List Stmt) (spot : Spot)
  /-- A loop over a sequence. Opening it fails at `opened`; `last` is the end of the pattern, where
  reading it fails. -/
  | forOf (mutable : Bool) (pattern : Pattern) (source : Expr) (body : List Stmt)
      (opened last : Spot)
  /-- The loop with a start, a test, a step and a body. -/
  | forLoop (start : List Stmt) (test step : Expr) (body : List Stmt)
  | repeatWhile (test : Expr) (body : List Stmt)
  | block (body : List Stmt)
  | return (value : Expr) (spot : Spot)
  | throw (value : Expr) (spot : Spot)

end

instance : Inhabited Expr := ⟨.literal .undefined ⟨0, 0⟩⟩

namespace Literal

def isTrue : Literal → Bool
  | .undefined | .null => false
  | .bool b => b
  | .number x => !(x == 0 || x.isNaN)
  | .text t => !t.isEmpty

end Literal

namespace Expr

/-- A chain is reported at its first operand, a single operation at its operator. -/
def chainSpot (continues : Bool) (left own : Spot) : Spot := if continues then left else own

def isBinary (op : BinaryOp) : Expr → Bool
  | .binary other _ _ _ => op == other
  | _ => false

def isLogical (op : LogicalOp) : Expr → Bool
  | .logical other _ _ _ => op == other
  | _ => false

def spot : Expr → Spot
  | .literal _ s | .hole s | .spliced _ _ _ s | .name _ s _ | .array _ s | .object _ _ s => s
  | .comma [] => ⟨0, 0⟩
  | .comma [only] => only.spot
  | .comma [_, second] => second.spot
  | .comma (first :: _) => first.spot
  | .function head _ => head.start
  | .member _ _ s | .index _ _ s | .call _ _ s | .create _ _ s | .unary _ _ s => s
  | .binary op left _ s => chainSpot (op.chains && left.isBinary op) left.spot s
  | .logical op left _ s => chainSpot (left.isLogical op) left.spot s
  | .choose _ _ _ s | .assign _ _ s | .update _ _ _ _ _ s | .step _ _ _ _ _ s => s

def target? (message : Text) : Expr → Option Target
  | .name id spot _ => some (.name id spot)
  | .member base key spot => some (.member base key spot)
  | .index base key spot => some (.index base key spot)
  | .call callee args spot => some (.call (.call callee args spot) message spot)
  | _ => none

/-- A function without a name takes the name it is given to. -/
def named (id : Text) : Expr → Expr
  | .function head body =>
    .function (if head.name.isEmpty then { head with name := id } else head) body
  | e => e

def ofUnary (op : UnaryOp) (operand : Expr) (spot : Spot) : Expr :=
  match op, operand with
  | .not, .literal l _ => .literal (.bool !l.isTrue) spot
  | .plus, .literal (.number _) _ => operand
  | .negate, .literal (.number x) _ => .literal (.number (-x)) spot
  | _, _ => .unary op operand spot

def constant? (op : BinaryOp) (x y : Float) : Option Float :=
  match op with
  | .add => some (x + y)
  | .subtract => some (x - y)
  | .multiply => some (x * y)
  | .divide => some (x / y)
  | .power => some (Number.power x y)
  | _ => none

def ofBinary (op : BinaryOp) (left right : Expr) (spot : Spot) : Expr :=
  match left, right with
  | .literal (.number x) _, .literal (.number y) _ =>
    match constant? op x y with
    | some z => .literal (.number z) spot
    | none => .binary op left right spot
  | _, _ => .binary op left right spot

def isSmallInteger : Expr → Bool
  | .literal (.number x) _ =>
    Number.isInteger x && !Number.isNegativeZero x && -2147483648 ≤ x && x ≤ 2147483647
  | _ => false

end Expr

end LineTemplate.Script

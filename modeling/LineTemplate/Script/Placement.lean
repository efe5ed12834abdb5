import LineTemplate.Script.Scope

/-!
Where failures show. What runs moves from place to place in the code, and a failure without a place of
its own shows at the place reached last. Where a statement starts comes before the places inside it
until the first step of it has run. `place` settles these places in a tree, and marks the functions
that their blocks expose.
-/

set_option autoImplicit false

namespace LineTemplate.Script

/-- The place reached last, and the start of a statement of which nothing has run yet. -/
structure Progress where
  reached : Spot
  started : Option Spot

abbrev Placing (α : Type) := StateM Progress α

namespace Placing

def start (spot : Spot) : Placing Unit := modify fun p => { p with started := some spot }

def reach (spot : Spot) : Placing Unit :=
  modify fun p => if p.started.isNone then { p with reached := spot } else p

def step : Placing Spot :=
  modifyGet fun p =>
    let spot := p.started.getD p.reached
    (spot, ⟨spot, none⟩)

def stepAt (spot : Spot) : Placing Unit := do
  reach spot
  discard step

end Placing

/-- The names around a place in the code. -/
structure Surroundings where
  /-- All names that are not global. -/
  names : List Text
  /-- The names of the present block. -/
  own : List Text
  /-- The names outside the present block, within the function, that keep a function inside it. -/
  barred : List Text
  /-- Whether the present block is not the body of a function or of the program. -/
  inner : Bool

namespace Surroundings

def enter (s : Surroundings) (names : List Text) : Surroundings :=
  ⟨names ++ s.names, names, s.own ++ s.barred, true⟩

def enterFunction (s : Surroundings) (head : FunctionHead) (body : List Stmt) : Surroundings where
  names := (if head.namesItself then [head.name] else []) ++ head.params ++ blockNames body ++
    exposedFunctions head.params body ++ s.names
  own := (lexicalNames body).map (·.1)
  barred := head.params
  inner := false

def ofProgram (body : List Stmt) : Surroundings :=
  let own := (lexicalNames body).map (·.1)
  ⟨own, own, [], false⟩

def exposes (s : Surroundings) (id : Text) : Bool := s.inner && !s.barred.contains id

end Surroundings

open Placing

/-- Whether the left operand is taken in with the operator, so that no step of its own runs. -/
def isMerged (op : BinaryOp) (left right : Expr) : Bool :=
  match op, left, right with
  | .multiply, left, right => left.isSmallInteger && !right.isSmallInteger
  | .same, .literal .null _, _ | .different, .literal .null _, _ => true
  | .same, .literal (.bool _) _, _ | .different, .literal (.bool _) _, _ => true
  | .same, .literal (.text _) _, .unary .typeName _ _ => true
  | .different, .literal (.text _) _, .unary .typeName _ _ => true
  | .same, .name id _ _, _ | .different, .name id _ _, _ => id = "undefined"
  | _, _, _ => false

/-- Whether an expression is a product that starts with an integer. In a longer product the integer is
a step like any other operand. -/
def startsWithInteger : Expr → Bool
  | .binary .multiply first _ _ => first.isSmallInteger
  | _ => false

mutual

def Expr.place (s : Surroundings) : Expr → Placing Expr
  | .literal l spot => do
    discard step
    return .literal l spot
  | .hole spot => return .hole spot
  | .spliced texts values _ spot => do
    reach spot
    let (values, shown) ← placeSplices s texts values
    return .spliced texts values shown spot
  | .name id spot _ => do
    reach spot
    return .name id spot (← step)
  | .array items spot => do
    discard step
    return .array (← placeAll s items) spot
  | .object keys values spot => do
    discard step
    return .object keys (← placeValues s values) spot
  | .comma items => return .comma (← placeList s items)
  | .function head body => do
    discard step
    let (placed, _) := placeBlock (s.enterFunction head body) body ⟨head.entry, none⟩
    return .function head placed
  | .member base key spot => do
    let base ← Expr.place s base
    stepAt spot
    return .member base key spot
  | .index base key spot => do
    let base ← Expr.place s base
    let key ← Expr.place s key
    stepAt spot
    return .index base key spot
  | .call callee args spot => do
    let callee ←
      match callee with
      | .name id own _ =>
        if s.names.contains id then reach own
        pure (.name id own (← step))
      | callee => Expr.place s callee
    let args ← placeAll s args
    stepAt spot
    return .call callee args spot
  | .create callee args spot => do
    let callee ← Expr.place s callee
    let args ← placeAll s args
    stepAt spot
    return .create callee args spot
  | .unary op operand spot => do
    match op, operand with
    | .typeName, .name id own _ => return .unary op (.name id own (← step)) spot
    | _, operand =>
      let operand ← Expr.place s operand
      if op = .not || op = .typeName then discard step else stepAt spot
      return .unary op operand spot
  | .binary op left right spot => do
    if op = .multiply && startsWithInteger left then discard step
    let left ← if isMerged op left right then pure left else Expr.place s left
    let right ← Expr.place s right
    stepAt spot
    return .binary op left right spot
  | .logical op left right spot => do
    let left ← Expr.place s left
    return .logical op left (← Expr.place s right) spot
  | .choose condition yes no spot => do
    let condition ← Expr.place s condition
    let yes ← Expr.place s yes
    return .choose condition yes (← Expr.place s no) spot
  | .assign target value spot => do
    let target ← Target.place s target
    let value ← Expr.place s value
    stepAt spot
    return .assign target value spot
  | .update target op value _ _ spot => do
    let target ← Target.place s target
    let read ← step
    let value ← Expr.place s value
    let combined ← step
    stepAt spot
    return .update target op value read combined spot
  | .step target op old _ _ spot => do
    let target ← Target.place s target
    let read ← step
    let combined ← step
    stepAt spot
    return .step target op old read combined spot

def placeAll (s : Surroundings) : List Expr → Placing (List Expr)
  | [] => return []
  | e :: rest => do
    let e ← Expr.place s e
    return e :: (← placeAll s rest)

def placeValues (s : Surroundings) : List Expr → Placing (List Expr)
  | [] => return []
  | e :: rest => do
    reach e.spot
    let e ← Expr.place s e
    return e :: (← placeValues s rest)

/-- The expressions of a list with commas; each after the first one starts like a statement. -/
def placeList (s : Surroundings) : List Expr → Placing (List Expr)
  | [] => return []
  | [e] => return [← Expr.place s e]
  | e :: next :: rest => do
    let e ← Expr.place s e
    start next.spot
    return e :: (← placeList s (next :: rest))

def placeSplices (s : Surroundings) (texts : List Text) :
    List Expr → Placing (List Expr × List Spot)
  | [] => return ([], [])
  | e :: rest => do
    if texts.head?.any fun t => !t.isEmpty then discard step
    let e ← Expr.place s e
    let shown ← step
    let (others, spots) ← placeSplices s (texts.drop 1) rest
    return (e :: others, shown :: spots)

def Target.place (s : Surroundings) : Target → Placing Target
  | .name id spot => return .name id spot
  | .member base key spot => do return .member (← Expr.place s base) key spot
  | .index base key spot => do
    let base ← Expr.place s base
    return .index base (← Expr.place s key) spot
  | .call value message _ => do
    let value ← Expr.place s value
    return .call value message (← step)

def Stmt.place (s : Surroundings) : Stmt → Placing Stmt
  | .expr value spot => do
    start spot
    return .expr (← Expr.place s value) spot
  | .declare mutable pattern value spot => do
    start spot
    let value ← Expr.place s value
    stepAt spot
    return .declare mutable pattern value spot
  | .function id head body _ => do
    let (placed, _) := placeBlock (s.enterFunction head body) body ⟨head.entry, none⟩
    return .function id head placed (s.exposes id)
  | .choose condition yes no spot => do
    start spot
    let condition ← Expr.place s condition
    let yes ← placeBlock (s.enter (blockNames yes)) yes
    return .choose condition yes (← placeBlock (s.enter (blockNames no)) no) spot
  | .forOf mutable pattern source body _ last => do
    let inner := s.enter pattern.names
    start source.spot
    let source ← Expr.place inner source
    let opened ← step
    start last
    discard step
    let body ← placeBlock (inner.enter (blockNames body)) body
    return .forOf mutable pattern source body opened last
  | .forLoop first test advance body => do
    let inner := s.enter (blockNames first)
    let first ← placeBlock inner first
    start test.spot
    let test ← Expr.place inner test
    let body ← placeBlock (inner.enter (blockNames body)) body
    start advance.spot
    return .forLoop first test (← Expr.place inner advance) body
  | .repeatWhile test body => do
    start test.spot
    let test ← Expr.place s test
    return .repeatWhile test (← placeBlock (s.enter (blockNames body)) body)
  | .block body => return .block (← placeBlock (s.enter (blockNames body)) body)
  | .return value spot => do
    start spot
    return .return (← Expr.place s value) spot
  | .throw value spot => do
    start spot
    let value ← Expr.place s value
    stepAt spot
    return .throw value spot

def placeBlock (s : Surroundings) : List Stmt → Placing (List Stmt)
  | [] => return []
  | st :: rest => do
    let st ← Stmt.place s st
    return st :: (← placeBlock s rest)

end

def placed (program : List Stmt) : List Stmt :=
  (placeBlock (.ofProgram program) program ⟨⟨1, 1⟩, none⟩).1

end LineTemplate.Script

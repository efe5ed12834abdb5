import LineTemplate.Script.Tree

/-!
How messages name the expression that failed. The expression is found by the place of the failure:
the call at that place, or the sequence that is read there. It is written out in a canonical form,
with parentheses around operations; parts that are not written out count as an intermediate value.
-/

set_option autoImplicit false

namespace LineTemplate.Script

namespace UnaryOp

def symbol : UnaryOp → Text
  | .not => "!"
  | .negate => "-"
  | .plus => "+"
  | .typeName => "typeof "

end UnaryOp

namespace BinaryOp

def symbol : BinaryOp → Text
  | .add => "+"
  | .subtract => "-"
  | .multiply => "*"
  | .divide => "/"
  | .remainder => "%"
  | .power => "**"
  | .less => "<"
  | .lessOrEqual => "<="
  | .greater => ">"
  | .greaterOrEqual => ">="
  | .same | .different => "==="

end BinaryOp

namespace LogicalOp

def symbol : LogicalOp → Text
  | .both => "&&"
  | .either => "||"
  | .fallback => "??"

end LogicalOp

namespace Literal

def siteText : Literal → Text
  | .undefined => "undefined"
  | .null => "null"
  | .bool true => "true"
  | .bool false => "false"
  | .number x => Number.text x
  | .text t => ("\"" : Text) ++ t ++ ("\"" : Text)

end Literal

namespace Site

def intermediate : Text := "(intermediate value)"

def intermediates (count : Nat) : Text := (List.replicate count intermediate).flatten

/-- Two operands with their operator. Within a chain of the same operator they need no parentheses. -/
def infixText (chain symbol left right : Text) : Text :=
  let joined := left ++ (" " : Text) ++ symbol ++ (" " : Text) ++ right
  if chain = symbol then joined else ("(" : Text) ++ joined ++ (")" : Text)

def isDeclaration : Stmt → Bool
  | .function _ _ _ _ => true
  | _ => false

mutual

/-- The written form of an expression. With `plain`, which holds for what is read as a sequence, a
call is written like what it calls. `chain` is the operator of the chain around the expression. -/
def written (plain : Bool) (chain : Text) : Expr → Text
  | .literal l _ => l.siteText
  | .hole _ => intermediate
  | .spliced _ values _ _ => (writtenAll plain values).flatten
  | .name id _ _ => id
  | .array items _ => ("[" : Text) ++ Text.join "," (writtenAll plain items) ++ ("]" : Text)
  | .object keys _ _ => ("\x7b" : Text) ++ intermediates keys.length ++ ("\x7d" : Text)
  | .comma items => ("(" : Text) ++ Text.join " , " (writtenAll plain items) ++ (")" : Text)
  | .function _ body => intermediates (max 1 (body.countP fun s => !isDeclaration s))
  | .member base key _ => written plain [] base ++ ("." : Text) ++ key
  | .index base key _ =>
    match key with
    | .literal (.text t) _ => written plain [] base ++ ("." : Text) ++ t
    | key => written plain [] base ++ ("[" : Text) ++ written plain [] key ++ ("]" : Text)
  | .call callee _ _ => if plain then written plain [] callee else written plain [] callee ++ "(...)"
  | .create callee _ _ => if plain then written plain [] callee else intermediate
  | .unary op operand _ => ("(" : Text) ++ op.symbol ++ written plain [] operand ++ (")" : Text)
  | .binary op left right _ =>
    let inner := if op.chains then op.symbol else []
    let joined := infixText (if op.chains then chain else []) op.symbol (written plain inner left)
      (written plain [] right)
    if op = .different then ("(!" : Text) ++ joined ++ (")" : Text) else joined
  | .logical op left right _ =>
    infixText chain op.symbol (written plain op.symbol left) (written plain [] right)
  | .choose _ _ _ _ => intermediates 3
  | .assign target _ _ => writtenTarget plain target
  | .update target _ _ _ _ _ => writtenTarget plain target
  | .step target op old _ _ _ =>
    let mark : Text := if op = .add then "++" else "--"
    if old then ("(" : Text) ++ writtenTarget plain target ++ mark ++ (")" : Text)
    else ("(" : Text) ++ mark ++ writtenTarget plain target ++ (")" : Text)

def writtenAll (plain : Bool) : List Expr → List Text
  | [] => []
  | e :: rest => written plain [] e :: writtenAll plain rest

def writtenTarget (plain : Bool) : Target → Text
  | .name id _ => id
  | .member base key _ => written plain [] base ++ ("." : Text) ++ key
  | .index base key _ =>
    match key with
    | .literal (.text t) _ => written plain [] base ++ ("." : Text) ++ t
    | key => written plain [] base ++ ("[" : Text) ++ written plain [] key ++ ("]" : Text)
  | .call value _ _ => written plain [] value ++ ("[" : Text) ++ intermediate ++ ("]" : Text)

end

mutual

def writesCall (place : Nat) : Expr → Bool
  | .literal _ _ | .hole _ | .name _ _ _ | .object _ _ _ | .function _ _ | .choose _ _ _ _ => false
  | .spliced _ values _ _ => writesCallIn place values
  | .array items _ => writesCallIn place items
  | .comma items => writesCallIn place items
  | .member base _ _ => writesCall place base
  | .index base key _ => writesCall place base || writesCall place key
  | .call callee _ spot => spot.token == place || writesCall place callee
  | .create callee _ spot => spot.token == place || writesCall place callee
  | .unary _ operand _ => writesCall place operand
  | .binary _ left right _ => writesCall place left || writesCall place right
  | .logical _ left right _ => writesCall place left || writesCall place right
  | .assign target _ _ => targetWritesCall place target
  | .update target _ _ _ _ _ => targetWritesCall place target
  | .step target _ _ _ _ _ => targetWritesCall place target

def writesCallIn (place : Nat) : List Expr → Bool
  | [] => false
  | e :: rest => writesCall place e || writesCallIn place rest

def targetWritesCall (place : Nat) : Target → Bool
  | .name _ _ => false
  | .member base _ _ => writesCall place base
  | .index base key _ => writesCall place base || writesCall place key
  | .call value _ _ => writesCall place value

end

end Site

/-- What failed: an expression that was called, or read as a sequence, or both. -/
structure Site where
  text : Text
  isCall : Bool
  isSequence : Bool

namespace Site

def ofCall (callee : Expr) : Site := ⟨written false [] callee, true, false⟩

def ofSequence (place : Nat) (source : Expr) : Site :=
  ⟨written true [] source, writesCall place source, true⟩

def loopItem : Site := ⟨".for", false, true⟩

mutual

/-- What stands at a place within an expression. Functions inside it have places of their own. -/
def find? (place : Nat) : Expr → Option Site
  | .literal _ _ | .hole _ | .name _ _ _ | .function _ _ => none
  | .spliced _ values _ _ => findIn? place values
  | .array items _ => findIn? place items
  | .object _ values _ => findIn? place values
  | .comma items => findIn? place items
  | .member base _ _ => find? place base
  | .index base key _ => (find? place base).or (find? place key)
  | .call callee args spot | .create callee args spot =>
    if spot.token = place then some (ofCall callee)
    else (find? place callee).or (findIn? place args)
  | .unary _ operand _ => find? place operand
  | .binary _ left right _ | .logical _ left right _ => (find? place left).or (find? place right)
  | .choose condition yes no _ => ((find? place condition).or (find? place yes)).or (find? place no)
  | .assign target value _ => (targetFind? place target).or (find? place value)
  | .update target _ value _ _ _ => (targetFind? place target).or (find? place value)
  | .step target _ _ _ _ _ => targetFind? place target

def findIn? (place : Nat) : List Expr → Option Site
  | [] => none
  | e :: rest => (find? place e).or (findIn? place rest)

def targetFind? (place : Nat) : Target → Option Site
  | .name _ _ => none
  | .member base _ _ => find? place base
  | .index base key _ => (find? place base).or (find? place key)
  | .call value _ _ => find? place value

end

def takesApart : Pattern → Bool
  | .name _ _ => false
  | .items _ => true

mutual

def inStatement? (place : Nat) : Stmt → Option Site
  | .expr value _ | .return value _ | .throw value _ => find? place value
  | .declare _ pattern value _ =>
    if takesApart pattern && value.spot.token == place then some (ofSequence place value)
    else find? place value
  | .function _ _ _ _ => none
  | .choose condition yes no _ =>
    ((find? place condition).or (inStatements? place yes)).or (inStatements? place no)
  | .forOf _ pattern source body _ last =>
    if source.spot.token = place then some (ofSequence place source)
    else if takesApart pattern && last.token == place then some loopItem
    else (find? place source).or (inStatements? place body)
  | .forLoop start test step body =>
    (((inStatements? place start).or (find? place test)).or (inStatements? place body)).or
      (find? place step)
  | .repeatWhile test body => (find? place test).or (inStatements? place body)
  | .block body => inStatements? place body

def inStatements? (place : Nat) : List Stmt → Option Site
  | [] => none
  | s :: rest => (inStatement? place s).or (inStatements? place rest)

end

def notFunction (s : Site) : Text :=
  if !s.isSequence then s.text ++ (" is not a function" : Text)
  else if s.isCall then s.text ++ (" is not a function or its return value is not iterable" : Text)
  else s.text ++ (" is not iterable" : Text)

def notSequence (s : Site) : Text :=
  if s.isSequence then s.notFunction
  else s.text ++ (" is not iterable (cannot read property Symbol(Symbol.iterator))" : Text)

end Site

end LineTemplate.Script

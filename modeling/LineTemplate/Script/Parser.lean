import LineTemplate.Script.Lexer
import LineTemplate.Script.Tree

/-!
From tokens to trees, by recursive descent. The first token that fits no program any more ends the
parse, and its line is reported. A name declared twice, a constant without a value and a text without
an end are reported where they stand.
-/

set_option autoImplicit false

namespace LineTemplate.Script

/-- Why code is no program: the line on which this shows. -/
structure SyntaxFault where
  line : Nat
deriving DecidableEq, Repr

inductive NameKind where
  | lexical
  | function
  | parameter
deriving DecidableEq, Repr

/-- What is left to read, the token that was read last, the names of the scopes around it, and whether
a function is around it. -/
structure ParseState where
  tokens : List Token
  last : Token
  scopes : List (List (Text × NameKind))
  inFunction : Bool

abbrev Parse (α : Type) := StateT ParseState (Except SyntaxFault) α

namespace Parse

def failAt {α : Type} (spot : Spot) : Parse α := fun _ => .error ⟨spot.line⟩

/-- The next token; after the last one, the last one again. -/
def peek : Parse Token := do
  return (← get).tokens.headD .missing

def peekSecond : Parse Token := do
  return ((← get).tokens.drop 1).headD .missing

def last : Parse Token := do return (← get).last

def advance : Parse Unit :=
  modify fun s =>
    match s.tokens with
    | read :: next :: rest => { s with tokens := next :: rest, last := read }
    | _ => s

def unexpected {α : Type} : Parse α := do failAt (← peek).spot

def accept (symbol : String) : Parse Bool := do
  if (← peek).isMark symbol then
    advance
    return true
  else return false

def expect (symbol : String) : Parse Unit := do
  if !(← accept symbol) then unexpected

def acceptWord (word : String) : Parse Bool := do
  if (← peek).isWord word then
    advance
    return true
  else return false

def name : Parse (Text × Spot) := do
  let t ← peek
  match t.kind with
  | .word id =>
    if isName id then
      advance
      return (id, t.spot)
    else unexpected
  | _ => unexpected

/-- The end of a statement: a semicolon, or a place where one is understood. -/
def endStatement : Parse Unit := do
  if !(← accept ";") then
    let t ← peek
    if !(t.isMark "\x7d" || t.isFinish || t.afterBreak) then unexpected

def openScope (names : List (Text × NameKind)) : Parse Unit :=
  modify fun s => { s with scopes := names :: s.scopes }

def closeScope : Parse Unit := modify fun s => { s with scopes := s.scopes.drop 1 }

/-- Adds a name to the innermost scope. Only functions and parameters may share a name. -/
def declare (kind : NameKind) (id : Text) (spot : Spot) : Parse Unit := do
  let s ← get
  let names := s.scopes.headD []
  let clash := names.any fun n => n.1 == id && (kind == .lexical || n.2 == .lexical)
  if clash then failAt spot
  else set { s with scopes := ((id, kind) :: names) :: s.scopes.drop 1 }

end Parse

open Parse

/-- Whether the parenthesis closed by the first unmatched one of the tokens is followed by an arrow
on the same line. -/
def closesBeforeArrow : Nat → List Token → Bool
  | _, [] => false
  | depth, t :: rest =>
    if t.isMark "(" then closesBeforeArrow (depth + 1) rest
    else if t.isMark ")" then
      match depth with
      | 0 => rest.head?.any fun next => next.isMark "=>" && !next.afterBreak
      | d + 1 => closesBeforeArrow d rest
    else closesBeforeArrow depth rest

def binaryOperators : List (Text × BinaryOp × Nat) :=
  [("===", .same, 1), ("!==", .different, 1), ("<", .less, 2), ("<=", .lessOrEqual, 2),
    (">", .greater, 2), (">=", .greaterOrEqual, 2), ("+", .add, 3), ("-", .subtract, 3),
    ("*", .multiply, 4), ("/", .divide, 4), ("%", .remainder, 4), ("**", .power, 5)]

def binaryOperator? (t : Token) : Option (BinaryOp × Nat) :=
  match t.kind with
  | .mark symbol => binaryOperators.lookup symbol
  | _ => none

def updateOperators : List (Text × BinaryOp) :=
  [("+=", .add), ("-=", .subtract), ("*=", .multiply), ("/=", .divide), ("%=", .remainder),
    ("**=", .power)]

def updateOperator? (t : Token) : Option BinaryOp :=
  match t.kind with
  | .mark symbol => updateOperators.lookup symbol
  | _ => none

/-- What a call says when it is assigned to, by `=`, behind it and in front of it. -/
def assignedCall : Text := "Invalid left-hand side in assignment"

def steppedCall : Text := "Invalid left-hand side expression in postfix operation"

def steppedCallAfter : Text := "Invalid left-hand side expression in prefix operation"

def parameters : Nat → Parse (List (Text × Spot))
  | 0 => unexpected
  | fuel + 1 => do
    if ← accept ")" then return []
    let param ← Parse.name
    if ← accept "," then return param :: (← parameters fuel)
    expect ")"
    return [param]

def repeatedName? : List Text → List (Text × Spot) → Option Spot
  | _, [] => none
  | seen, (id, spot) :: rest => if seen.contains id then some spot else repeatedName? (id :: seen) rest

def patternItems : Nat → Parse (List (Option (Text × Spot)))
  | 0 => unexpected
  | fuel + 1 => do
    if ← accept "]" then return []
    if ← accept "," then return none :: (← patternItems fuel)
    let item ← Parse.name
    if ← accept "," then return some item :: (← patternItems fuel)
    expect "]"
    return [some item]

/-- Declares a name that has no value before its declaration runs. -/
def declareLexical (id : Text) (spot : Spot) : Parse Unit := do
  if id = "let" then failAt spot
  declare .lexical id spot

def declaredPattern (fuel : Nat) : Parse (Pattern × Spot) := do
  let t ← peek
  if ← accept "[" then
    let items ← patternItems fuel
    for item in items do
      match item with
      | some (id, spot) => declareLexical id spot
      | none => pure ()
    return (.items items, t.spot)
  else
    let (id, spot) ← Parse.name
    declareLexical id spot
    return (.name id spot, spot)

def declarationKind? : Parse (Option Bool) := do
  let t ← peek
  if t.isWord "const" then return some false
  if t.isWord "let" then
    let next ← peekSecond
    match next.kind with
    | .word id => return if isName id then some true else none
    | _ => return if next.isMark "[" || next.isMark "\x7b" then some true else none
  return none

/-- Whether a statement that may not be a declaration starts like one all the same. -/
def declaresOutOfPlace : Parse Bool := do
  let t ← peek
  if t.isWord "const" then return true
  if t.isWord "let" then
    let next ← peekSecond
    match next.kind with
    | .word id => return isName id && id ≠ "let" && !next.afterBreak
    | _ => return next.isMark "[" || (next.isMark "\x7b" && !next.afterBreak)
  return false

/-- Skips the labels in front of a statement, which mean nothing here. At most this many are skipped.
The result says whether there was one. -/
def skipLabels : Nat → Parse Bool
  | 0 => return false
  | fuel + 1 => do
    match (← peek).kind with
    | .word id =>
      if isName id && (← peekSecond).isMark ":" then
        advance
        advance
        discard (skipLabels fuel)
        return true
      else return false
    | _ => return false

def Pattern.naming (pattern : Pattern) (value : Expr) : Expr :=
  match pattern with
  | .name id _ => value.named id
  | .items _ => value

def Target.naming (target : Target) (value : Expr) : Expr :=
  match target with
  | .name id _ => value.named id
  | _ => value

mutual

def expression : Nat → Parse Expr
  | 0 => unexpected
  | fuel + 1 => do
    let first ← assignment fuel
    if ← accept "," then return .comma (first :: (← expressions fuel))
    return first

def expressions : Nat → Parse (List Expr)
  | 0 => unexpected
  | fuel + 1 => do
    let first ← assignment fuel
    if ← accept "," then return first :: (← expressions fuel)
    return [first]

def assignment : Nat → Parse Expr
  | 0 => unexpected
  | fuel + 1 => do
    let t ← peek
    let next ← peekSecond
    let rest := (← get).tokens.drop 1
    match t.kind with
    | .word id =>
      if isName id && next.isMark "=>" && !next.afterBreak then
        advance
        advance
        return ← arrowBody fuel t [id]
    | _ => pure ()
    if t.isMark "(" && closesBeforeArrow 0 rest then
      advance
      let params ← parameters (rest.length + 1)
      expect "=>"
      match repeatedName? [] params with
      | some spot => failAt spot
      | none => return ← arrowBody fuel t (params.map (·.1))
    let left ← conditional fuel
    let op ← peek
    if op.isMark "=" then
      match left.target? assignedCall with
      | none => failAt t.spot
      | some target =>
        advance
        return .assign target (target.naming (← assignment fuel)) op.spot
    match updateOperator? op with
    | none => return left
    | some binary =>
      match left.target? assignedCall with
      | none => failAt t.spot
      | some target =>
        advance
        return .update target binary (← assignment fuel) op.spot op.spot op.spot

def arrowBody : Nat → Token → List Text → Parse Expr
  | 0, _, _ => unexpected
  | fuel + 1, start, params => do
    let body ←
      if (← peek).isMark "\x7b" then functionBody fuel params
      else
        let value ← assignment fuel
        pure [.return value value.spot]
    let after := (← last).after
    return .function ⟨[], false, true, params, start.spot, start.spot, start.here, after⟩ body

def functionBody : Nat → List Text → Parse (List Stmt)
  | 0, _ => unexpected
  | fuel + 1, params => do
    expect "\x7b"
    let outer := (← get).inFunction
    modify fun s => { s with inFunction := true }
    openScope (params.map fun id => (id, .parameter))
    let body ← statements fuel
    closeScope
    expect "\x7d"
    modify fun s => { s with inFunction := outer }
    return body

def functionRest : Nat → Token → Text → Bool → Parse (FunctionHead × List Stmt)
  | 0, _, _, _ => unexpected
  | fuel + 1, start, id, namesItself => do
    let entry ← peek
    expect "("
    let params ← parameters ((← get).tokens.length + 1)
    let names := params.map (·.1)
    let body ← functionBody fuel names
    let after := (← last).after
    return (⟨id, namesItself, false, names, start.spot, entry.spot, start.here, after⟩, body)

def conditional : Nat → Parse Expr
  | 0 => unexpected
  | fuel + 1 => do
    let start ← peek
    let condition ← logical fuel
    if ← accept "?" then
      let yes ← assignment fuel
      expect ":"
      return .choose condition yes (← assignment fuel) start.spot
    return condition

/-- Values joined by `&&` and `||`, or by `??`; the two sorts do not mix without parentheses. -/
def logical : Nat → Parse Expr
  | 0 => unexpected
  | fuel + 1 => do
    let left ← operation fuel 0
    if (← peek).isMark "??" then fallbacks fuel left
    else alternatives fuel (← conjunction fuel left)

def fallbacks : Nat → Expr → Parse Expr
  | 0, _ => unexpected
  | fuel + 1, left => do
    if ← accept "??" then
      let start ← peek
      fallbacks fuel (.logical .fallback left (← operation fuel 0) start.spot)
    else return left

def conjunction : Nat → Expr → Parse Expr
  | 0, _ => unexpected
  | fuel + 1, left => do
    let op ← peek
    if ← accept "&&" then
      conjunction fuel (.logical .both left (← operation fuel 0) op.spot)
    else return left

def alternatives : Nat → Expr → Parse Expr
  | 0, _ => unexpected
  | fuel + 1, left => do
    let op ← peek
    if ← accept "||" then
      let right ← operation fuel 0
      alternatives fuel (.logical .either left (← conjunction fuel right) op.spot)
    else return left

/-- Operands joined by operators of at least the given strength. -/
def operation : Nat → Nat → Parse Expr
  | 0, _ => unexpected
  | fuel + 1, strength => do
    let left ← operand fuel
    operationFrom fuel strength left

def operationFrom : Nat → Nat → Expr → Parse Expr
  | 0, _, _ => unexpected
  | fuel + 1, strength, left => do
    let t ← peek
    match binaryOperator? t with
    | none => return left
    | some (op, own) =>
      if own < strength then return left
      advance
      let right ← operation fuel (if op = .power then own else own + 1)
      operationFrom fuel strength (.ofBinary op left right t.spot)

/-- An operand with the operators in front of it. One of those does not go with a power after it. -/
def operand : Nat → Parse Expr
  | 0 => unexpected
  | fuel + 1 => do
    let t ← peek
    let signed (op : UnaryOp) : Parse Expr := do
      advance
      let inner ← operand fuel
      if (← peek).isMark "**" then failAt t.spot
      return .ofUnary op inner t.spot
    let stepped (op : BinaryOp) : Parse Expr := do
      advance
      let start ← peek
      let inner ← operand fuel
      match inner.target? steppedCallAfter with
      | none => failAt start.spot
      | some target =>
        let own := (← last).spot
        return .step target op false own own own
    if t.isMark "!" then signed .not
    else if t.isMark "-" then signed .negate
    else if t.isMark "+" then signed .plus
    else if t.isWord "typeof" then signed .typeName
    else if t.isMark "++" then stepped .add
    else if t.isMark "--" then stepped .subtract
    else
      let value ← called fuel
      let op ← peek
      if (op.isMark "++" || op.isMark "--") && !op.afterBreak then
        match value.target? steppedCall with
        | none => failAt t.spot
        | some target =>
          advance
          return .step target (if op.isMark "++" then .add else .subtract) true op.spot op.spot op.spot
      else return value

def called : Nat → Parse Expr
  | 0 => unexpected
  | fuel + 1 => do
    let start ← primary fuel
    let base ← membersFrom fuel start
    if (← peek).isMark "(" then callsFrom fuel base else return base

/-- The members after an expression that holds no call; each stands at its name. -/
def membersFrom : Nat → Expr → Parse Expr
  | 0, _ => unexpected
  | fuel + 1, base => do
    let t ← peek
    if t.isMark "." then
      advance
      let key ← peek
      match key.kind with
      | .word id =>
        advance
        membersFrom fuel (.member base id key.spot)
      | _ => unexpected
    else if t.isMark "[" then
      advance
      let key ← expression fuel
      expect "]"
      membersFrom fuel (.index base key t.spot)
    else return base

/-- The calls after an expression, and the members after those; such a member stands at its dot. A
call of something that ends in a name stands at the name, any other at its parenthesis. -/
def callsFrom : Nat → Expr → Parse Expr
  | 0, _ => unexpected
  | fuel + 1, base => do
    let t ← peek
    if t.isMark "(" then
      let before ← last
      advance
      let args ← arguments fuel
      let spot :=
        match before.kind with
        | .word id => if isName id then before.spot else t.spot
        | _ => t.spot
      callsFrom fuel (.call base args spot)
    else if t.isMark "." then
      advance
      match (← peek).kind with
      | .word id =>
        advance
        callsFrom fuel (.member base id t.spot)
      | _ => unexpected
    else if t.isMark "[" then
      advance
      let key ← expression fuel
      expect "]"
      callsFrom fuel (.index base key t.spot)
    else return base

def arguments : Nat → Parse (List Expr)
  | 0 => unexpected
  | fuel + 1 => do
    if ← accept ")" then return []
    let first ← assignment fuel
    if ← accept "," then return first :: (← arguments fuel)
    expect ")"
    return [first]

def elements : Nat → Parse (List Expr)
  | 0 => unexpected
  | fuel + 1 => do
    let t ← peek
    if ← accept "]" then return []
    if ← accept "," then return .hole t.spot :: (← elements fuel)
    let first ← assignment fuel
    if ← accept "," then return first :: (← elements fuel)
    expect "]"
    return [first]

def objectMembers : Nat → Parse (List (Text × Expr))
  | 0 => unexpected
  | fuel + 1 => do
    if ← accept "\x7d" then return []
    let t ← peek
    let key : Text ←
      match t.kind with
      | .word id => pure id
      | .text id => pure id
      | .number x => pure (Number.text x)
      | _ => unexpected
    advance
    let value ←
      if ← accept ":" then (·.named key) <$> assignment fuel
      else
        match t.kind with
        | .word id => if isName id then pure (.name id t.spot t.spot) else unexpected
        | _ => unexpected
    if ← accept "," then return (key, value) :: (← objectMembers fuel)
    expect "\x7d"
    return [(key, value)]

def splices : Nat → Parse (List (Expr × Text))
  | 0 => unexpected
  | fuel + 1 => do
    let value ← expression fuel
    match (← peek).kind with
    | .templateNext next more =>
      advance
      let rest ← if more then splices fuel else pure []
      return (value, next) :: rest
    | _ => unexpected

def primary : Nat → Parse Expr
  | 0 => unexpected
  | fuel + 1 => do
    let t ← peek
    match t.kind with
    | .number x =>
      advance
      return .literal (.number x) t.spot
    | .text value =>
      advance
      return .literal (.text value) t.spot
    | .templateStart lead more =>
      advance
      if more then
        let parts ← splices fuel
        return .spliced (lead :: parts.map (·.2)) (parts.map (·.1)) (parts.map (·.1.spot)) t.spot
      else return .literal (.text lead) t.spot
    | .word id =>
      if isName id then
        advance
        return .name id t.spot t.spot
      else if id = "null" then
        advance
        return .literal .null t.spot
      else if id = "true" then
        advance
        return .literal (.bool true) t.spot
      else if id = "false" then
        advance
        return .literal (.bool false) t.spot
      else if id = "function" then
        advance
        let named ← peek
        let (id, namesItself) : Text × Bool ←
          match named.kind with
          | .word _ => pure ((← Parse.name).1, true)
          | _ => pure ([], false)
        let (head, body) ← functionRest fuel t id namesItself
        return .function head body
      else if id = "new" then
        advance
        let callee ← membersFrom fuel (← primary fuel)
        let args ← if ← accept "(" then arguments fuel else pure []
        return .create callee args t.spot
      else unexpected
    | .mark _ =>
      if ← accept "(" then
        let closing ← peek
        if closing.isMark ")" then
          let next ← peekSecond
          failAt (if next.isMark "=>" then next.spot else closing.spot)
        let inner ← expression fuel
        expect ")"
        return inner
      else if ← accept "[" then return .array (← elements fuel) t.spot
      else if ← accept "\x7b" then
        let members ← objectMembers fuel
        return .object (members.map (·.1)) (members.map (·.2)) t.spot
      else unexpected
    | _ => unexpected

def firstValue : Nat → Bool → Pattern → Spot → Parse Stmt
  | 0, _, _, _ => unexpected
  | fuel + 1, mutable, pattern, spot => do
    if ← accept "=" then
      let start ← peek
      return .declare mutable pattern (pattern.naming (← assignment fuel)) start.spot
    else
      match mutable, pattern with
      | true, .name _ _ => return .declare mutable pattern (.literal .undefined spot) spot
      | _, _ => failAt spot

def declarations : Nat → Bool → Parse (List Stmt)
  | 0, _ => unexpected
  | fuel + 1, mutable => do
    let (pattern, spot) ← declaredPattern fuel
    let first ← firstValue fuel mutable pattern spot
    if ← accept "," then return first :: (← declarations fuel mutable)
    return [first]

def statements : Nat → Parse (List Stmt)
  | 0 => unexpected
  | fuel + 1 => do
    let t ← peek
    if t.isMark "\x7d" || t.isFinish then return []
    let first ← listedStatement fuel
    return first ++ (← statements fuel)

/-- A statement in a list, which may be a declaration. A declaration of several names gives several
trees, an empty statement none. -/
def listedStatement : Nat → Parse (List Stmt)
  | 0 => unexpected
  | fuel + 1 => do
    match ← declarationKind? with
    | some mutable =>
      advance
      let found ← declarations fuel mutable
      endStatement
      return found
    | none =>
      let labelled ← skipLabels fuel
      if (← peek).isWord "function" then return [← functionStatement fuel]
      else if labelled then governed fuel
      else statement fuel

def functionStatement : Nat → Parse Stmt
  | 0 => unexpected
  | fuel + 1 => do
    let start ← peek
    advance
    let (id, spot) ← Parse.name
    let (head, body) ← functionRest fuel start id false
    declare .function id spot
    return .function id head body false

def braced : Nat → Parse (List Stmt)
  | 0 => unexpected
  | fuel + 1 => do
    expect "\x7b"
    openScope []
    let body ← statements fuel
    closeScope
    expect "\x7d"
    return body

def governed : Nat → Parse (List Stmt)
  | 0 => unexpected
  | fuel + 1 => do
    discard (skipLabels fuel)
    if ← declaresOutOfPlace then unexpected
    statement fuel

def branch : Nat → Parse (List Stmt)
  | 0 => unexpected
  | fuel + 1 => do
    if (← peek).isWord "function" then
      openScope []
      let declared ← functionStatement fuel
      closeScope
      return [declared]
    else governed fuel

def statement : Nat → Parse (List Stmt)
  | 0 => unexpected
  | fuel + 1 => do
    let t ← peek
    if t.isMark "\x7b" then return [.block (← braced fuel)]
    else if t.isWord "function" then unexpected
    else if ← accept ";" then return []
    else if ← acceptWord "if" then
      expect "("
      let condition ← expression fuel
      expect ")"
      let yes ← branch fuel
      let no ← if ← acceptWord "else" then branch fuel else pure []
      return [.choose condition yes no t.spot]
    else if ← acceptWord "while" then
      expect "("
      let test ← expression fuel
      expect ")"
      return [.repeatWhile test (← governed fuel)]
    else if ← acceptWord "for" then
      expect "("
      openScope []
      let loop ← forRest fuel
      closeScope
      return [loop]
    else if t.isWord "return" then
      if !(← get).inFunction then unexpected
      advance
      let next ← peek
      if next.isMark ";" || next.isMark "\x7d" || next.isFinish || next.afterBreak then
        endStatement
        return [.return (.literal .undefined t.spot) t.spot]
      let value ← expression fuel
      endStatement
      return [.return value t.spot]
    else if ← acceptWord "throw" then
      if (← peek).afterBreak then failAt t.spot
      let value ← expression fuel
      endStatement
      return [.throw value t.spot]
    else
      let value ← expression fuel
      endStatement
      return [.expr value t.spot]

def forRest : Nat → Parse Stmt
  | 0 => unexpected
  | fuel + 1 => do
    match ← declarationKind? with
    | some mutable =>
      advance
      let (pattern, spot) ← declaredPattern fuel
      let finish ← last
      if ← acceptWord "of" then
        let source ← assignment fuel
        expect ")"
        return .forOf mutable pattern source (← governed fuel) source.spot finish.spot
      let first ← firstValue fuel mutable pattern spot
      let others ← if ← accept "," then declarations fuel mutable else pure []
      forTail fuel (first :: others)
    | none =>
      let start ← peek
      if start.isMark ";" then forTail fuel []
      else forTail fuel [.expr (← expression fuel) start.spot]

def forTail : Nat → List Stmt → Parse Stmt
  | 0, _ => unexpected
  | fuel + 1, start => do
    expect ";"
    let t ← peek
    let test ← if t.isMark ";" then pure (.literal (.bool true) t.spot) else expression fuel
    expect ";"
    let t ← peek
    let step ← if t.isMark ")" then pure (.literal .undefined t.spot) else expression fuel
    expect ")"
    return .forLoop start test step (← governed fuel)

end

/-- The program that some code spells. The bound exceeds the nesting of any parse of that many
tokens. -/
def parse (code : Text) : Except SyntaxFault (List Stmt) :=
  let tokens := lex code
  let whole : Parse (List Stmt) := do
    let body ← statements (20 * tokens.length + 40)
    if !(← peek).isFinish then unexpected
    return body
  (whole.run ⟨tokens, .missing, [[]], false⟩).map (·.1)

end LineTemplate.Script

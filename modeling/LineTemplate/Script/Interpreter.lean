import LineTemplate.Script.Iteration
import LineTemplate.Script.Method
import LineTemplate.Script.Scope
import LineTemplate.Script.Site

/-!
The evaluation of trees. It follows their structure; calls and generators go through the engine, so
no bound on the size of a program is needed here.
-/

set_option autoImplicit false

namespace LineTemplate.Script

/-- Where evaluation stands: the scopes around it, innermost first, the program it belongs to, the
functions active outside it, and the statements of the present function. -/
structure Place where
  env : List Nat
  home : Home
  callers : List Frame
  code : List Stmt
  /-- The scope of the function around it; the code outside all functions has none. -/
  functionScope : Option Nat

namespace Place

def trace (p : Place) (spot : Spot) : List Frame := ⟨p.home.serial, spot.line⟩ :: p.callers

def site? (p : Place) (spot : Spot) : Option Site := Site.inStatements? spot.token p.code

def within (p : Place) (scope : Nat) : Place := { p with env := scope :: p.env }

end Place

/-- How a statement ends: with the value of its last expression, or by returning. -/
inductive Completion where
  | normal (value : Option Value)
  | returned (value : Value)

/-- What an assignment goes to, with its parts evaluated. -/
inductive Slot where
  | name (id : Text)
  | member (base : Value) (key : Text)
  | index (base key : Value)

namespace Run

/-- Global names whose values cannot be changed. -/
def constantNames : List Text := List.map Text.ofString ["undefined", "NaN", "Infinity"]

/-- The value of a name that neither a scope nor the caller gives a value. -/
def predefined? (id : Text) : Option Value :=
  if id = "NaN" then some (.number Number.notANumber)
  else if id = "Infinity" then some (.number Number.infinity)
  else (errorClasses.findIdx? fun name => name = id).map fun i => .ref (firstErrorClass + i)

/-- Other names that the engine gives a value where the caller gives none: its own, and those that every
object inherits. What they stand for is not told here. -/
def standardNames : List Text := List.map Text.ofString
  ["Object", "Function", "Array", "Number", "parseFloat", "parseInt", "Boolean", "String", "Symbol", "Date",
    "Promise", "RegExp", "AggregateError", "globalThis", "JSON", "Math", "Intl", "ArrayBuffer", "Atomics",
    "Uint8Array", "Int8Array", "Uint16Array", "Int16Array", "Uint32Array", "Int32Array", "Float32Array",
    "Float64Array", "Uint8ClampedArray", "BigUint64Array", "BigInt64Array", "DataView", "Map", "BigInt", "Set",
    "WeakMap", "WeakSet", "Proxy", "Reflect", "FinalizationRegistry", "WeakRef", "decodeURI",
    "decodeURIComponent", "encodeURI", "encodeURIComponent", "escape", "unescape", "eval", "isFinite", "isNaN",
    "console", "Iterator", "SharedArrayBuffer", "WebAssembly", "constructor", "__defineGetter__",
    "__defineSetter__", "hasOwnProperty", "__lookupGetter__", "__lookupSetter__", "isPrototypeOf",
    "propertyIsEnumerable", "toString", "valueOf", "__proto__", "toLocaleString"]

/-- The names that have a value in every scope. -/
def globalNames : List Text := constantNames ++ errorClasses ++ standardNames

def globalName? (p : Place) (id : Text) : Run (Option Value) := do
  if id = "undefined" then return some .undefined
  match (← object? p.home.globals).bind fun o => o.members.get? id with
  | some v => return some v
  | none =>
    match predefined? id with
    | some v => return some v
    | none => if standardNames.contains id then throw .unfollowed else return none

def raiseUnreached {α : Type} (p : Place) (id : Text) (spot : Spot) : Run α :=
  raiseReference (p.trace spot)
    (("Cannot access '" : Text) ++ id ++ ("' before initialization" : Text))

def lookup? (p : Place) (id : Text) (spot : Spot) : Run (Option Value) := do
  match findBinding? (← get) id p.env with
  | some (_, binding) =>
    match binding.value with
    | some v => return some v
    | none => raiseUnreached p id spot
  | none => globalName? p id

def readName (p : Place) (id : Text) (spot : Spot) : Run Value := do
  match ← lookup? p id spot with
  | some v => return v
  | none => raiseReference (p.trace spot) (id ++ (" is not defined" : Text))

/-- Assigns to a name; one that no scope holds becomes a global name. -/
def assignName (p : Place) (id : Text) (v : Value) (spot : Spot) : Run Unit := do
  match findBinding? (← get) id p.env with
  | some (scope, binding) =>
    match binding.value, binding.mutability with
    | none, _ => raiseUnreached p id spot
    | some _, .constant => raiseType (p.trace spot) "Assignment to constant variable."
    | some _, .fixed => return ()
    | some _, .variable => setBinding scope id { binding with value := some v }
  | none => if constantNames.contains id then return () else setMember p.home.globals id v

def bindName (p : Place) (id : Text) (mutable : Bool) (v : Value) : Run Unit :=
  match p.env with
  | scope :: _ => setBinding scope id ⟨some v, .ofFlag mutable⟩
  | [] => setMember p.home.globals id v

def raiseNotSequence {α : Type} (p : Place) (spot : Spot) (v : Value) : Run α := do
  let site := (p.site? spot).getD ⟨← defaultSite v, false, false⟩
  raiseType (p.trace spot) site.notSequence

/-- Binds names to the items of a sequence, in order; names without an item are undefined. An item
that cannot be read is reported at its name. -/
def bindItems (engine : Engine) (p : Place) (mutable : Bool) :
    Spot → List (Option (Text × Spot)) → Cursor → Run Unit
  | _, [], cursor => close cursor
  | spot, target :: rest, cursor => do
    let spot := (target.map (·.2)).getD spot
    let found ← next engine (p.trace spot) cursor
    match target with
    | some (id, _) => bindName p id mutable ((found.map (·.1)).getD .undefined)
    | none => pure ()
    bindItems engine p mutable spot rest ((found.map (·.2)).getD .finished)

def bindPattern (engine : Engine) (p : Place) (spot : Spot) (mutable : Bool) (pattern : Pattern)
    (v : Value) : Run Unit := do
  match pattern with
  | .name id _ => bindName p id mutable v
  | .items ids =>
    match ← open? v with
    | some cursor => bindItems engine p mutable spot ids cursor
    | none => raiseNotSequence p spot v

def closureOf (p : Place) (head : FunctionHead) (body : List Stmt) : Run Value :=
  allocateKind (.function (.closure ⟨head, body, p.env, p.home⟩))

def bindFunctions (p : Place) : List (Text × FunctionHead × List Stmt) → Run Unit
  | [] => return ()
  | (id, head, body) :: rest => do
    bindName p id true (← closureOf p head body)
    bindFunctions p rest

def unreachedNames (body : List Stmt) : Members Binding :=
  (lexicalNames body).map fun (id, mutable) => (id, ⟨none, .ofFlag mutable⟩)

/-- The place inside a block: its names have no value yet, its functions do. A block that declares
nothing has no scope of its own. -/
def enterBlock (p : Place) (body : List Stmt) : Run Place := do
  let names := unreachedNames body
  let functions := declaredFunctions body
  if names.isEmpty && functions.isEmpty then return p
  let inner := p.within (← newScope names)
  bindFunctions inner functions
  return inner

/-- The place where the names of a loop have no value yet. -/
def enterLoop (p : Place) (pattern : Pattern) : Run Place := do
  return p.within (← newScope (pattern.names.map fun id => (id, ⟨none, .constant⟩)))

/-- The scopes that a function sees. One that can call itself by its name has that name around it. -/
def outerScopes (c : Closure) (self : Value) : Run (List Nat) := do
  if c.head.namesItself then
    return (← newScope [(c.head.name, ⟨some self, .fixed⟩)]) :: c.env
  else return c.env

/-- The place inside a function that is called with some arguments. The functions that inner blocks
expose are there from the start, undefined. -/
def enterFunction (c : Closure) (self : Value) (frames : List Frame) (args : List Value) :
    Run Place := do
  let params : Members Binding := Members.setAll [] ((List.range c.head.params.length).zipWith
    (fun i id => (id, ⟨some (args[i]?.getD .undefined), .variable⟩)) c.head.params)
  let exposed : Members Binding :=
    (exposedFunctions c.head.params c.body).map fun id => (id, ⟨some .undefined, .variable⟩)
  let names := Members.setAll exposed (Members.setAll (unreachedNames c.body) params)
  let outer ← outerScopes c self
  let scope ← newScope names
  let p : Place := ⟨scope :: outer, c.home, frames, c.body, some scope⟩
  bindFunctions p (declaredFunctions c.body)
  return p

/-- A function declared in an inner block becomes known to the whole function when its declaration is
reached. -/
def exposeFunction (p : Place) (id : Text) : Run Unit := do
  match findBinding? (← get) id p.env with
  | some (_, ⟨some f, _⟩) =>
    match p.functionScope with
    | some outer => setBinding outer id ⟨some f, .variable⟩
    | none => setMember p.home.globals id f
  | _ => return ()

def raiseMissing {α : Type} (frames : List Frame) (action doing : String) (base : Value)
    (key : Option Text) : Run α :=
  let detail : Text :=
    match key with
    | some name => (" (" : Text) ++ (doing : Text) ++ (" '" : Text) ++ name ++ ("')" : Text)
    | none => []
  raiseType frames
    (("Cannot " : Text) ++ (action : Text) ++ (" properties of " : Text) ++ plainText base ++ detail)

def readMember (frames : List Frame) (base : Value) (key : Text) : Run Value :=
  if base.isMissing then raiseMissing frames "read" "reading" base (some key) else member base key

/-- A member whose key is computed. A missing value is reported before its key is looked at. -/
def readIndex (engine : Engine) (frames : List Frame) (base key : Value) : Run Value := do
  if base.isMissing then raiseMissing frames "read" "reading" base (← keyName? key)
  memberBy base (← toKey engine frames key)

def readSlot (engine : Engine) (p : Place) (spot : Spot) : Slot → Run Value
  | .name id => readName p id spot
  | .member base key => readMember (p.trace spot) base key
  | .index base key => readIndex engine (p.trace spot) base key

def writeSlot (engine : Engine) (p : Place) (spot : Spot) (v : Value) : Slot → Run Unit
  | .name id => assignName p id v spot
  | .member base key => do
    if base.isMissing then raiseMissing (p.trace spot) "set" "setting" base (some key)
    assignMember engine (p.trace spot) base (.text key) v
  | .index base key => do
    if base.isMissing then raiseMissing (p.trace spot) "set" "setting" base (← keyName? key)
    assignMember engine (p.trace spot) base (← toKey engine (p.trace spot) key) v

def callValue (engine : Engine) (p : Place) (spot : Spot) (f this : Value) (args : List Value) :
    Run Value := do
  if ← isFunction f then engine.call (p.trace spot) f this args
  else
    let site := (p.site? spot).getD ⟨← defaultSite f, true, false⟩
    raiseType (p.trace spot) site.notFunction

/-- Makes an object with a value: an error with a class of errors, else what a function returns if
that is an object. -/
def construct (engine : Engine) (p : Place) (spot : Spot) (f : Value) (args : List Value) :
    Run Value := do
  let frames := p.trace spot
  let refuse : Run Value := do
    let text ←
      match p.site? spot with
      | some site => pure site.text
      | none => defaultSite f
    raiseType frames (text ++ (" is not a constructor" : Text))
  match ← kind? f with
  | some (.function (.native (.errorClass _))) => engine.call frames f .undefined args
  | some (.function (.closure c)) =>
    if c.head.isArrow then refuse
    else
      let result ← engine.call frames f .undefined args
      if result.isObject then return result else allocateKind .plain
  | _ => refuse

def takeTurns {σ : Type} (turn : σ → Run (Except Completion σ)) : Nat → σ → Run Completion
  | 0, _ => throw .unfollowed
  | limit + 1, s => do
    match ← turn s with
    | .ok next => takeTurns turn limit next
    | .error completion => return completion

/-- A fresh scope with the present entries of another one. -/
def copyScope (scope : Nat) : Run Nat := do newScope ((← get).scopes[scope]?.getD [])

def literalValue : Literal → Value
  | .undefined => .undefined
  | .null => .null
  | .bool b => .bool b
  | .number x => .number x
  | .text t => .text t

mutual

def evaluate (engine : Engine) (p : Place) : Expr → Run Value
  | .literal l _ => return literalValue l
  | .hole _ => return .undefined
  | .spliced texts values shown _ => do
    return .text (texts.headD [] ++ (← evaluateSplices engine p (texts.drop 1) shown values))
  | .name id _ shown => readName p id shown
  | .array items _ => do
    allocateKind (.array (.ofOptions (← evaluateItems engine p items)))
  | .object keys values _ => do
    allocate { Obj.ofKind .plain with
      members := Members.setAll [] (keys.zip (← evaluateAll engine p values)) }
  | .comma items => do return (← evaluateAll engine p items).getLastD .undefined
  | .function head body => closureOf p head body
  | .member base key spot => do readMember (p.trace spot) (← evaluate engine p base) key
  | .index base key spot => do
    let b ← evaluate engine p base
    readIndex engine (p.trace spot) b (← evaluate engine p key)
  | .call (.member base key memberSpot) args spot => do
    let b ← evaluate engine p base
    let f ← readMember (p.trace memberSpot) b key
    callValue engine p spot f b (← evaluateAll engine p args)
  | .call (.index base key indexSpot) args spot => do
    let b ← evaluate engine p base
    let f ← readIndex engine (p.trace indexSpot) b (← evaluate engine p key)
    callValue engine p spot f b (← evaluateAll engine p args)
  | .call callee args spot => do
    let f ← evaluate engine p callee
    callValue engine p spot f .undefined (← evaluateAll engine p args)
  | .create callee args spot => do
    let f ← evaluate engine p callee
    construct engine p spot f (← evaluateAll engine p args)
  | .unary .not operand _ => do return .bool (!truthy (← evaluate engine p operand))
  | .unary .negate operand spot => do
    return negative (← numeric engine (p.trace spot) (← evaluate engine p operand))
  | .unary .plus operand spot => do
    return .number (← toNumber engine (p.trace spot) (← evaluate engine p operand))
  | .unary .typeName (.name id _ shown) _ => do
    match ← lookup? p id shown with
    | some v => return .text (← Run.typeName v)
    | none => return .text "undefined"
  | .unary .typeName operand _ => do return .text (← Run.typeName (← evaluate engine p operand))
  | .binary op left right spot => do
    let l ← evaluate engine p left
    binary engine (p.trace spot) op l (← evaluate engine p right)
  | .logical .both left right _ => do
    let l ← evaluate engine p left
    if truthy l then evaluate engine p right else return l
  | .logical .either left right _ => do
    let l ← evaluate engine p left
    if truthy l then return l else evaluate engine p right
  | .logical .fallback left right _ => do
    let l ← evaluate engine p left
    if l.isMissing then evaluate engine p right else return l
  | .choose condition yes no _ => do
    if truthy (← evaluate engine p condition) then evaluate engine p yes else evaluate engine p no
  | .assign target value spot => do
    let slot ← resolve engine p target
    let v ← evaluate engine p value
    writeSlot engine p spot v slot
    return v
  | .update target op value read combined spot => do
    let slot ← resolve engine p target
    let old ← readSlot engine p read slot
    let result ← binary engine (p.trace combined) op old (← evaluate engine p value)
    writeSlot engine p spot result slot
    return result
  | .step target op old read combined spot => do
    let slot ← resolve engine p target
    let before ← numeric engine (p.trace combined) (← readSlot engine p read slot)
    let after ← binary engine (p.trace combined) op before (unitLike before)
    writeSlot engine p spot after slot
    return if old then before else after

def evaluateAll (engine : Engine) (p : Place) : List Expr → Run (List Value)
  | [] => return []
  | e :: rest => do
    let v ← evaluate engine p e
    return v :: (← evaluateAll engine p rest)

def evaluateItems (engine : Engine) (p : Place) : List Expr → Run (List (Option Value))
  | [] => return []
  | .hole _ :: rest => return none :: (← evaluateItems engine p rest)
  | e :: rest => do
    let v ← evaluate engine p e
    return some v :: (← evaluateItems engine p rest)

def evaluateSplices (engine : Engine) (p : Place) :
    List Text → List Spot → List Expr → Run Text
  | _, _, [] => return []
  | texts, shown, e :: rest => do
    let v ← evaluate engine p e
    let content ← toText engine (p.trace (shown.headD e.spot)) v
    let others ← evaluateSplices engine p (texts.drop 1) (shown.drop 1) rest
    return content ++ texts.headD [] ++ others

def resolve (engine : Engine) (p : Place) : Target → Run Slot
  | .name id _ => return .name id
  | .member base key _ => do return .member (← evaluate engine p base) key
  | .index base key _ => do
    let b ← evaluate engine p base
    return .index b (← evaluate engine p key)
  | .call value message shown => do
    discard (evaluate engine p value)
    raiseReference (p.trace shown) message

def perform (engine : Engine) (p : Place) : Stmt → Run Completion
  | .expr value _ => do return .normal (some (← evaluate engine p value))
  | .declare mutable pattern value spot => do
    let v ← evaluate engine p value
    bindPattern engine p spot mutable pattern v
    return .normal none
  | .function id _ _ exposed => do
    if exposed then exposeFunction p id
    return .normal none
  | .choose condition yes no _ => do
    if truthy (← evaluate engine p condition) then
      performAll engine (← enterBlock p yes) (some .undefined) yes
    else performAll engine (← enterBlock p no) (some .undefined) no
  | .forOf mutable pattern source body opened last => do
    let v ← evaluate engine (← enterLoop p pattern) source
    match ← open? v with
    | none => raiseNotSequence p opened v
    | some cursor =>
      let turn (item : Value) : Run (Option Value) := do
        let inner ← enterLoop p pattern
        bindPattern engine inner last mutable pattern item
        match ← performAll engine (← enterBlock inner body) none body with
        | .returned result => return some result
        | .normal _ => return none
      match ← forEach engine (p.trace last) turn (← loopLimit v) cursor with
      | some result => return .returned result
      | none => return .normal none
  | .forLoop start test step body => do
    let first ← newScope (unreachedNames start)
    discard (performAll engine (p.within first) none start)
    let turn (scope : Nat) : Run (Except Completion Nat) := do
      let here := p.within scope
      if truthy (← evaluate engine here test) then
        match ← performAll engine (← enterBlock here body) none body with
        | .returned result => return .error (.returned result)
        | .normal _ =>
          let fresh ← copyScope scope
          discard (evaluate engine (p.within fresh) step)
          return .ok fresh
      else return .error (.normal none)
    takeTurns turn loopAllowance (← copyScope first)
  | .repeatWhile test body => do
    let turn (_ : Unit) : Run (Except Completion Unit) := do
      if truthy (← evaluate engine p test) then
        match ← performAll engine (← enterBlock p body) none body with
        | .returned result => return .error (.returned result)
        | .normal _ => return .ok ()
      else return .error (.normal none)
    takeTurns turn loopAllowance ()
  | .block body => do performAll engine (← enterBlock p body) none body
  | .return value _ => do return .returned (← evaluate engine p value)
  | .throw value _ => do throwValue (← evaluate engine p value)

/-- Runs statements in order; `last` is the value of the expression before them. -/
def performAll (engine : Engine) (p : Place) (last : Option Value) : List Stmt → Run Completion
  | [] => return .normal last
  | s :: rest => do
    match ← perform engine p s with
    | .returned v => return .returned v
    | .normal none => performAll engine p last rest
    | .normal (some v) => performAll engine p (some v) rest

end

def callClosure (engine : Engine) (frames : List Frame) (self : Value) (c : Closure)
    (args : List Value) : Run Value := do
  let p ← enterFunction c self frames args
  match ← performAll engine p none c.body with
  | .returned v => return v
  | .normal _ => return .undefined

/-- Gives the functions that inner blocks of a program expose a global name. -/
def provideExposed (globals : Nat) : List Text → Run Unit
  | [] => return ()
  | id :: rest => do
    let known := (← object? globals).any fun o => o.members.has id
    if !known then setMember globals id .undefined
    provideExposed globals rest

/-- Runs code outside all functions: its value is that of its last expression. Its functions become
global names, its other names do not. -/
def runScript (engine : Engine) (home : Home) (body : List Stmt) : Run Value := do
  let outer : Place := ⟨[], home, [], body, none⟩
  provideExposed home.globals (exposedFunctions [] body)
  bindFunctions outer (declaredFunctions body)
  let scope ← newScope (unreachedNames body)
  match ← performAll engine (outer.within scope) none body with
  | .returned v => return v
  | .normal v => return v.getD .undefined

end Run

end LineTemplate.Script

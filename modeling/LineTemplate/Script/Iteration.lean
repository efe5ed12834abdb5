import LineTemplate.Script.Exchange

/-!
Reading sequences item by item. Arrays are read in place, so items added meanwhile are read too; a
generator is read once, and is finished when its reader stops early or fails.
-/

set_option autoImplicit false

namespace LineTemplate.Script

namespace Kind

def itemCount : Kind → Nat
  | .array slots => slots.length
  | .map pairs => pairs.length
  | .set items => items.length
  | .boxedText t => t.length
  | .generator (.supply (.mk rest _)) => rest.length
  | .iterable (.mk items _) => items.length
  | _ => 0

end Kind

def Store.itemCount (s : Store) : Nat := s.objects.foldl (fun total o => total + o.kind.itemCount) 0

/-- Steps that a loop may take beyond the items present at its start: more than any array has places. -/
def loopAllowance : Nat := 4294967296

namespace Run

def loopLimit (v : Value) : Run Nat := do
  let own := match v with
    | .text t => t.length
    | _ => 0
  return (← get).itemCount + own + loopAllowance

def open? (v : Value) : Run (Option Cursor) := do
  match v with
  | .text t => return some (.items (t.characters.map .text))
  | .ref address =>
    match ← kind? v with
    | some (.array _) => return some (.array address 0)
    | some (.map pairs) =>
      return some (.items (← pairs.mapM fun (key, value) => allocateArray [key, value]))
    | some (.set items) => return some (.items items)
    | some (.boxedText t) => return some (.items (t.characters.map .text))
    | some (.generator _) => return some (.generator address)
    | some (.iterable supply) =>
      match ← allocateKind (.generator (.supply supply)) with
      | .ref fresh => return some (.generator fresh)
      | _ => return none
    | _ => return none
  | _ => return none

def next (engine : Engine) (frames : List Frame) (cursor : Cursor) :
    Run (Option (Value × Cursor)) := do
  match cursor with
  | .array address i =>
    match ← kind? (.ref address) with
    | some (.array slots) =>
      if i < slots.length then return some ((slots.get? i).getD .undefined, .array address (i + 1))
      else return none
    | _ => return none
  | .items [] => return none
  | .items (v :: rest) => return some (v, .items rest)
  | .generator address => return (← engine.resume frames address).map fun v => (v, cursor)
  | .finished => return none

def finishGenerator : Nat → Nat → Run Unit
  | 0, _ => return ()
  | fuel + 1, address => do
    let inner : Cursor :=
      match ← kind? (.ref address) with
      | some (.generator (.indexing cursor _)) => cursor
      | some (.generator (.decorating cursor _ _)) => cursor
      | _ => .finished
    setKind address (.generator .finished)
    match inner with
    | .generator other => finishGenerator fuel other
    | _ => return ()

/-- Stops reading before the end. -/
def close (cursor : Cursor) : Run Unit := do
  match cursor with
  | .generator address => finishGenerator ((← get).objects.size + 1) address
  | _ => return ()

/-- Runs `body` on each item until it gives a result; a sequence that is left early is closed. -/
def forEach {α : Type} (engine : Engine) (frames : List Frame) (body : Value → Run (Option α)) :
    Nat → Cursor → Run (Option α)
  | 0, _ => throw .unfollowed
  | limit + 1, cursor => do
    match ← next engine frames cursor with
    | none => return none
    | some (v, rest) =>
      let result ← tryCatch (body v) fun stop => do
        close rest
        throw stop
      match result with
      | some a =>
        close rest
        return some a
      | none => forEach engine frames body limit rest

/-- Carries a state through all items; a sequence whose reader fails is closed. -/
def fold {σ : Type} (engine : Engine) (frames : List Frame) (body : σ → Value → Run σ) :
    Nat → σ → Cursor → Run σ
  | 0, _, _ => throw .unfollowed
  | limit + 1, s, cursor => do
    match ← next engine frames cursor with
    | none => return s
    | some (v, rest) =>
      let after ← tryCatch (body s v) fun stop => do
        close rest
        throw stop
      fold engine frames body limit after rest

def collectFrom (engine : Engine) (frames : List Frame) :
    Nat → List Value → Cursor → Run (List Value)
  | 0, _, _ => throw .unfollowed
  | limit + 1, sofar, cursor => do
    match ← next engine frames cursor with
    | none => return sofar.reverse
    | some (v, rest) => collectFrom engine frames limit (v :: sofar) rest

def collect (engine : Engine) (frames : List Frame) (v : Value) : Run (List Value) := do
  match ← open? v with
  | none => return []
  | some cursor => collectFrom engine frames (← loopLimit v) [] cursor

def isSequenceObject (v : Value) : Run Bool := do
  return ((← kind? v).map Kind.isSequence).getD false

def indexNext (engine : Engine) (frames : List Frame) (address : Nat) (cursor : Cursor)
    (count : Nat) : Run (Option Value) := do
  match ← next engine frames cursor with
  | none => return none
  | some (v, rest) =>
    setKind address (.generator (.indexing rest (count + 1)))
    return some (← allocateArray [.ofNat (count + 1), v])

def decorateNext (engine : Engine) (frames : List Frame) (address : Nat) (cursor : Cursor)
    (lead trail : Text) : Run (Option Value) := do
  match ← next engine frames cursor with
  | none => return none
  | some (v, rest) =>
    let content ← tryCatch (textOf engine frames v) fun stop => do
      close rest
      throw stop
    setKind address (.generator (.decorating rest lead trail))
    return some (.text (if content.isEmpty then [] else lead ++ content ++ trail))

/-- Continues the generator at an address: the next item, or none at its end. A generator that fails
is finished. -/
def continueGenerator (engine : Engine) (frames : List Frame) (address : Nat) :
    Run (Option Value) := do
  match ← kind? (.ref address) with
  | some (.generator producer) =>
    setKind address (.generator .finished)
    match producer with
    | .supply (.mk (item :: rest) failure) =>
      setKind address (.generator (.supply (.mk rest failure)))
      return some (← make frames item)
    | .supply (.mk [] (some error)) => throwValue (← make frames error)
    | .supply (.mk [] none) => return none
    | .indexed source =>
      match ← open? source with
      | some cursor => indexNext engine frames address cursor 0
      | none => return none
    | .indexing cursor count => indexNext engine frames address cursor count
    | .decorated factory lead trail =>
      match ← open? (← engine.call frames factory .undefined []) with
      | some cursor => decorateNext engine frames address cursor lead trail
      | none =>
        raiseType frames "factory is not a function or its return value is not iterable"
    | .decorating cursor lead trail => decorateNext engine frames address cursor lead trail
    | .finished => return none
  | _ => return none

end Run

end LineTemplate.Script

import LineTemplate.Script.Operation
import LineTemplate.Text.Case

/-!
The methods of arrays and texts. They work on an array in place; on any other object they use its
numbered members and its member `length`.
-/

set_option autoImplicit false

namespace LineTemplate.Script

structure Items where
  address : Nat
  length : Nat

namespace Items

def lengthLimit : Nat := 0x1FFFFFFFFFFFFF

/-- The object that a method works on, with its length. The length of an array is at hand. -/
def ofValue (engine : Engine) (frames : List Frame) (method : Method) (this : Value) :
    Run Items := do
  let object ←
    match this with
    | .undefined | .null =>
      Run.raiseType frames (method.owner ++ (".prototype." : Text) ++ method.name ++
        (" called on null or undefined" : Text))
    | .text t => Run.allocateKind (.boxedText t)
    | .ref address => pure (.ref address)
    | _ => Run.allocateKind .plain
  match object, ← Run.kind? object with
  | .ref address, some (.array slots) => return ⟨address, slots.length⟩
  | .ref address, _ =>
    let x ← Run.toNumber engine frames (← Run.member object "length")
    let length := if x.isNaN || x < 0 then 0 else if x.isInf then lengthLimit else Number.truncateSize x
    return ⟨address, min length lengthLimit⟩
  | _, _ => return ⟨0, 0⟩

def item? (address i : Nat) : Run (Option Value) := do
  match ← Run.object? address with
  | none => return none
  | some o =>
    match o.kind with
    | .array slots => return slots.get? i
    | .boxedText t => return t[i]?.map fun c => .text [c]
    | _ => return o.members.get? (Text.ofNat i)

def assign (engine : Engine) (frames : List Frame) (address : Nat) (key : Text) (v : Value) :
    Run Unit :=
  Run.assignMember engine frames (.ref address) (.text key) v

def pushFrom (engine : Engine) (frames : List Frame) (address : Nat) : Nat → List Value → Run Nat
  | i, [] => return i
  | i, v :: rest => do
    assign engine frames address (Text.ofNat i) v
    pushFrom engine frames address (i + 1) rest

def arrayLimit : Nat := 4294967295

def push (engine : Engine) (frames : List Frame) (items : Items) (args : List Value) :
    Run Value := do
  match ← Run.kind? (.ref items.address) with
  | some (.array _) =>
    if items.length + args.length ≤ arrayLimit then
      Run.modifySlots items.address fun slots => args.foldl Slots.push slots
      return .ofNat (items.length + args.length)
  | _ => pure ()
  let length ← pushFrom engine frames items.address items.length args
  assign engine frames items.address "length" (.ofNat length)
  return .ofNat length

def pop (engine : Engine) (frames : List Frame) (items : Items) : Run Value := do
  let i := items.length - 1
  let found ← if items.length = 0 then pure none else item? items.address i
  Run.modifyObject items.address fun o => { o with members := o.members.erase (Text.ofNat i) }
  assign engine frames items.address "length" (.ofNat i)
  return found.getD .undefined

/-- Calls `f` on the items from a place on, in order, with their places. Places that are empty when
they are reached stay empty in the result. The first argument counts the items to come. -/
def mapFrom (engine : Engine) (frames : List Frame) (f : Value) (address : Nat) :
    Nat → Nat → Slots Value → Run (Slots Value)
  | 0, i, results => return results.resize i
  | count + 1, i, results => do
    match ← item? address i with
    | some v =>
      let result ← engine.call frames f .undefined [v, .ofNat i, .ref address]
      mapFrom engine frames f address count (i + 1) (results.set i result)
    | none => mapFrom engine frames f address count (i + 1) results

def map (engine : Engine) (frames : List Frame) (items : Items) (f : Value) : Run Value := do
  if ← Run.isFunction f then
    Run.allocateKind (.array (← mapFrom engine frames f items.address items.length 0 .empty))
  else Run.raiseType frames ((← Run.defaultSite f) ++ (" is not a function" : Text))

def join (engine : Engine) (frames : List Frame) (items : Items) (separator : Value) :
    Run Value := do
  let sep ←
    match separator with
    | .undefined => pure ("," : Text)
    | v => Run.toText engine frames v
  let slots ←
    match ← Run.kind? (.ref items.address) with
    | some (.array slots) => pure slots
    | _ =>
      if Text.maxLength < items.length then Run.raiseRange frames "Invalid string length"
      pure (Slots.ofOptions (← (List.range items.length).mapM (item? items.address)))
  return .text (← Run.joinSlots engine frames (← Run.conversionDepth) [] items.address sep slots)

end Items

def Method.apply (engine : Engine) (frames : List Frame) (method : Method) (this : Value)
    (args : List Value) : Run Value := do
  let first := args.headD .undefined
  match method with
  | .push => Items.push engine frames (← Items.ofValue engine frames method this) args
  | .pop => Items.pop engine frames (← Items.ofValue engine frames method this)
  | .map => Items.map engine frames (← Items.ofValue engine frames method this) first
  | .join => Items.join engine frames (← Items.ofValue engine frames method this) first
  | .toUpperCase =>
    if this.isMissing then
      Run.raiseType frames "String.prototype.toUpperCase called on null or undefined"
    else return .text (← Run.toText engine frames this).toUpper

end LineTemplate.Script

import LineTemplate.Number.Reading
import LineTemplate.Script.Store

/-!
Reading members and converting values. Converting an object may call functions of its own; how a
function is called is a parameter, the engine.
-/

set_option autoImplicit false

namespace LineTemplate.Script

/-- How functions are called and generators continued, given the functions active at the time. A
function is called on a value, which is undefined for a call of the function by itself. -/
structure Engine where
  call : List Frame → Value → Value → List Value → Run Value
  /-- The next item of the generator at an address. -/
  resume : List Frame → Nat → Run (Option Value)

/-- What a member is looked up by. -/
inductive Key where
  | text (name : Text)
  | symbol (id : Nat) (description : Text)

namespace Value

def ofText (t : Text) : Value := .text t

def ofNat (n : Nat) : Value := .number (Float.ofNat n)

def ofMethod (m : Method) : Value := .ref m.address

def isObject : Value → Bool
  | .ref _ => true
  | _ => false

end Value

namespace Method

def name : Method → Text
  | .push => "push"
  | .pop => "pop"
  | .map => "map"
  | .join => "join"
  | .toUpperCase => "toUpperCase"

def ofArray? (key : Text) : Option Method := [push, pop, map, join].find? fun m => m.name = key

def ofText? (key : Text) : Option Method := if key = toUpperCase.name then some toUpperCase else none

def owner : Method → Text
  | .push | .pop | .map | .join => "Array"
  | .toUpperCase => "String"

end Method

namespace Function

def name : Function → Text
  | .closure c => c.head.name
  | .native (.method m) => m.name
  | .native (.errorClass name) => name
  | .native .indexed => "indexed"
  | .native .entries => "entries"
  | .native _ => []

def text (f : Function) : Text :=
  match f with
  | .closure c => c.head.text
  | .native _ => ("function " : Text) ++ f.name ++ ("() \x7b [native code] \x7d" : Text)

def paramCount : Function → Nat
  | .closure c => c.head.params.length
  | .native (.method .pop) | .native (.method .toUpperCase) => 0
  | .native _ => 1

end Function

namespace Kind

def isFunction : Kind → Bool
  | .function _ => true
  | _ => false

def isSequence : Kind → Bool
  | .array _ | .map _ | .set _ | .boxedText _ | .generator _ | .iterable _ => true
  | .plain | .error _ _ | .function _ => false

end Kind

namespace Run

def isFunction (v : Value) : Run Bool := do return ((← kind? v).map Kind.isFunction).getD false

/-- The name of the type of a value; null and all objects but functions are called objects. -/
def typeName (v : Value) : Run Text := do
  match v with
  | .undefined => return "undefined"
  | .null => return "object"
  | .bool _ => return "boolean"
  | .number _ => return "number"
  | .bigint _ => return "bigint"
  | .text _ => return "string"
  | .symbol _ _ => return "symbol"
  | .ref _ => return if ← isFunction v then "function" else "object"

/-- The name of the type of a value, with null and arrays told apart. -/
def describeType (v : Value) : Run Text := do
  match v, ← kind? v with
  | .null, _ => return "null"
  | _, some (.array _) => return "array"
  | _, _ => typeName v

def unitAt (t : Text) (i : Nat) : Value := (t[i]?.map fun c => Value.text [c]).getD .undefined

def textMember (t : Text) (key : Text) : Value :=
  match arrayIndex? key with
  | some i => unitAt t i
  | none =>
    if key = "length" then .ofNat t.length
    else ((Method.ofText? key).map Value.ofMethod).getD .undefined

/-- What an object of a kind holds under a name beside its members. -/
def kindMember (kind : Kind) (key : Text) : Value :=
  match kind with
  | .array slots =>
    match arrayIndex? key with
    | some i => (slots.get? i).getD .undefined
    | none =>
      if key = "length" then .ofNat slots.length
      else ((Method.ofArray? key).map Value.ofMethod).getD .undefined
  | .boxedText t => textMember t key
  | .error _ family =>
    if key = "name" then .text family else if key = "message" then .text [] else .undefined
  | .function f =>
    if key = "name" then .text f.name
    else if key = "length" then .ofNat f.paramCount
    else .undefined
  | _ => .undefined

def objectMember (o : Obj) (key : Text) : Value :=
  match o.members.get? key with
  | some found => found
  | none => (o.hidden.get? key).getD (kindMember o.kind key)

def member (v : Value) (key : Text) : Run Value := do
  match v with
  | .text t => return textMember t key
  | .ref address => return ((← object? address).map fun o => objectMember o key).getD .undefined
  | _ => return .undefined

def memberBy (v : Value) (key : Key) : Run Value := do
  match key, v with
  | .text name, v => member v name
  | .symbol id _, .ref address =>
    return ((← object? address).bind fun o => o.symbols.lookup id).getD .undefined
  | .symbol _ _, _ => return .undefined

def listedMembers (address : Nat) : Run (Members Value) := do
  match ← object? address with
  | none => return []
  | some o =>
    let own := Members.listed o.members
    match o.kind with
    | .array slots => return slots.entries.map (fun (i, v) => (Text.ofNat i, v)) ++ own
    | .boxedText t =>
      return (List.range t.length).zipWith (fun i c => (Text.ofNat i, .text [c])) t ++ own
    | _ => return own

def plainText : Value → Text
  | .undefined => "undefined"
  | .null => "null"
  | .bool true => "true"
  | .bool false => "false"
  | .number x => Number.text x
  | .bigint n => if n < 0 then ("-" : Text) ++ Text.ofNat n.natAbs else Text.ofNat n.natAbs
  | .text t => t
  | .symbol _ _ | .ref _ => []

def errorText (name message : Text) : Text :=
  if name.isEmpty then message
  else if message.isEmpty then name
  else name ++ (": " : Text) ++ message

def symbolText (description : Text) : Text := ("Symbol(" : Text) ++ description ++ (")" : Text)

/-- What stands for an object where some other value is needed: the first of two functions that gives
no object, `toString` before `valueOf` or the other way round. -/
inductive Preference where
  | text
  | plain
deriving DecidableEq, Repr

/-- The result of an object's own function under a name: none if the object has no such member, and
nothing inside if the member gives no value that can stand for the object. -/
def ownConversion (engine : Engine) (frames : List Frame) (address : Nat) (key : Text) :
    Run (Option (Option Value)) := do
  match (← object? address).bind fun o => o.members.get? key with
  | some f =>
    if ← isFunction f then
      let result ← engine.call frames f (.ref address) []
      return some (if result.isObject then none else some result)
    else return some none
  | none => return none

mutual

/-- What the function `toString` of an object gives. The items of an array are joined by commas; an
array that is already being converted is empty. -/
def ownText (engine : Engine) (frames : List Frame) : Nat → List Nat → Nat → Run (Option Value)
  | 0, _, _ => return some (.text [])
  | fuel + 1, path, address => do
    match ← ownConversion engine frames address "toString" with
    | some result => return result
    | none =>
      match ← object? address with
      | none => return some (.text [])
      | some o =>
        match o.kind with
        | .array slots =>
          match o.members.get? "join" with
          | some join =>
            if ← isFunction join then
              let result ← engine.call frames join (.ref address) []
              return if result.isObject then none else some result
            else return some (.text "[object Array]")
          | none => return some (.text (← joinSlots engine frames fuel path address "," slots))
        | .map _ => return some (.text "[object Map]")
        | .set _ => return some (.text "[object Set]")
        | .boxedText t => return some (.text t)
        | .error _ _ =>
          let part (v : Value) (missing : Text) : Run Text :=
            match v with
            | .undefined => return missing
            | v => implicitText engine frames fuel path v
          let name ← part (objectMember o "name") "Error"
          return some (.text (errorText name (← part (objectMember o "message") [])))
        | .generator _ => return some (.text "[object Generator]")
        | .function f => return some (.text f.text)
        | .plain | .iterable _ => return some (.text "[object Object]")

/-- What stands for an object where some other value is needed. -/
def standIn (engine : Engine) (frames : List Frame) :
    Nat → List Nat → Preference → Nat → Run Value
  | 0, _, _, _ => return .text []
  | fuel + 1, path, preference, address => do
    let plain : Run (Option Value) := do
      match ← ownConversion engine frames address "valueOf", ← kind? (.ref address) with
      | some result, _ => return result
      | none, some (.boxedText t) => return some (.text t)
      | none, _ => return none
    let first ←
      match preference with
      | .text => ownText engine frames fuel path address
      | .plain => plain
    match first with
    | some v => return v
    | none =>
      let second ←
        match preference with
        | .text => plain
        | .plain => ownText engine frames fuel path address
      match second with
      | some v => return v
      | none => raiseType frames "Cannot convert object to primitive value"

/-- The text of a value where text is expected; a symbol has none there. -/
def implicitText (engine : Engine) (frames : List Frame) : Nat → List Nat → Value → Run Text
  | 0, _, _ => return []
  | fuel + 1, path, v => do
    match v with
    | .ref address =>
      match ← standIn engine frames fuel path .text address with
      | .symbol _ _ => raiseType frames "Cannot convert a Symbol value to a string"
      | plain => return plainText plain
    | .symbol _ _ => raiseType frames "Cannot convert a Symbol value to a string"
    | v => return plainText v

def joinSlots (engine : Engine) (frames : List Frame) :
    Nat → List Nat → Nat → Text → Slots Value → Run Text
  | 0, _, _, _, _ => return []
  | fuel + 1, path, address, sep, slots => do
    if path.contains address then return []
    if Text.maxLength < (slots.length - 1) * sep.length then raiseRange frames "Invalid string length"
    let items :=
      if sep.isEmpty then slots.entries.map fun (_, v) => v
      else slots.toList.map fun item => item.getD .undefined
    let texts ← items.mapM fun v =>
      if v.isMissing then return []
      else implicitText engine frames fuel (address :: path) v
    return Text.join sep texts

end

/-- Steps that suffice to convert any value of the present state: a chain of conversions passes each
object once, in at most four steps. -/
def conversionDepth : Run Nat := do return 4 * (← get).objects.size + 8

def toText (engine : Engine) (frames : List Frame) (v : Value) : Run Text := do
  implicitText engine frames (← conversionDepth) [] v

/-- The text of a value on request: symbols have one too. -/
def textOf (engine : Engine) (frames : List Frame) (v : Value) : Run Text :=
  match v with
  | .symbol _ description => return symbolText description
  | v => toText engine frames v

def toPlain (engine : Engine) (frames : List Frame) (preference : Preference) (v : Value) :
    Run Value := do
  match v with
  | .ref address => standIn engine frames (← conversionDepth) [] preference address
  | v => return v

def toKey (engine : Engine) (frames : List Frame) (v : Value) : Run Key := do
  match ← toPlain engine frames .text v with
  | .symbol id description => return .symbol id description
  | plain => return .text (plainText plain)

def truthy : Value → Bool
  | .undefined | .null => false
  | .bool b => b
  | .number x => !(x == 0 || x.isNaN)
  | .bigint n => n ≠ 0
  | .text t => !t.isEmpty
  | .symbol _ _ | .ref _ => true

def plainNumber (frames : List Frame) : Value → Run Float
  | .undefined | .ref _ => return Number.notANumber
  | .null => return 0
  | .bool b => return if b then 1 else 0
  | .number x => return x
  | .text t => return Number.ofText t
  | .bigint _ => raiseType frames "Cannot convert a BigInt value to a number"
  | .symbol _ _ => raiseType frames "Cannot convert a Symbol value to a number"

def toNumber (engine : Engine) (frames : List Frame) (v : Value) : Run Float := do
  plainNumber frames (← toPlain engine frames .plain v)

def arrayLength? (x : Float) : Option Nat :=
  if Number.isInteger x && 0 ≤ x && x ≤ 4294967295 then some (Number.truncateSize x) else none

/-- Sets a member of an object that is no array. Hidden members stay hidden. -/
def assignOwn (address : Nat) (key : Text) (v : Value) : Run Unit :=
  modifyObject address fun o =>
    let isFixed :=
      match o.kind with
      | .boxedText t =>
        key == ("length" : Text) || (arrayIndex? key).any fun i => i < t.length
      | .function _ => key == ("length" : Text) || key == ("name" : Text)
      | _ => false
    if isFixed then o
    else if o.hidden.has key then { o with hidden := o.hidden.set key v }
    else { o with members := o.members.set key v }

/-- Sets a member of an object. Other values have none, and the assignment is lost. -/
def assignMember (engine : Engine) (frames : List Frame) (base : Value) (key : Key) (v : Value) :
    Run Unit := do
  match base, key with
  | .ref address, .symbol id _ =>
    modifyObject address fun o =>
      { o with symbols := (id, v) :: o.symbols.filter fun s => s.1 != id }
  | .ref address, .text name =>
    match ← kind? base with
    | some (.array _) =>
      match arrayIndex? name with
      | some i => modifySlots address fun slots => slots.set i v
      | none =>
        if name = "length" then
          match arrayLength? (← toNumber engine frames v) with
          | some n => modifySlots address fun slots => slots.resize n
          | none => raiseRange frames "Invalid array length"
        else assignOwn address name v
    | _ => assignOwn address name v
  | _, _ => return ()

def quotedLimit : Nat := 100

/-- How a message names a value that has no place in the code. -/
def defaultSite (v : Value) : Run Text := do
  let type ← typeName v
  match v with
  | .text t =>
    let quoted := if quotedLimit < t.length then t.take quotedLimit ++ "<a very large string>" else t
    return type ++ (" \"" : Text) ++ quoted ++ ("\"" : Text)
  | .null | .bool _ | .number _ => return type ++ (" " : Text) ++ plainText v
  | _ => return type

def shortCode (code : Text) : Text :=
  if 128 < code.length then
    code.take 111 ++ ("...<omitted>..." : Text) ++ code.drop (code.length - 2)
  else code

/-- How a message names a key, found without calling any function; not every object has such a
name. -/
def keyName? (v : Value) : Run (Option Text) := do
  match v with
  | .symbol _ description => return some (symbolText description)
  | .ref address =>
    match ← object? address with
    | none => return none
    | some o =>
      match o.kind with
      | .function f => return some (shortCode f.text)
      | .error _ _ =>
        return some (errorText (plainText (objectMember o "name"))
          (plainText (objectMember o "message")))
      | .plain => return if o.given || o.members.has "toString" then none else some "#<Object>"
      | _ => return none
  | v => return some (plainText v)

end Run

end LineTemplate.Script

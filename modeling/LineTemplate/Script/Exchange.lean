import LineTemplate.Script.Conversion

/-!
Passing values between a caller and scripts. Taking in a described value makes fresh objects for it;
reporting a value describes it again, as far as a description goes.
-/

set_option autoImplicit false

namespace LineTemplate.Script

/-- The value as a key of a map or a set, where both zeros are one key. -/
def Value.asKey : Value → Value
  | .number x => .number (if x == 0 then 0 else x)
  | v => v

def Value.sameKey : Value → Value → Bool
  | .undefined, .undefined => true
  | .null, .null => true
  | .bool a, .bool b => a == b
  | .number a, .number b => a == b || (a.isNaN && b.isNaN)
  | .bigint a, .bigint b => a == b
  | .text a, .text b => a == b
  | .symbol a _, .symbol b _ => a == b
  | .ref a, .ref b => a == b
  | _, _ => false

def putPair (pairs : List (Value × Value)) (key value : Value) : List (Value × Value) :=
  match pairs with
  | [] => [(key.asKey, value)]
  | (k, v) :: rest =>
    if k.sameKey key then (k, value) :: rest else (k, v) :: putPair rest key value

def putItem (items : List Value) (item : Value) : List Value :=
  if items.any fun other => other.sameKey item then items else items ++ [item.asKey]

namespace Run

def freshSymbol (description : Text) : Run Value := do
  let s ← get
  set { s with nextSymbol := s.nextSymbol + 1 }
  return .symbol s.nextSymbol description

/-- An object that a caller hands in. -/
def allocateGiven (kind : Kind) : Run Value := allocate { Obj.ofKind kind with given := true }

mutual

def make (frames : List Frame) : Datum → Run Value
  | .undefined => return .undefined
  | .null => return .null
  | .bool b => return .bool b
  | .number x => return .number x
  | .bigint n => return .bigint n
  | .text t => return .text t
  | .symbol description => freshSymbol description
  | .array items => do allocateGiven (.array (.ofList (← makeAll frames items)))
  | .object members => do
    let values ← makeMembers frames members
    allocate { Obj.ofKind .plain with members := Members.setAll [] values, given := true }
  | .map pairs => do
    allocateGiven (.map ((← makePairs frames pairs).foldl (fun ps (k, v) => putPair ps k v) []))
  | .set items => do allocateGiven (.set ((← makeAll frames items).foldl putItem []))
  | .boxedText t => allocateGiven (.boxedText t)
  | .error name message stack =>
    allocate { Obj.ofKind (.error .none "Error") with
      members := [("name", .text name)]
      hidden := [("message", .text message),
        ("stack", .text (stack.getD (stackText "Error" message frames)))]
      given := true }
  | .generator supply => allocateGiven (.generator (.supply supply))
  | .iterable supply => allocateGiven (.iterable supply)
  | .function behaviour => makeFunction frames behaviour
  | .someFunction => allocateFunction .identity
  | .someIterable => allocateGiven (.iterable (.mk [] none))

def makeAll (frames : List Frame) : List Datum → Run (List Value)
  | [] => return []
  | d :: rest => do
    let v ← make frames d
    return v :: (← makeAll frames rest)

def makeMembers (frames : List Frame) : List (Text × Datum) → Run (List (Text × Value))
  | [] => return []
  | (key, d) :: rest => do
    let v ← make frames d
    return (key, v) :: (← makeMembers frames rest)

def makePairs (frames : List Frame) : List (Datum × Datum) → Run (List (Value × Value))
  | [] => return []
  | (key, d) :: rest => do
    let k ← make frames key
    let v ← make frames d
    return (k, v) :: (← makePairs frames rest)

/-- Makes a described function. What it returns is made when it is called, but for a value that is the
same each time. -/
def makeFunction (frames : List Frame) : HostFunction → Run Value
  | .const value => do allocateFunction (.const (← make frames value))
  | .throw error => allocateFunction (.throw error)
  | .wrap lead trail => allocateFunction (.wrap lead trail)
  | .identity => allocateFunction .identity
  | .typeName => allocateFunction .typeName
  | .counter start => allocateFunction (.counter start)
  | .lookup table otherwise => allocateFunction (.lookup (Members.setAll [] table) otherwise)
  | .sequence supply => allocateFunction (.sequence supply)
  | .decorate items lead trail => do
    let factory ← allocateFunction (.build items)
    allocateFunction (.decorate factory lead trail)
  | .indexed => allocateFunction .indexed
  | .entries => allocateFunction .entries
  | .evaluate template options => allocateFunction (.evaluate template options)

end

def reportedText (address : Nat) (key : Text) : Run Text := do
  return plainText (← member (.ref address) key)

/-- Describes a value; objects below the given depth are not described further. -/
def describeWithin : Nat → Value → Run Datum
  | _, .undefined => return .undefined
  | _, .null => return .null
  | _, .bool b => return .bool b
  | _, .number x => return .number x
  | _, .bigint n => return .bigint n
  | _, .text t => return .text t
  | _, .symbol _ description => return .symbol description
  | 0, .ref _ => return .object []
  | depth + 1, .ref address => do
    match ← object? address with
    | none => return .undefined
    | some o =>
      match o.kind with
      | .plain =>
        return .object (← (Members.listed o.members).mapM fun (key, v) =>
          return (key, ← describeWithin depth v))
      | .array slots =>
        return .array (← slots.toList.mapM fun item => describeWithin depth (item.getD .null))
      | .map pairs =>
        return .map (← pairs.mapM fun (k, v) =>
          return (← describeWithin depth k, ← describeWithin depth v))
      | .set items => return .set (← items.mapM (describeWithin depth))
      | .boxedText t => return .boxedText t
      | .error _ _ =>
        return .error (← reportedText address "name") (← reportedText address "message") none
      | .generator _ | .iterable _ => return .someIterable
      | .function _ => return .someFunction

/-- Describes a value. A value that holds each object at most once on a way inward is described in
full. -/
def describe (v : Value) : Run Datum := do describeWithin ((← get).objects.size) v

end Run

inductive Thrown where
  | error (report : ErrorReport)
  /-- Something that is no error. -/
  | value (thrown : Datum)

namespace Thrown

def ofValue (v : Value) : Run Thrown := do
  match v, ← Run.kind? v with
  | .ref address, some (.error detail _) =>
    return .error ⟨← Run.reportedText address "name", ← Run.reportedText address "message", detail⟩
  | _, _ => return .value (← Run.describe v)

end Thrown

def Run.finish {α : Type} (run : Run α) (store : Store) : Except Thrown α × Store :=
  match run store with
  | .ok a after => (.ok a, after)
  | .error (.thrown v) after =>
    match Thrown.ofValue v after with
    | .ok thrown after => (.error thrown, after)
    | .error _ after => (.error (.value .undefined), after)
  | .error .unfollowed after =>
    (.error (.error (.plain "RangeError" "the run is not followed further")), after)

end LineTemplate.Script

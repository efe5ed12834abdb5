import LineTemplate.ErrorReport
import LineTemplate.Log.Level
import LineTemplate.Script.Datum
import LineTemplate.Script.Slots
import LineTemplate.Script.Tree
import LineTemplate.Template.Trail

/-!
The state in which scripts run: objects, scopes of names, loaded templates and the log. Values that
have an identity are addresses of objects. Members are plain entries: there are no accessors and no frozen
objects, and prototypes are told only as far as the kind of an object says what it inherits.
-/

set_option autoImplicit false

namespace LineTemplate.Script

inductive Value where
  | undefined
  | null
  | bool (value : Bool)
  | number (value : Float)
  | bigint (value : Int)
  | text (value : Text)
  | symbol (id : Nat) (description : Text)
  /-- The object at an address. -/
  | ref (address : Nat)

instance : Inhabited Value := ⟨.undefined⟩

namespace Value

def isMissing : Value → Bool
  | .undefined | .null => true
  | _ => false

end Value

/-- An active function of a program: the program's serial number and the line it stands on. -/
structure Frame where
  serial : Nat
  line : Nat
deriving DecidableEq, Repr

/-- What all functions of one program share: the program's serial number, and the object whose members
are its global names. -/
structure Home where
  globals : Nat
  serial : Nat
deriving DecidableEq, Repr

structure Closure where
  head : FunctionHead
  body : List Stmt
  /-- The scopes of names around it, innermost first. -/
  env : List Nat
  home : Home

inductive Method where
  | push
  | pop
  | map
  | join
  | toUpperCase
deriving DecidableEq, Repr

/-- Where a scripted function takes the value it reads from. -/
structure ReadSource where
  /-- An error to throw instead. -/
  error : Option Datum
  /-- A scope entry to look up. -/
  name : Option Text
  value : Datum

inductive Native where
  | const (value : Value)
  | throw (error : Datum)
  | wrap (lead trail : Text)
  | identity
  | typeName
  | counter (count : Float)
  /-- Looks its converted argument up, and makes what it finds anew. -/
  | lookup (table : Members Datum) (otherwise : Datum)
  | sequence (supply : Supply)
  /-- Makes a fresh value at each call. -/
  | build (value : Datum)
  /-- Decorates the sequences that another function returns. -/
  | decorate (factory : Value) (lead trail : Text)
  | indexed
  | entries
  | evaluate (template : Text) (options : Datum)
  /-- Converts the value of a field of templates bound to the scope at this address. -/
  | textHelper (scope : Nat)
  /-- Emits the lines of a list of templates bound to the scope at this address. -/
  | listHelper (scope : Nat)
  | read (scope : Nat) (source : ReadSource)
  | method (m : Method)
  /-- A class of errors, by its name. -/
  | errorClass (name : Text)

inductive Function where
  | closure (c : Closure)
  | native (f : Native)

inductive Cursor where
  /-- The array at an address, from an index on. Items added meanwhile are read too. -/
  | array (address index : Nat)
  /-- Items that are at hand. -/
  | items (rest : List Value)
  /-- The generator at an address. -/
  | generator (address : Nat)
  | finished

inductive Producer where
  /-- Makes items as they are asked for, and the failure after them. -/
  | supply (rest : Supply)
  /-- Pairs the items of a sequence with their positions, counted from one. -/
  | indexed (source : Value)
  | indexing (cursor : Cursor) (count : Nat)
  /-- Puts text around the items of the sequence that a function returns, empty items aside. -/
  | decorated (factory : Value) (lead trail : Text)
  | decorating (cursor : Cursor) (lead trail : Text)
  | finished

inductive Kind where
  | plain
  | array (slots : Slots Value)
  | map (pairs : List (Value × Value))
  | set (items : List Value)
  | boxedText (content : Text)
  /-- An error; `family` is its name as long as it has none of its own. -/
  | error (detail : ErrorDetail) (family : Text)
  | generator (producer : Producer)
  | iterable (supply : Supply)
  | function (f : Function)

/-- An object. The hidden members can be read by name, but are not listed, nor are the members whose
keys are symbols. -/
structure Obj where
  kind : Kind
  members : Members Value
  hidden : Members Value
  symbols : List (Nat × Value)
  /-- Whether a caller handed it in. -/
  given : Bool

namespace Obj

def ofKind (kind : Kind) : Obj := ⟨kind, [], [], [], false⟩

def ofNative (f : Native) : Obj := ofKind (.function (.native f))

end Obj

inductive Mutability where
  | variable
  | constant
  /-- An assignment is lost. -/
  | fixed
deriving DecidableEq, Repr

namespace Mutability

def ofFlag (mutable : Bool) : Mutability := if mutable then .variable else .constant

end Mutability

/-- A name in a scope. Without a value it has not been reached by its declaration yet. -/
structure Binding where
  value : Option Value
  mutability : Mutability

structure LogRecord where
  level : LogLevel
  message : Text
  context : Datum

inductive Action where
  /-- Adds a value to the output. -/
  | push (value : Datum)
  /-- Adds text and a converted field to the output. -/
  | field (lead expression : Text) (source : ReadSource)
  /-- Emits the lines of a list. -/
  | list (indent expression : Text) (source : ReadSource)
  | set (name : Text) (value : Datum)
  | delete (name : Text)
  | throw (error : Datum)
  /-- Ends the run with a value in place of the output. -/
  | finish (value : Datum)

structure FailureOverride where
  message : Option Text
  line : Option Int
  stack : Option (List StackEntry)

structure Playback where
  actions : List Action
  failure : FailureOverride

inductive Executable where
  /-- A function of a script, with the serial number of its compilation. -/
  | script (main : Value) (serial : Nat)
  | playback (steps : Playback)

/-- A program bound to the scope object at an address. -/
structure BoundTemplate where
  program : Program
  scope : Nat
  executable : Executable

structure Store where
  objects : Array Obj
  scopes : Array (Members Binding)
  /-- The serial number of the next compilation. -/
  nextSerial : Nat
  nextSymbol : Nat
  /-- The templates of a session, by their names in it. -/
  templates : Members BoundTemplate
  log : List LogRecord

def errorClasses : List Text :=
  List.map Text.ofString
    ["Error", "TypeError", "RangeError", "ReferenceError", "SyntaxError", "EvalError", "URIError"]

/-- The functions that are there from the start. Their objects come first in every store. -/
def builtins : List Native :=
  [.method .push, .method .pop, .method .map, .method .join, .method .toUpperCase] ++
    errorClasses.map .errorClass

namespace Method

def address : Method → Nat
  | .push => 0
  | .pop => 1
  | .map => 2
  | .join => 3
  | .toUpperCase => 4

end Method

def firstErrorClass : Nat := 5

def Store.empty : Store := ⟨(builtins.map Obj.ofNative).toArray, #[], 1, 0, [], []⟩

instance : Inhabited Store := ⟨.empty⟩

inductive Stop where
  | thrown (value : Value)
  /-- The run is not followed further: a loop took more steps than any sequence has items, or a name stands
  for a value that is not told here. -/
  | unfollowed

/-- Runs keep the state when they end early. -/
abbrev Run (α : Type) := EStateM Stop Store α

namespace Run

def throwValue {α : Type} (v : Value) : Run α := throw (.thrown v)

def allocate (o : Obj) : Run Value :=
  modifyGet fun s =>
    let address := s.objects.size
    (.ref address, { s with objects := s.objects.push o })

def object? (address : Nat) : Run (Option Obj) := do return (← get).objects[address]?

def modifyObject (address : Nat) (f : Obj → Obj) : Run Unit :=
  modify fun s => { s with objects := s.objects.modify address f }

def kind? (v : Value) : Run (Option Kind) := do
  match v with
  | .ref address => return (← object? address).map (·.kind)
  | _ => return none

def setKind (address : Nat) (kind : Kind) : Run Unit :=
  modifyObject address fun o => { o with kind := kind }

def setMember (address : Nat) (key : Text) (value : Value) : Run Unit :=
  modifyObject address fun o => { o with members := o.members.set key value }

def allocateKind (kind : Kind) : Run Value := allocate (.ofKind kind)

def allocateArray (items : List Value) : Run Value := allocateKind (.array (.ofList items))

def modifySlots (address : Nat) (f : Slots Value → Slots Value) : Run Unit :=
  modifyObject address fun o =>
    match o with
    | ⟨.array slots, members, hidden, symbols, given⟩ =>
      ⟨.array (f slots), members, hidden, symbols, given⟩
    | o => o

def allocateFunction (f : Native) : Run Value := allocateKind (.function (.native f))

/-- The number of active functions that a stack shows. -/
def shownFrames : Nat := 10

def stackText (name message : Text) (frames : List Frame) : Text :=
  let headline := if message.isEmpty then name else name ++ (": " : Text) ++ message
  let row (f : Frame) : Text :=
    ("\n    at [template#" : Text) ++ Text.ofNat f.serial ++ ("]:" : Text) ++ Text.ofNat f.line ++
      (":1" : Text)
  headline ++ (frames.take shownFrames).flatMap row

def newError (frames : List Frame) (report : ErrorReport) : Run Value :=
  allocate { Obj.ofKind (.error report.detail report.name) with
    hidden := [("message", .text report.message),
      ("stack", .text (stackText report.name report.message frames))] }

def raise {α : Type} (frames : List Frame) (report : ErrorReport) : Run α := do
  throwValue (← newError frames report)

def raiseType {α : Type} (frames : List Frame) (message : Text) : Run α :=
  raise frames (.plain "TypeError" message)

def raiseRange {α : Type} (frames : List Frame) (message : Text) : Run α :=
  raise frames (.plain "RangeError" message)

def raiseReference {α : Type} (frames : List Frame) (message : Text) : Run α :=
  raise frames (.plain "ReferenceError" message)

def newScope (names : Members Binding) : Run Nat :=
  modifyGet fun s =>
    let scope := s.scopes.size
    (scope, { s with scopes := s.scopes.push names })

def findBinding? (s : Store) (id : Text) : List Nat → Option (Nat × Binding)
  | [] => none
  | scope :: outer =>
    match (s.scopes[scope]?.getD []).get? id with
    | some binding => some (scope, binding)
    | none => findBinding? s id outer

def setBinding (scope : Nat) (id : Text) (binding : Binding) : Run Unit :=
  modify fun s => { s with scopes := s.scopes.modify scope fun names => names.set id binding }

def logDebug (message : String) (context : List (String × Datum)) : Run Unit :=
  modify fun s => { s with log := s.log ++ [⟨.debug, message, .record context⟩] }

end Run

end LineTemplate.Script

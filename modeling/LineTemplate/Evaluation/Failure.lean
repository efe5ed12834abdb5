import LineTemplate.Number.Reading
import LineTemplate.Script.Conversion
import LineTemplate.Text.Blank

/-!
What is known of a failure: the message of what was thrown, and the lines of generated code that its
stack names. A stack names a line as `[template#7]:12`, where 7 is the serial number of the
compilation; the lines of other compilations do not count.
-/

set_option autoImplicit false

namespace LineTemplate

open Script

def Text.after? (lead t : Text) : Option Text :=
  if lead.isPrefixOf t then some (t.drop lead.length) else none

namespace CodeLine

/-- The digits at the start of a text as a number, with what follows; there must be a digit. A long
number is rounded. -/
def digits? (t : Text) : Option (Nat × Text) :=
  match t.takeWhile CodeUnit.isDigit with
  | [] => none
  | ds =>
    some (Number.nearest (ds.foldl (fun n d => n * 10 + (d.toNat - 0x30)) 0), t.drop ds.length)

def atStart? (t : Text) : Option (Nat × Nat) := do
  let (serial, rest) ← digits? (← Text.after? "[template#" t)
  let (line, _) ← digits? (← Text.after? "]:" rest)
  return (serial, line)

def first? (t : Text) : Option (Nat × Nat) :=
  match t with
  | [] => none
  | c :: rest => (atStart? (c :: rest)).or (first? rest)

def find? (text : Text) (serial : Nat) : Option Nat :=
  match first? text with
  | some (n, line) => if n = serial then some line else none
  | none => none

end CodeLine

namespace FailureDescription

def isStackRow (row : Text) : Bool :=
  let rest := row.dropWhile CodeUnit.isBlank
  rest.length < row.length && (Text.after? "at " rest).isSome

def stackEntries (stack : Text) (serial : Nat) : List StackEntry :=
  ((Text.splitOn 0x0A stack).filter isStackRow).map fun row =>
    ⟨row.trim, (CodeLine.find? row serial).map Int.ofNat⟩

def ofStack (message stack : Text) (serial : Nat) : FailureDescription :=
  let entries := stackEntries stack serial
  ⟨message, entries.findSome? StackEntry.line, entries⟩

end FailureDescription

namespace Script.Run

/-- The message of an object that has one. Functions count as values without a message. -/
def ownMessage? (v : Value) : Run (Option Text) := do
  match v with
  | .ref _ =>
    if ← isFunction v then return none
    match ← member v "message" with
    | .text message => return some message
    | _ => return none
  | _ => return none

/-- What a thrown value says: the name and the message of an object that has a message, else the text
of the value. -/
def failureMessage (engine : Engine) (frames : List Frame) (v : Value) : Run Text := do
  match ← ownMessage? v with
  | none => textOf engine frames v
  | some message =>
    match ← member v "name" with
    | .text name => return if name.isEmpty then message else name ++ (": " : Text) ++ message
    | _ => return message

def failureStack (v : Value) : Run Text := do
  match ← ownMessage? v with
  | none => return []
  | some _ =>
    match ← member v "stack" with
    | .text stack => return stack
    | _ => return []

def describeFailure (engine : Engine) (frames : List Frame) (serial : Nat) (v : Value) :
    Run FailureDescription := do
  let stack ← failureStack v
  return .ofStack (← failureMessage engine frames v) stack serial

end Script.Run

end LineTemplate

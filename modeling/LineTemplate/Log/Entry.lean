import LineTemplate.Json.Printer
import LineTemplate.ErrorReport
import LineTemplate.Log.Instant
import LineTemplate.Log.Level
import LineTemplate.Script.Datum
import LineTemplate.Text.Case

/-!
Log entries and their lines. A line names the time, the level and the run, then gives the message and
the context, if there is one.
-/

set_option autoImplicit false

namespace LineTemplate

namespace Datum

mutual

/-- The value as JSON. Undefined values, functions and symbols have no JSON form, and big integers
must not occur. -/
def toJson : Datum → Except ErrorReport (Option Json)
  | .undefined | .symbol _ | .function _ | .someFunction => .ok none
  | .null => .ok (some .null)
  | .bool b => .ok (some (.bool b))
  | .number x => .ok (some (.number x))
  | .bigint _ => .error (.plain "TypeError" "Do not know how to serialize a BigInt")
  | .text t | .boxedText t => .ok (some (.text t))
  | .array items => do return some (.array (← itemsToJson items))
  | .object members => do return some (.object (Members.listed (← membersToJson members)))
  | .error name _ _ => .ok (some (.object [("name", .text name)]))
  | .map _ | .set _ | .generator _ | .iterable _ | .someIterable => .ok (some (.object []))

def itemsToJson : List Datum → Except ErrorReport (List Json)
  | [] => .ok []
  | d :: rest => do
    let j ← toJson d
    return j.getD .null :: (← itemsToJson rest)

def membersToJson : List (Text × Datum) → Except ErrorReport (List (Text × Json))
  | [] => .ok []
  | (key, d) :: rest => do
    match ← toJson d with
    | some j => return (key, j) :: (← membersToJson rest)
    | none => membersToJson rest

end

end Datum

/-- A log entry. Without a valid time it has no line. -/
structure LogEntry where
  time : Option Instant
  level : LogLevel
  run : Option Text
  message : Text
  context : Datum

namespace LogEntry

def contextText (context : Datum) : Except ErrorReport Text :=
  match context with
  | .undefined | .null =>
    .error (.plain "TypeError" "Cannot convert undefined or null to object")
  | d =>
    if d.members.isEmpty then .ok []
    else do
      match ← d.toJson with
      | some j => return (" " : Text) ++ j.compact
      | none => return " undefined"

def line (e : LogEntry) : Except ErrorReport Text :=
  match e.time with
  | none => .error (.plain "RangeError" "Invalid time value")
  | some time => do
    let field (t : Text) : Text := ("[" : Text) ++ t ++ ("] " : Text)
    return field time.text ++ field (Text.padEnd e.level.name.toUpper 5 ' ') ++
      field (e.run.getD "no-run-id") ++ e.message ++ (← contextText e.context)

end LogEntry

namespace RunId

def byteText (b : UInt8) : Text :=
  [CodeUnit.hexDigit (b.toNat / 16), CodeUnit.hexDigit (b.toNat % 16)]

/-- The name of a run: its date, and some bytes to tell it from other runs of that day. -/
def make (start : Option Instant) (bytes : List UInt8) : Except ErrorReport Text :=
  match start with
  | none => .error (.plain "RangeError" "Invalid time value")
  | some time =>
    .ok ((time.text.take 10).filter (fun (c : CodeUnit) => c != '-') ++ ("-" : Text) ++
      bytes.flatMap byteText)

end RunId

end LineTemplate

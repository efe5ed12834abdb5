import LineTemplate.ErrorReport
import LineTemplate.Number.Reading
import LineTemplate.Script.Datum

/-!
Options of expansion and of evaluation. A set of options is an object with known keys only; a missing
or undefined value takes its default. All that is wrong is reported at once: first the known keys in
their fixed order, then the unknown keys together.
-/

set_option autoImplicit false

namespace LineTemplate

namespace Datum

def kindName : Datum → Text
  | .undefined => "undefined"
  | .null => "null"
  | .bool _ => "boolean"
  | .number x => if x.isNaN then "nan" else "number"
  | .bigint _ => "bigint"
  | .text _ => "string"
  | .symbol _ => "symbol"
  | .array _ => "array"
  | .map _ => "map"
  | .set _ => "set"
  | .function _ | .someFunction => "function"
  | .object _ | .boxedText _ | .error _ _ _ | .generator _ | .iterable _ | .someIterable => "object"

def isRecord (d : Datum) : Bool := d.kindName == "object"

end Datum

/-- The outcome of checking one value: what it is taken as, or the issues with it. -/
abbrev Checked (α : Type) := Except (List OptionIssue) α

namespace Options

def expected (wanted : String) (key : List PathStep) (found : Text) : OptionIssue :=
  ⟨key, ("Expected " : Text) ++ (wanted : Text) ++ (", received " : Text) ++ found⟩

def valueAt (members : Members Datum) (key : Text) : Datum := (members.get? key).getD .undefined

def flag (members : Members Datum) (key : Text) (otherwise : Bool) : Checked Bool :=
  match valueAt members key with
  | .undefined => .ok otherwise
  | .bool b => .ok b
  | d => .error [expected "boolean" [.key key] d.kindName]

/-- A whole number that is not negative. Both faults of a negative fraction are reported. -/
def count (members : Members Datum) (key : Text) (otherwise : Float) : Checked Float :=
  match valueAt members key with
  | .undefined => .ok otherwise
  | .number x =>
    if x.isNaN then .error [expected "number" [.key key] "nan"]
    else
      let whole : List OptionIssue :=
        if Number.isInteger x then [] else [expected "integer" [.key key] "float"]
      let least : List OptionIssue :=
        if x < 0 then [⟨[.key key], "Number must be greater than or equal to 0"⟩] else []
      if (whole ++ least).isEmpty then .ok x else .error (whole ++ least)
  | d => .error [expected "number" [.key key] d.kindName]

def unknownKeys (members : Members Datum) (known : List Text) : List OptionIssue :=
  let extra := members.filterMap fun m => if known.contains m.1 then none else some m.1
  if extra.isEmpty then []
  else
    let names := extra.map fun k => ("'" : Text) ++ k ++ ("'" : Text)
    [⟨[], ("Unrecognized key(s) in object: " : Text) ++ Text.join ", " names⟩]

/-- The members of a set of options, where undefined stands for an empty set. -/
def membersOf (input : Datum) : Checked (Members Datum) :=
  match input with
  | .undefined => .ok []
  | d => if d.isRecord then .ok d.members else .error [expected "object" [] d.kindName]

def issuesOf {α : Type} : Checked α → List OptionIssue
  | .ok _ => []
  | .error issues => issues

def reported (optionSet : String) (issues : List OptionIssue) : ErrorReport :=
  .invalidOptions optionSet issues none

end Options

structure ExpansionOptions where
  /-- The columns put before every emitted line, a whole number that is not negative. -/
  indentColumns : Float
  useAltDelimiters : Bool

namespace ExpansionOptions

def parse (input : Datum) : Except ErrorReport ExpansionOptions :=
  match Options.membersOf input with
  | .error issues => .error (Options.reported "expansion options" issues)
  | .ok members =>
    let indent := Options.count members "indentColumns" 0
    let alternate := Options.flag members "useAltDelimiters" false
    let unknown := Options.unknownKeys members ["indentColumns", "useAltDelimiters"]
    match indent, alternate, unknown with
    | .ok indentColumns, .ok useAltDelimiters, [] => .ok ⟨indentColumns, useAltDelimiters⟩
    | _, _, _ =>
      .error (Options.reported "expansion options"
        (Options.issuesOf indent ++ Options.issuesOf alternate ++ unknown))

def toDatum (o : ExpansionOptions) : Datum :=
  .record [("indentColumns", .number o.indentColumns), ("useAltDelimiters", .bool o.useAltDelimiters)]

def columns (o : ExpansionOptions) : Nat := Number.truncateSize o.indentColumns

end ExpansionOptions

structure EvaluationOptions where
  returnAsLines : Bool
  /-- Keep lines of blanks as they are. -/
  preserveBlankLines : Bool
  /-- Keep empty lines. -/
  preserveEmptyLines : Bool
deriving DecidableEq, Repr

namespace EvaluationOptions

def parse (input : Datum) : Except ErrorReport EvaluationOptions :=
  match Options.membersOf input with
  | .error issues => .error (Options.reported "evaluation options" issues)
  | .ok members =>
    let asLines := Options.flag members "returnAsLines" false
    let blank := Options.flag members "preserveBlankLines" true
    let empty := Options.flag members "preserveEmptyLines" true
    let unknown :=
      Options.unknownKeys members ["returnAsLines", "preserveBlankLines", "preserveEmptyLines"]
    match asLines, blank, empty, unknown with
    | .ok returnAsLines, .ok preserveBlankLines, .ok preserveEmptyLines, [] =>
      .ok ⟨returnAsLines, preserveBlankLines, preserveEmptyLines⟩
    | _, _, _, _ =>
      .error (Options.reported "evaluation options"
        (Options.issuesOf asLines ++ Options.issuesOf blank ++ Options.issuesOf empty ++ unknown))

def toDatum (o : EvaluationOptions) : Datum :=
  .record [("returnAsLines", .bool o.returnAsLines),
    ("preserveBlankLines", .bool o.preserveBlankLines),
    ("preserveEmptyLines", .bool o.preserveEmptyLines)]

end EvaluationOptions

end LineTemplate

import LineTemplate.Config.Variables

/-!
Files of variables. Each assignment stands on a line of its own, as `NAME=value`; a value may be
quoted, and a number sign outside quotes starts a comment. Lines that are no assignment do not count.
-/

set_option autoImplicit false

namespace LineTemplate

namespace Assignments

def withPlainLineEnds : Text → Text
  | [] => []
  | [c] => [if c = 0x0D then 0x0A else c]
  | c :: d :: rest =>
    if c = 0x0D then
      if d = 0x0A then 0x0A :: withPlainLineEnds rest else 0x0A :: withPlainLineEnds (d :: rest)
    else c :: withPlainLineEnds (d :: rest)

def isNameUnit (c : CodeUnit) : Bool :=
  c.isDigit || (0x61 ≤ c && c ≤ 0x7A) || (0x41 ≤ c && c ≤ 0x5A) || c = '_' || c = '.' || c = '-'

def takeName? (t : Text) : Option (Text × Text) :=
  match t.takeWhile isNameUnit with
  | [] => none
  | name => some (name, t.drop name.length)

def afterSign? (t : Text) : Option Text :=
  match t.dropWhile CodeUnit.isBlank with
  | [] => none
  | c :: rest =>
    if c = '=' then some rest
    else
      match t with
      | d :: blank :: after => if d = ':' && blank.isBlank then some after else none
      | _ => none

/-- The name at the start of a line, after the word `export` if it is there, and what follows the
sign after it. -/
def takeLeft? (t : Text) : Option (Text × Text) := do
  let (name, rest) ← takeName? t
  let plain : Option (Text × Text) := (afterSign? rest).map fun after => (name, after)
  if name = "export" && (rest.head?.map CodeUnit.isBlank).getD false then
    let exported : Option (Text × Text) := do
      let (name, rest) ← takeName? (rest.dropWhile CodeUnit.isBlank)
      return (name, ← afterSign? rest)
    exported.or plain
  else plain

/-- The units up to the closing quote, and what follows it. A backslash before a quote keeps it from
closing, unless no other quote follows. -/
def closeQuote? (quote : CodeUnit) : Text → Option (Text × Text)
  | [] => none
  | [c] => if c = quote then some ([], []) else none
  | c :: d :: rest =>
    if c = quote then some ([], d :: rest)
    else if c = '\\' && d = quote then
      match closeQuote? quote rest with
      | some (inside, after) => some (c :: d :: inside, after)
      | none => some ([c], rest)
    else (closeQuote? quote (d :: rest)).map fun (inside, after) => (c :: inside, after)

def endsLine (t : Text) : Bool :=
  let blanks := t.takeWhile CodeUnit.isBlank
  blanks.contains 0x0A ||
    match t.drop blanks.length with
    | [] => true
    | c :: _ => c = '#'

def isQuote (c : CodeUnit) : Bool := c = 0x27 || c = '"' || c = 0x60

def takeQuoted? (t : Text) : Option (Text × Text) :=
  match t.dropWhile CodeUnit.isBlank with
  | [] => none
  | c :: rest =>
    if isQuote c then
      match closeQuote? c rest with
      | some (inside, after) => if endsLine after then some (c :: inside ++ [c], after) else none
      | none => none
    else none

def takePlain (t : Text) : Text × Text :=
  let value := t.takeWhile fun (c : CodeUnit) => c != 0x0A && c != '#'
  (value, t.drop value.length)

def withLineEnds : Text → Text
  | [] => []
  | [c] => [c]
  | c :: d :: rest =>
    if c = '\\' && d = 'n' then 0x0A :: withLineEnds rest
    else if c = '\\' && d = 'r' then 0x0D :: withLineEnds rest
    else c :: withLineEnds (d :: rest)

/-- The value that is meant: without blanks around it and without its quotes. Between double quotes
the escapes of line ends count. -/
def meaning (written : Text) : Text :=
  let t := written.trim
  match t with
  | [] => []
  | c :: rest =>
    let body := if isQuote c && rest.getLast? = some c then rest.dropLast else t
    if c = '"' then withLineEnds body else body

def take? (t : Text) : Option ((Text × Text) × Text) := do
  let (name, rest) ← takeLeft? (t.dropWhile CodeUnit.isBlank)
  let (written, after) := (takeQuoted? rest).getD (takePlain rest)
  return ((name, meaning written), after)

def afterLine (t : Text) : Text := (t.dropWhile fun (c : CodeUnit) => c != 0x0A).drop 1

def readLines : Nat → Members Text → Text → Members Text
  | 0, sofar, _ => sofar
  | limit + 1, sofar, t =>
    match t with
    | [] => sofar
    | _ =>
      match take? t with
      | some ((name, value), after) => readLines limit (sofar.set name value) (afterLine after)
      | none => readLines limit sofar (afterLine t)

def read (t : Text) : Variables := readLines (t.length + 1) [] (withPlainLineEnds t)

end Assignments

namespace Variables

/-- The variables with those of a file added; one that is already set keeps its text. -/
def withFile (v : Variables) (content : Text) : Variables := Members.setAll (Assignments.read content) v

end Variables

end LineTemplate

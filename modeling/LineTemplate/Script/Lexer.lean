import LineTemplate.Number.Reading
import LineTemplate.Script.Token
import LineTemplate.Text.IdentifierTable

/-!
From code to tokens. Lines end at LF, CR, CR LF taken as one, and the two Unicode separators. Inside a
quoted text LF and CR may only follow a backslash; the separators may stand there, and end lines there too.
-/

set_option autoImplicit false

namespace LineTemplate.Script

/-- The number of lines that end with this unit, given what follows it: a CR before an LF leaves the
count to the LF. -/
def lineEndsAt (c : CodeUnit) (rest : Text) : Nat :=
  if c = 0x0D ∧ rest.head? = some 0x0A then 0 else if c.isLineEnd then 1 else 0

inductive SkipMode where
  | between
  | lineComment
  /-- The line on which the comment starts. -/
  | blockComment (start : Nat)

structure Skipped where
  rest : Text
  line : Nat
  broke : Bool
  /-- The line of a comment that is never closed. -/
  unclosed : Option Nat

/-- Whether a comment that lasts to the end of the line starts at the start of a text: the marks of
markup count too, the closing one only where a line starts. -/
def startsLineComment (broke : Bool) (t : Text) : Bool :=
  ("//" : Text).isPrefixOf t || ("<!--" : Text).isPrefixOf t || (broke && ("-->" : Text).isPrefixOf t)

def skip : SkipMode → Nat → Bool → Text → Skipped
  | .blockComment start, line, broke, [] => ⟨[], line, broke, some start⟩
  | _, line, broke, [] => ⟨[], line, broke, none⟩
  | .between, line, broke, c :: rest =>
    if c.isLineEnd then skip .between (line + lineEndsAt c rest) true rest
    else if c.isBlank then skip .between line broke rest
    else if startsLineComment broke (c :: rest) then skip .lineComment line broke rest
    else
      match rest with
      | [] => ⟨c :: rest, line, broke, none⟩
      | d :: after =>
        if c = '/' && d = '*' then skip (.blockComment line) line broke after
        else ⟨c :: d :: after, line, broke, none⟩
  | .lineComment, line, broke, c :: rest =>
    if c.isLineEnd then skip .between (line + lineEndsAt c rest) true rest
    else skip .lineComment line broke rest
  | .blockComment start, line, broke, c :: rest =>
    if c.isLineEnd then skip (.blockComment start) (line + lineEndsAt c rest) true rest
    else if c = '*' then
      match rest with
      | [] => ⟨[], line, broke, some start⟩
      | d :: after =>
        if d = '/' then skip .between line broke after
        else skip (.blockComment start) line broke (d :: after)
    else skip (.blockComment start) line broke rest

def startsName (n : Nat) : Bool :=
  if n < 0x80 then (0x41 ≤ n && n ≤ 0x5A) || (0x61 ≤ n && n ≤ 0x7A) || n == 0x24 || n == 0x5F
  else IdentifierTable.holds IdentifierTable.starts n

def continuesName (n : Nat) : Bool :=
  startsName n || (0x30 ≤ n && n ≤ 0x39) || n == 0x200C || n == 0x200D ||
    (0x80 ≤ n && IdentifierTable.holds IdentifierTable.continues n)

def takePoint : Text → Text × Text
  | [] => ([], [])
  | [c] => ([c], [])
  | c :: d :: rest =>
    if c.isHighSurrogate && d.isLowSurrogate then ([c, d], rest) else ([c], d :: rest)

def pointOf (units : Text) : Nat := units.codePoints.headD 0

def takeName : Text → Text × Text
  | [] => ([], [])
  | [c] => if continuesName c.toNat then ([c], []) else ([], [c])
  | c :: d :: rest =>
    if c.isHighSurrogate && d.isLowSurrogate then
      if continuesName (pointOf [c, d]) then
        let (name, after) := takeName rest
        (c :: d :: name, after)
      else ([], c :: d :: rest)
    else if continuesName c.toNat then
      let (name, after) := takeName (d :: rest)
      (c :: name, after)
    else ([], c :: d :: rest)

def takeHex? : Nat → Nat → Text → Option (Nat × Text)
  | 0, value, t => some (value, t)
  | _ + 1, _, [] => none
  | count + 1, value, c :: rest => do
    let d ← c.digitValue?
    takeHex? count (value * 16 + d) rest

def takeOctal : Nat → Nat → Text → Nat × Text
  | 0, value, t => (value, t)
  | _ + 1, value, [] => (value, [])
  | count + 1, value, c :: rest =>
    if 0x30 ≤ c && c ≤ 0x37 then takeOctal count (value * 8 + (c.toNat - 0x30)) rest
    else (value, c :: rest)

/-- The escape after a backslash: the text it stands for, the lines it ends, and what follows. Octal
escapes are read where they are allowed. -/
def takeEscape? (octal : Bool) : Text → Option (Text × Nat × Text)
  | [] => none
  | c :: rest =>
    if c = 'n' then some ([0x0A], 0, rest)
    else if c = 't' then some ([0x09], 0, rest)
    else if c = 'r' then some ([0x0D], 0, rest)
    else if c = 'b' then some ([0x08], 0, rest)
    else if c = 'f' then some ([0x0C], 0, rest)
    else if c = 'v' then some ([0x0B], 0, rest)
    else if c = '0' && !(rest.head?.any CodeUnit.isDigit) then some ([0], 0, rest)
    else if c.isDigit then
      if !octal then none
      else if c < 0x38 then
        let (value, after) := takeOctal (if c < 0x34 then 2 else 1) (c.toNat - 0x30) rest
        some ([value.toUInt16], 0, after)
      else some ([c], 0, rest)
    else if c = 'x' then (takeHex? 2 0 rest).map fun (n, after) => ([n.toUInt16], 0, after)
    else if c = 'u' then
      match rest with
      | [] => none
      | d :: inner =>
        if d = '\x7b' then
          let (value, count, after) := Number.takeDigits 16 0 0 inner
          match after with
          | closing :: remaining =>
            if closing = '\x7d' ∧ 0 < count ∧ value ≤ 0x10FFFF then
              some (Text.ofCodePoint value, 0, remaining)
            else none
          | [] => none
        else (takeHex? 4 0 rest).map fun (n, after) => ([n.toUInt16], 0, after)
    else if c.isLineEnd then
      if c = 0x0D ∧ rest.head? = some 0x0A then some ([], 1, rest.drop 1) else some ([], 1, rest)
    else some ([c], 0, rest)

/-- The units up to the closing quote: the value, the lines that end inside, and what follows. The
first argument bounds the number of units. -/
def takeQuoted? (quote : CodeUnit) : Nat → Text → Option (Text × Nat × Text)
  | 0, _ => none
  | _ + 1, [] => none
  | fuel + 1, c :: rest =>
    if c = quote then some ([], 0, rest)
    else if c = 0x0A ∨ c = 0x0D then none
    else if c = '\\' then do
      let (value, lines, after) ← takeEscape? true rest
      let (others, more, remaining) ← takeQuoted? quote fuel after
      some (value ++ others, lines + more, remaining)
    else do
      let (others, lines, remaining) ← takeQuoted? quote fuel rest
      some (c :: others, lineEndsAt c rest + lines, remaining)

structure Stretch where
  value : Text
  /-- Whether it ends at an expression, not at the end of the text. -/
  more : Bool
  lines : Nat
  rest : Text

/-- The units up to the closing mark or the next expression. A line end inside counts as LF. -/
def takeStretch? : Nat → Text → Option Stretch
  | 0, _ => none
  | _ + 1, [] => none
  | fuel + 1, c :: rest =>
    if c = '\x60' then some ⟨[], false, 0, rest⟩
    else if c = '$' && rest.head? == some (CodeUnit.ofChar '\x7b') then
      some ⟨[], true, 0, rest.drop 1⟩
    else if c = '\\' then do
      let (value, lines, after) ← takeEscape? false rest
      let s ← takeStretch? fuel after
      some { s with value := value ++ s.value, lines := lines + s.lines }
    else do
      let s ← takeStretch? fuel rest
      if c = 0x0D then
        let value := if rest.head? = some 0x0A then s.value else 0x0A :: s.value
        some { s with value := value, lines := s.lines + lineEndsAt c rest }
      else some { s with value := c :: s.value, lines := s.lines + lineEndsAt c rest }

def marks : List Text :=
  List.map Text.ofString [">>>=", "===", "!==", "**=", "...", "<<=", ">>=", ">>>", "&&=", "||=", "??=",
    "=>", "==", "!=", "<=", ">=", "&&", "||", "??", "++", "--", "+=", "-=", "*=", "/=", "%=", "**", "?.",
    "<<", ">>", "&=", "|=", "^=", "\x7b", "\x7d", "(", ")", "[", "]", ";", ",", "<", ">", "+", "-", "*",
    "/", "%", "&", "|", "^", "!", "~", "?", ":", "=", "."]

structure Scanned where
  kind : TokenKind
  lines : Nat
  rest : Text

def Scanned.failed : Scanned := ⟨.invalid, 0, []⟩

/-- The digits of a number that starts with a zero and another digit count eights, unless one of
them is eight or nine. -/
def leadingZero? (t : Text) : Option (Nat × Text) :=
  match t with
  | z :: d :: _ =>
    if z = '0' && d.isDigit then
      let digits := t.takeWhile CodeUnit.isDigit
      if digits.all fun c => c < 0x38 then
        some (digits.foldl (fun n c => n * 8 + (c.toNat - 0x30)) 0, t.drop digits.length)
      else none
    else none
  | _ => none

def scanNumber (t : Text) : Scanned :=
  let ends (value : Float) (rest : Text) : Scanned :=
    if continuesName (pointOf (takePoint rest).1) && !rest.isEmpty then .failed
    else ⟨.number value, 0, rest⟩
  match Number.markedBase? t, leadingZero? t with
  | some (base, digits), _ =>
    let (value, count, rest) := Number.takeDigits base 0 0 digits
    if count = 0 then .failed else ends (Number.ofDecimal value 0) rest
  | none, some (value, rest) => ends (Number.ofDecimal value 0) rest
  | none, none =>
    match Number.takeDecimal? t with
    | some (value, rest) => ends value rest
    | none => .failed

def scanMark (t : Text) : Scanned :=
  match marks.find? fun m => m.isPrefixOf t with
  | some m => ⟨.mark m, 0, t.drop m.length⟩
  | none => .failed

def scanStretch (first : Bool) (t : Text) : Scanned :=
  match takeStretch? (t.length + 1) t with
  | some s =>
    let kind : TokenKind :=
      if first then .templateStart s.value s.more else .templateNext s.value s.more
    ⟨kind, s.lines, s.rest⟩
  | none => .failed

def scanToken (t : Text) : Scanned :=
  match t with
  | [] => ⟨.finish, 0, []⟩
  | c :: rest =>
    if c = '"' ∨ c = '\'' then
      match takeQuoted? c (rest.length + 1) rest with
      | some (value, lines, after) => ⟨.text value, lines, after⟩
      | none => .failed
    else if c = '\x60' then scanStretch true rest
    else if c.isDigit || (c = '.' && rest.head?.any CodeUnit.isDigit) then scanNumber t
    else if startsName (pointOf (takePoint t).1) then
      let (name, after) := takeName t
      ⟨.word name, 0, after⟩
    else scanMark t

/-- The token at the start of a text, and the brace depths after it. `depths` counts, for each text
with expressions that is open, the braces open in its present expression. -/
def scanNested (depths : List Nat) (t : Text) : Scanned × List Nat :=
  match t, depths with
  | c :: rest, depth :: outer =>
    if c = '\x7d' then
      match depth with
      | 0 => reopened (scanStretch false rest) outer
      | d + 1 => (scanToken t, d :: outer)
    else if c = '\x7b' then (scanToken t, (depth + 1) :: outer)
    else reopened (scanToken t) depths
  | _, _ => reopened (scanToken t) depths
where
  /-- A stretch that ends at an expression opens a new depth. -/
  reopened (token : Scanned) (depths : List Nat) : Scanned × List Nat :=
    match token.kind with
    | .templateStart _ true | .templateNext _ true => (token, 0 :: depths)
    | _ => (token, depths)

def lexFrom : Nat → List Nat → Spot → Text → List Token
  | 0, _, spot, t => [⟨.finish, spot, false, t, t⟩]
  | fuel + 1, depths, spot, t =>
    let s := skip .between spot.line false t
    match s.unclosed with
    | some start => [⟨.invalid, ⟨spot.token, start⟩, s.broke, [], []⟩]
    | none =>
      let (token, inner) := scanNested depths s.rest
      let first : Token := ⟨token.kind, ⟨spot.token, s.line⟩, s.broke, s.rest, token.rest⟩
      match token.kind with
      | .invalid | .finish => [first]
      | _ => first :: lexFrom fuel inner ⟨spot.token + 1, s.line + token.lines⟩ token.rest

/-- The tokens of some code; the last one is its end or the first thing that is no token. -/
def lex (code : Text) : List Token := lexFrom (code.length + 1) [] ⟨1, 1⟩ code

end LineTemplate.Script

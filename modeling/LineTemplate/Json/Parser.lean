import LineTemplate.Json.Basic
import LineTemplate.Number.Reading

/-!
Reading JSON. The grammar is the strict one: no trailing commas, no comments, no leading zeros, no
raw controls in texts. A key that occurs twice keeps its first place and its last value.
-/

set_option autoImplicit false

namespace LineTemplate.Json

def isSpace (c : CodeUnit) : Bool := c == 0x20 || c == 0x09 || c == 0x0A || c == 0x0D

def skipSpace (t : Text) : Text := t.dropWhile isSpace

def takeHex4? : Text → Option (CodeUnit × Text)
  | a :: b :: c :: d :: rest => do
    let w ← a.digitValue?
    let x ← b.digitValue?
    let y ← c.digitValue?
    let z ← d.digitValue?
    some ((((w * 16 + x) * 16 + y) * 16 + z).toUInt16, rest)
  | _ => none

def escapedUnit? (c : CodeUnit) : Option CodeUnit :=
  if c = '"' ∨ c = '\\' ∨ c = '/' then some c
  else if c = 'b' then some 0x08
  else if c = 'f' then some 0x0C
  else if c = 'n' then some 0x0A
  else if c = 'r' then some 0x0D
  else if c = 't' then some 0x09
  else none

/-- The units of a text whose opening quote is read, and what follows its closing quote. The first
argument bounds the number of units. -/
def takeText? : Nat → Text → Option (Text × Text)
  | 0, _ => none
  | _ + 1, [] => none
  | fuel + 1, c :: rest =>
    if c = '"' then some ([], rest)
    else if c < 0x20 then none
    else if c = '\\' then
      match rest with
      | [] => none
      | e :: afterLetter => do
        let (unit, after) ←
          if e = 'u' then takeHex4? afterLetter else (escapedUnit? e).map fun u => (u, afterLetter)
        let (units, remaining) ← takeText? fuel after
        some (unit :: units, remaining)
    else do
      let (units, remaining) ← takeText? fuel rest
      some (c :: units, remaining)

/-- A number at the start of a text: no leading zero before another digit, a digit on both sides of
the point and after the exponent mark. -/
def takeNumber? (t : Text) : Option (Float × Text) :=
  let (negative, body) : Bool × Text :=
    match t with
    | [] => (false, [])
    | c :: rest => if c = '-' then (true, rest) else (false, t)
  let (whole, wholeCount, afterWhole) := Number.takeDigits 10 0 0 body
  let leadingZero := wholeCount > 1 && body.head? == some (CodeUnit.ofChar '0')
  if wholeCount = 0 || leadingZero then none
  else do
    let (value, count, afterFraction) ←
      match afterWhole with
      | [] => some (whole, wholeCount, afterWhole)
      | c :: rest =>
        if c = '.' then
          let (value, count, after) := Number.takeDigits 10 whole wholeCount rest
          if count = wholeCount then none else some (value, count, after)
        else some (whole, wholeCount, afterWhole)
    let (exponent, after) := Number.takeExponent afterFraction
    if after.length = afterFraction.length &&
        (afterFraction.head? == some (CodeUnit.ofChar 'e') ||
          afterFraction.head? == some (CodeUnit.ofChar 'E')) then none
    else
      let size := Number.ofDecimal value (exponent - ((count - wholeCount : Nat) : Int))
      some (if negative then -size else size, after)

def takeWord? (word : Text) (t : Text) : Option Text :=
  if word.isPrefixOf t then some (t.drop word.length) else none

mutual

/-- A value at the start of a text, and what follows it. The first argument bounds the steps. -/
def takeValue? : Nat → Text → Option (Json × Text)
  | 0, _ => none
  | fuel + 1, t =>
    match skipSpace t with
    | [] => none
    | c :: rest =>
      if c = '"' then
        (takeText? (rest.length + 1) rest).map fun (content, after) => (.text content, after)
      else if c = '[' then
        match skipSpace rest with
        | [] => none
        | d :: after =>
          if d = ']' then some (.array [], after)
          else (takeItems? fuel rest).map fun (items, remaining) => (.array items, remaining)
      else if c = '\x7b' then
        match skipSpace rest with
        | [] => none
        | d :: after =>
          if d = '\x7d' then some (.object [], after)
          else (takeMembers? fuel [] rest).map fun (members, remaining) => (.object members, remaining)
      else if c = 'n' then (takeWord? "null" (c :: rest)).map fun after => (.null, after)
      else if c = 't' then (takeWord? "true" (c :: rest)).map fun after => (.bool true, after)
      else if c = 'f' then (takeWord? "false" (c :: rest)).map fun after => (.bool false, after)
      else (takeNumber? (c :: rest)).map fun (x, after) => (.number x, after)

def takeItems? : Nat → Text → Option (List Json × Text)
  | 0, _ => none
  | fuel + 1, t => do
    let (item, after) ← takeValue? fuel t
    match skipSpace after with
    | [] => none
    | c :: rest =>
      if c = ']' then some ([item], rest)
      else if c = ',' then do
        let (items, remaining) ← takeItems? fuel rest
        some (item :: items, remaining)
      else none

def takeMembers? : Nat → Members Json → Text → Option (Members Json × Text)
  | 0, _, _ => none
  | fuel + 1, members, t =>
    match skipSpace t with
    | [] => none
    | quote :: afterQuote =>
      if quote ≠ '"' then none
      else do
        let (key, afterKey) ← takeText? (afterQuote.length + 1) afterQuote
        match skipSpace afterKey with
        | [] => none
        | colon :: afterColon =>
          if colon ≠ ':' then none
          else do
            let (value, after) ← takeValue? fuel afterColon
            let members := members.set key value
            match skipSpace after with
            | [] => none
            | c :: rest =>
              if c = '\x7d' then some (members, rest)
              else if c = ',' then takeMembers? fuel members rest
              else none

end

def parse? (t : Text) : Option Json :=
  match takeValue? (t.length + 1) t with
  | some (value, rest) => if (skipSpace rest).isEmpty then some value else none
  | none => none

end LineTemplate.Json

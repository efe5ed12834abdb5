import LineTemplate.Number.Reading

/-!
Instants: milliseconds since the start of 1970, in universal time. They are written as
`2024-01-15T10:00:00.000Z`, where a year outside 0 to 9999 has a sign and six digits.
-/

set_option autoImplicit false

namespace LineTemplate

abbrev Instant := Int

namespace Instant

/-- The farthest an instant may lie from the start of 1970, in milliseconds. -/
def limit : Int := 8640000000000000

def ofMilliseconds? (ms : Int) : Option Instant :=
  if -limit ≤ ms ∧ ms ≤ limit then some ms else none

/-- The instant of a number of milliseconds, cut toward zero. -/
def ofNumber? (x : Float) : Option Instant :=
  if x.isFinite && x.abs ≤ 8640000000000000 then some (Number.truncate x) else none

/-- Year, month and day of a day counted from the start of 1970. Years are taken to start in March,
so that the leap day ends them. -/
def civil (day : Int) : Int × Int × Int :=
  let shifted := day + 719468
  let era := shifted.fdiv 146097
  let dayOfEra := shifted - era * 146097
  let yearOfEra := (dayOfEra - dayOfEra / 1460 + dayOfEra / 36524 - dayOfEra / 146096) / 365
  let dayOfYear := dayOfEra - (365 * yearOfEra + yearOfEra / 4 - yearOfEra / 100)
  let fromMarch := (5 * dayOfYear + 2) / 153
  let month := if fromMarch < 10 then fromMarch + 3 else fromMarch - 9
  let year := yearOfEra + era * 400 + (if month ≤ 2 then 1 else 0)
  (year, month, dayOfYear - (153 * fromMarch + 2) / 5 + 1)

def monthStart (year month : Int) : Int :=
  let marchYear := if month ≤ 2 then year - 1 else year
  let fromMarch := if month ≤ 2 then month + 9 else month - 3
  let era := marchYear.fdiv 400
  let yearOfEra := marchYear - era * 400
  let dayOfYear := (153 * fromMarch + 2) / 5
  era * 146097 + yearOfEra * 365 + yearOfEra / 4 - yearOfEra / 100 + dayOfYear - 719468

def padded (width : Nat) (n : Nat) : Text :=
  let digits := Text.ofNat n
  List.replicate (width - digits.length) (0x30 : CodeUnit) ++ digits

def yearText (year : Int) : Text :=
  if 0 ≤ year ∧ year ≤ 9999 then padded 4 year.natAbs
  else (if year < 0 then ("-" : Text) else ("+" : Text)) ++ padded 6 year.natAbs

def text (t : Instant) : Text :=
  let day := t.fdiv 86400000
  let ms := (t - day * 86400000).toNat
  let (year, month, date) := civil day
  yearText year ++ ("-" : Text) ++ padded 2 month.natAbs ++ ("-" : Text) ++ padded 2 date.natAbs ++
    ("T" : Text) ++ padded 2 (ms / 3600000) ++ (":" : Text) ++ padded 2 (ms / 60000 % 60) ++
    (":" : Text) ++ padded 2 (ms / 1000 % 60) ++ ("." : Text) ++ padded 3 (ms % 1000) ++ ("Z" : Text)

def takeDigits? (count : Nat) (t : Text) : Option (Int × Text) :=
  let digits := t.take count
  if digits.length = count ∧ digits.all CodeUnit.isDigit then
    some (digits.foldl (fun n d => n * 10 + ((d.toNat : Int) - 0x30)) 0, t.drop count)
  else none

def takeAfter? (mark : Char) (count : Nat) (otherwise : Int) (t : Text) : Option (Int × Text) :=
  match t with
  | [] => some (otherwise, [])
  | c :: rest => if c = mark then takeDigits? count rest else some (otherwise, t)

def takeYear? (t : Text) : Option (Int × Text) :=
  match t with
  | [] => none
  | c :: rest =>
    if c = '+' then takeDigits? 6 rest
    else if c = '-' then
      match takeDigits? 6 rest with
      | some (year, after) => if year = 0 then none else some (-year, after)
      | none => none
    else takeDigits? 4 t

def takeFraction? (t : Text) : Option (Int × Text) :=
  match t with
  | [] => some (0, [])
  | c :: rest =>
    if c = '.' then
      let digits := rest.takeWhile CodeUnit.isDigit
      if digits.isEmpty then none
      else
        let three := (digits ++ ("00" : Text)).take 3
        some (three.foldl (fun n d => n * 10 + ((d.toNat : Int) - 0x30)) 0, rest.drop digits.length)
    else some (0, t)

def offset? (t : Text) : Option Int :=
  match t with
  | [] => some 0
  | c :: rest => do
    if c = 'Z' then if rest.isEmpty then return 0 else failure
    let (hours, rest) ← takeDigits? 2 rest
    let (minutes, rest) ← takeAfter? ':' 2 (-1) rest
    if !rest.isEmpty || minutes < 0 || hours > 23 || minutes > 59 then failure
    if c = '+' then return hours * 60 + minutes
    if c = '-' then return -(hours * 60 + minutes)
    failure

def timeOfDay? (t : Text) : Option Int := do
  let (hour, rest) ← takeDigits? 2 t
  let (minute, rest) ← takeAfter? ':' 2 (-1) rest
  let (second, rest) ← takeAfter? ':' 2 0 rest
  let (ms, rest) ← takeFraction? rest
  let offset ← offset? rest
  if minute < 0 || minute > 59 || second > 59 then failure
  if hour > 24 || (hour = 24 && (minute ≠ 0 || second ≠ 0 || ms ≠ 0)) then failure
  return ((hour * 60 + minute - offset) * 60 + second) * 1000 + ms

def ofText? (t : Text) : Option Instant := do
  let (year, rest) ← takeYear? t
  let (month, rest) ← takeAfter? '-' 2 1 rest
  let (date, rest) ← takeAfter? '-' 2 1 rest
  if month < 1 || month > 12 || date < 1 || date > 31 then failure
  let day := monthStart year month + date - 1
  match rest with
  | [] => ofMilliseconds? (day * 86400000)
  | c :: time => if c = 'T' then ofMilliseconds? (day * 86400000 + (← timeOfDay? time)) else failure

end Instant

end LineTemplate

/-!
Text as a list of UTF-16 code units. Lengths, positions and the order of texts are all counted in
code units: a character beyond the basic plane has length two, and cutting may leave half of it.
-/

set_option autoImplicit false

namespace LineTemplate

/-- One unit of UTF-16. -/
abbrev CodeUnit := UInt16

namespace CodeUnit

def ofChar (c : Char) : CodeUnit := c.val.toUInt16

instance : Coe Char CodeUnit := ⟨ofChar⟩

def isHighSurrogate (c : CodeUnit) : Bool := 0xD800 ≤ c && c < 0xDC00

def isLowSurrogate (c : CodeUnit) : Bool := 0xDC00 ≤ c && c < 0xE000

def isDigit (c : CodeUnit) : Bool := 0x30 ≤ c && c ≤ 0x39

def digitValue? (c : CodeUnit) : Option Nat :=
  if isDigit c then some (c.toNat - 0x30)
  else if 0x61 ≤ c && c ≤ 0x66 then some (c.toNat - 0x57)
  else if 0x41 ≤ c && c ≤ 0x46 then some (c.toNat - 0x37)
  else none

def hexDigit (n : Nat) : CodeUnit := if n < 10 then (0x30 + n).toUInt16 else (0x57 + n).toUInt16

theorem isDigit_iff (c : CodeUnit) : c.isDigit = true ↔ 0x30 ≤ c.toNat ∧ c.toNat ≤ 0x39 := by
  simp only [isDigit, Bool.and_eq_true, decide_eq_true_eq, UInt16.le_iff_toNat_le, UInt16.reduceToNat]

end CodeUnit

/-- A text is its code units in order. Nothing asks them to pair up into characters. -/
abbrev Text := List CodeUnit

namespace Text

/-- What is said of all units of a text is decided by going through the text, not through all units. -/
instance (priority := high) decidableForallUnit (p : CodeUnit → Prop) [DecidablePred p] (t : Text) :
    Decidable (∀ c ∈ t, p c) := List.decidableBAll p t

def ofCodePoint (n : Nat) : Text :=
  if n < 0x10000 then [n.toUInt16]
  else [(0xD7C0 + n / 0x400).toUInt16, (0xDC00 + n % 0x400).toUInt16]

def ofString (s : String) : Text := s.toList.flatMap fun c => ofCodePoint c.toNat

instance : Coe String Text := ⟨ofString⟩

/-- The code points of a text; a surrogate without its partner stands for itself. -/
def codePoints : Text → List Nat
  | [] => []
  | [c] => [c.toNat]
  | c :: d :: rest =>
    if c.isHighSurrogate && d.isLowSurrogate then
      (0x10000 + (c.toNat - 0xD800) * 0x400 + (d.toNat - 0xDC00)) :: codePoints rest
    else c.toNat :: codePoints (d :: rest)

def characters (t : Text) : List Text := t.codePoints.map ofCodePoint

def toString (t : Text) : String :=
  String.ofList (t.codePoints.map fun n => if 0xD800 ≤ n ∧ n < 0xE000 then '\uFFFD' else Char.ofNat n)

/-- The text that remains when it is written as UTF-8: U+FFFD stands for each surrogate without a partner. -/
def wellFormed : Text → Text
  | [] => []
  | [c] => [if c.isHighSurrogate || c.isLowSurrogate then 0xFFFD else c]
  | c :: d :: rest =>
    if c.isHighSurrogate && d.isLowSurrogate then c :: d :: wellFormed rest
    else (if c.isHighSurrogate || c.isLowSurrogate then 0xFFFD else c) :: wellFormed (d :: rest)

def ofNat (n : Nat) : Text := (Nat.toDigits 10 n).map CodeUnit.ofChar

/-- The number of units that the longest text may have. This is an idealisation: texts are lists, and only
scripts and the check of the columns refuse longer ones. What indents lines, writes code or joins the output
does not, so statements about the whole output bound it themselves. -/
def maxLength : Nat := 536870888

def spaces (n : Nat) : Text := List.replicate n ' '

def splitOn (sep : CodeUnit) : Text → List Text
  | [] => [[]]
  | c :: rest =>
    match splitOn sep rest with
    | [] => [[c]]
    | piece :: pieces => if c = sep then [] :: piece :: pieces else (c :: piece) :: pieces

def join (sep : Text) (pieces : List Text) : Text := List.intercalate sep pieces

def padEnd (t : Text) (width : Nat) (pad : CodeUnit) : Text :=
  t ++ List.replicate (width - t.length) pad

/-- The order by code units; a proper start of a text comes before it. -/
def le : Text → Text → Bool
  | [], _ => true
  | _ :: _, [] => false
  | a :: s, b :: t => if a = b then le s t else a < b

def splitEnd (p : CodeUnit → Bool) (t : Text) : Text × Text :=
  ((t.reverse.dropWhile p).reverse, (t.reverse.takeWhile p).reverse)

theorem splitOn_ne_nil (sep : CodeUnit) (t : Text) : splitOn sep t ≠ [] := by
  cases t with
  | nil => simp [splitOn]
  | cons c rest =>
    unfold splitOn
    split
    · simp
    · split <;> simp

@[simp]
theorem join_nil (sep : Text) : join sep [] = [] := rfl

@[simp]
theorem join_singleton (sep piece : Text) : join sep [piece] = piece := List.append_nil piece

@[simp]
theorem join_cons_cons (sep first next : Text) (rest : List Text) :
    join sep (first :: next :: rest) = first ++ (sep ++ join sep (next :: rest)) := by
  simp [join, List.intercalate]

theorem join_cons (sep first : Text) (rest : List Text) :
    join sep (first :: rest) = first ++ rest.flatMap (sep ++ ·) := by
  induction rest generalizing first with
  | nil => simp
  | cons next rest ih => rw [join_cons_cons, ih, List.flatMap_cons, List.append_assoc]

theorem join_cons_append (sep : CodeUnit) (line : Text) (lines : List Text) (last : Text) :
    join [sep] (line :: lines ++ [last]) = line ++ sep :: join [sep] (lines ++ [last]) := by
  cases lines <;> simp

theorem splitEnd_append (p : CodeUnit → Bool) (t : Text) :
    (splitEnd p t).1 ++ (splitEnd p t).2 = t := by
  unfold splitEnd
  rw [← List.reverse_append, List.takeWhile_append_dropWhile, List.reverse_reverse]

end Text

end LineTemplate

import LineTemplate.Proofs.Template.CodeLines
import LineTemplate.Evaluation.Failure

/-!
The lines of generated code that the stack of an error names: its rows are read back to the functions that
were active.
-/

set_option autoImplicit false

namespace LineTemplate

open Script

namespace Text

theorem toNat_ofChar {d : Char} (digit : d.isDigit = true) :
    (CodeUnit.ofChar d).toNat = d.toNat ∧ 0x30 ≤ d.toNat ∧ d.toNat ≤ 0x39 := by
  simp only [Char.isDigit, Bool.and_eq_true, decide_eq_true_eq] at digit
  have least : 0x30 ≤ d.toNat := digit.1
  have most : d.toNat ≤ 0x39 := digit.2
  refine ⟨?_, least, most⟩
  change d.toNat % 65536 = d.toNat
  omega

theorem isDigit_of_mem_ofNat {n : Nat} {c : CodeUnit} (inside : c ∈ ofNat n) : c.isDigit = true := by
  obtain ⟨d, member, rfl⟩ := List.mem_map.1 inside
  obtain ⟨same, least, most⟩ :=
    toNat_ofChar (Nat.isDigit_of_mem_toDigits (by decide) (by decide) member)
  rw [CodeUnit.isDigit_iff, same]
  exact ⟨least, most⟩

theorem foldl_ofNat (n : Nat) :
    (ofNat n).foldl (fun n d => n * 10 + (d.toNat - 0x30)) 0 = n := by
  have digits : ∀ d ∈ Nat.toDigits 10 n, (CodeUnit.ofChar d).toNat = d.toNat := fun d member =>
    (toNat_ofChar (Nat.isDigit_of_mem_toDigits (by decide) (by decide) member)).1
  have sums (ds : List Char) (all : ∀ d ∈ ds, (CodeUnit.ofChar d).toNat = d.toNat) (sofar : Nat) :
      (ds.map CodeUnit.ofChar).foldl (fun n d => n * 10 + (d.toNat - 0x30)) sofar =
        Nat.ofDigitChars 10 ds sofar := by
    induction ds generalizing sofar with
    | nil => rfl
    | cons d ds ih =>
      rw [List.map_cons, List.foldl_cons, Nat.ofDigitChars_cons, all d List.mem_cons_self,
        ih fun d member => all d (List.mem_cons_of_mem _ member), Nat.mul_comm]
      rfl
  exact (sums _ digits 0).trans Nat.ofDigitChars_ten_toDigits

end Text

namespace CodeLine

theorem digits?_ofNat (n : Nat) {c : CodeUnit} {rest : Text} (ends : c.isDigit = false) :
    digits? (Text.ofNat n ++ c :: rest) = some (Number.nearest n, c :: rest) := by
  have taken : (Text.ofNat n ++ c :: rest).takeWhile CodeUnit.isDigit = Text.ofNat n := by
    rw [List.takeWhile_append_of_pos fun d inside => Text.isDigit_of_mem_ofNat inside,
      List.takeWhile_cons_of_neg (by simp [ends]), List.append_nil]
  obtain ⟨d, ds, same⟩ : ∃ d ds, Text.ofNat n = d :: ds := by
    refine List.exists_cons_of_ne_nil fun empty => ?_
    exact Nat.toDigits_ne_nil (List.map_eq_nil_iff.1 empty)
  have value := Text.foldl_ofNat n
  unfold digits?
  rw [taken]
  rw [same] at value ⊢
  change some (Number.nearest ((d :: ds).foldl _ 0), List.drop (d :: ds).length ((d :: ds) ++ c :: rest)) = _
  rw [value, List.drop_left]

def row (f : Frame) : Text :=
  ("    at [template#" : Text) ++ Text.ofNat f.serial ++ ("]:" : Text) ++ Text.ofNat f.line ++ (":1" : Text)

theorem after?_append (lead t : Text) : Text.after? lead (lead ++ t) = some t := by
  unfold Text.after?
  rw [if_pos (by simp), List.drop_left]

theorem atStart?_place (serial line : Nat) {c : CodeUnit} (ends : c.isDigit = false) (rest : Text) :
    atStart? (("[template#" : Text) ++ (Text.ofNat serial ++ (("]:" : Text) ++
      (Text.ofNat line ++ c :: rest)))) = some (Number.nearest serial, Number.nearest line) := by
  have first : digits? (Text.ofNat serial ++ (("]:" : Text) ++ (Text.ofNat line ++ c :: rest))) =
      some (Number.nearest serial, ("]:" : Text) ++ (Text.ofNat line ++ c :: rest)) :=
    digits?_ofNat serial (by decide)
  have second : digits? (Text.ofNat line ++ c :: rest) = some (Number.nearest line, c :: rest) :=
    digits?_ofNat line ends
  unfold atStart?
  rw [after?_append, Option.bind_eq_bind, Option.bind_some, first, Option.bind_eq_bind, Option.bind_some]
  dsimp only
  rw [after?_append, Option.bind_some, second]
  rfl

theorem first?_of_atStart? {t : Text} {found : Nat × Nat} (start : atStart? t = some found) :
    first? t = some found := by
  cases t with
  | nil => cases start
  | cons c rest => rw [first?, start, Option.some_or]

theorem atStart?_of_not_started {t : Text} (off : ¬("[template#" : Text) <+: t) : atStart? t = none := by
  unfold atStart? Text.after?
  rw [if_neg fun starts => off (List.isPrefixOf_iff_prefix.1 starts)]
  rfl

theorem first?_append {lead : Text} (free : ∀ c ∈ lead, c ≠ '[') (t : Text) :
    first? (lead ++ t) = first? t := by
  induction lead with
  | nil => rfl
  | cons c lead ih =>
    have off : ¬("[template#" : Text) <+: c :: (lead ++ t) := by
      rintro ⟨rest, same⟩
      exact free c List.mem_cons_self (List.cons.inj same).1.symm
    rw [List.cons_append, first?, atStart?_of_not_started off, Option.none_or]
    exact ih fun d inside => free d (List.mem_cons_of_mem _ inside)

theorem find?_row {f : Frame} (serial : f.serial < 2 * Number.hiddenBit)
    (line : f.line < 2 * Number.hiddenBit) : find? (row f) f.serial = some f.line := by
  have parts : row f = ("    at " : Text) ++ (("[template#" : Text) ++ (Text.ofNat f.serial ++
      (("]:" : Text) ++ (Text.ofNat f.line ++ (':' : CodeUnit) :: ("1" : Text))))) := by
    unfold row
    simp only [List.append_assoc]
    rfl
  have start := @atStart?_place f.serial f.line ':' (by decide) "1"
  rw [Number.nearest_eq_self _ serial, Number.nearest_eq_self _ line] at start
  unfold find?
  rw [parts, first?_append (by decide), first?_of_atStart? start]
  exact if_pos rfl

theorem lineFeed_notMem_row (f : Frame) : 0x0A ∉ row f := by
  have digits (n : Nat) : 0x0A ∉ Text.ofNat n := fun inside =>
    absurd (Text.isDigit_of_mem_ofNat inside) (by decide)
  have lead : 0x0A ∉ ("    at [template#" : Text) := by decide
  have middle : 0x0A ∉ ("]:" : Text) := by decide
  have trail : 0x0A ∉ (":1" : Text) := by decide
  unfold row
  simp only [List.mem_append, not_or]
  exact ⟨⟨⟨⟨lead, digits _⟩, middle⟩, digits _⟩, trail⟩

end CodeLine

namespace FailureDescription

open CodeLine

theorem isStackRow_row (f : Frame) : isStackRow (row f) = true := by
  have parts : row f = ("    " : Text) ++ (("at " : Text) ++ (("[template#" : Text) ++
      (Text.ofNat f.serial ++ (("]:" : Text) ++ (Text.ofNat f.line ++ (":1" : Text)))))) := by
    unfold row
    simp only [List.append_assoc]
    rfl
  generalize ("[template#" : Text) ++ (Text.ofNat f.serial ++ (("]:" : Text) ++
    (Text.ofNat f.line ++ (":1" : Text)))) = rest at parts
  have dropped : (("    " : Text) ++ (("at " : Text) ++ rest)).dropWhile CodeUnit.isBlank =
      ("at " : Text) ++ rest := rfl
  rw [parts, isStackRow, dropped, after?_append, Option.isSome_some, Bool.and_true,
    decide_eq_true_eq]
  have length : (("    " : Text) ++ (("at " : Text) ++ rest)).length =
      4 + (("at " : Text) ++ rest).length := List.length_append
  omega

theorem isStackRow_headline {c : CodeUnit} (visible : c.isBlank = false) (rest : Text) :
    isStackRow (c :: rest) = false := by
  unfold isStackRow
  rw [List.dropWhile_cons_of_neg (by simp [visible])]
  simp

/-- The headline of a stack. -/
def headline (name message : Text) : Text :=
  if message.isEmpty then name else name ++ (": " : Text) ++ message

theorem stackText_eq_join (name message : Text) (frames : List Frame) :
    Run.stackText name message frames =
      Text.join [0x0A] (headline name message :: (frames.take Run.shownFrames).map row) := by
  rw [Text.join_cons, List.flatMap_map]
  rfl

theorem line_ofStack {name message : Text} {c : CodeUnit} {others : Text} (starts : name = c :: others)
    (visible : c.isBlank = false) (name_line : 0x0A ∉ name) (message_line : 0x0A ∉ message) {f : Frame}
    (serial : f.serial < 2 * Number.hiddenBit) (line : f.line < 2 * Number.hiddenBit)
    (callers : List Frame) (said : Text) :
    (ofStack said (Run.stackText name message (f :: callers)) f.serial).line = some (f.line : Int) := by
  obtain ⟨more, taken⟩ : ∃ more, (f :: callers).take Run.shownFrames = f :: more := ⟨_, rfl⟩
  have free : 0x0A ∉ headline name message := by
    have colon : 0x0A ∉ (": " : Text) := by decide
    unfold headline
    split
    · exact name_line
    · simp only [List.mem_append, not_or]
      exact ⟨⟨name_line, colon⟩, message_line⟩
  have lead : isStackRow (headline name message) = false := by
    subst starts
    unfold headline
    split
    · exact isStackRow_headline visible others
    · exact isStackRow_headline visible _
  have rows : Text.splitOn 0x0A (Run.stackText name message (f :: callers)) =
      headline name message :: (f :: more).map row := by
    rw [stackText_eq_join, taken]
    refine Text.splitOn_join 0x0A _ (List.cons_ne_nil _ _) fun piece inside => ?_
    rcases List.mem_cons.1 inside with rfl | inside
    · exact free
    · obtain ⟨g, -, rfl⟩ := List.mem_map.1 inside
      exact lineFeed_notMem_row g
  unfold ofStack stackEntries
  rw [rows, List.filter_cons_of_neg (by simp [lead]), List.map_cons,
    List.filter_cons_of_pos (isStackRow_row f), List.map_cons]
  dsimp only
  rw [List.findSome?_cons, find?_row serial line]
  rfl

end FailureDescription

end LineTemplate

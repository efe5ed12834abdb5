import LineTemplate.Proofs.Number.Digits
import LineTemplate.Script.Lexer

/-!
Escapes. What stands after a backslash is read by its first unit: a letter for a control, octal digits, a mark
in front of hexadecimal digits, a line end, or a unit that stands for itself. Each kind has an equation here,
and the digits that an escape takes are told apart from what follows them.
-/

set_option autoImplicit false

namespace LineTemplate.Script

open Number (isDigitIn isDigitIn_iff isDigit_of_isDigitIn valueFrom takeDigits_eq)

def controlLetters : List (CodeUnit × CodeUnit) :=
  [('b', 0x08), ('t', 0x09), ('n', 0x0A), ('v', 0x0B), ('f', 0x0C), ('r', 0x0D)]

def octalRoom (first : CodeUnit) : ℕ := if first < 0x34 then 2 else 1

structure Unescaped (c : CodeUnit) : Prop where
  letter : ∀ v, (c, v) ∉ controlLetters
  octal : isDigitIn 8 c = false
  hex : c ≠ 'x' ∧ c ≠ 'u'
  within : c.isLineEnd = false

theorem isDigitIn_sixteen_iff (c : CodeUnit) :
    isDigitIn 16 c = true ↔ ∃ d, c.digitValue? = some d := by
  unfold isDigitIn CodeUnit.digitValue?
  simp only [CodeUnit.isDigit_iff, Bool.and_eq_true, decide_eq_true_eq, UInt16.le_iff_toNat_le,
    UInt16.reduceToNat]
  split_ifs with decimal lower upper
  · exact iff_of_true (decide_eq_true (by omega)) ⟨_, rfl⟩
  · exact iff_of_true (decide_eq_true (by omega)) ⟨_, rfl⟩
  · exact iff_of_true (decide_eq_true (by omega)) ⟨_, rfl⟩
  · exact iff_of_false id nofun

theorem digitValue?_octal {c : CodeUnit} (octal : isDigitIn 8 c = true) :
    c.digitValue? = some (c.toNat - 0x30) := by
  rw [CodeUnit.digitValue?, if_pos (isDigit_of_isDigitIn (by decide) octal)]

theorem takeOctal_cons (count value : ℕ) (c : CodeUnit) (rest : Text) :
    takeOctal (count + 1) value (c :: rest) =
      if isDigitIn 8 c then takeOctal count (value * 8 + c.digitValue?.getD 0) rest
      else (value, c :: rest) := by
  have same : (decide (0x30 ≤ c) && decide (c ≤ 0x37)) = isDigitIn 8 c := by
    rw [Bool.eq_iff_iff, isDigitIn_iff (by decide), Nat.lt_succ_iff]
    simp only [Bool.and_eq_true, decide_eq_true_eq, UInt16.le_iff_toNat_le, UInt16.reduceToNat]
  rw [takeOctal, same]
  split_ifs with octal
  · rw [digitValue?_octal octal, Option.getD_some]
  · rfl

theorem takeOctal_eq_iff {count value result : ℕ} {t rest : Text} :
    takeOctal count value t = (result, rest) ↔
      ∃ digits : Text, t = digits ++ rest ∧ (∀ c ∈ digits, isDigitIn 8 c = true) ∧
        digits.length ≤ count ∧
        (digits.length < count → ∀ c ∈ rest.head?, isDigitIn 8 c = false) ∧
        result = valueFrom 8 value digits := by
  induction count generalizing value t with
  | zero =>
    rw [takeOctal, Prod.mk.injEq]
    constructor
    · rintro ⟨rfl, rfl⟩
      exact ⟨[], rfl, nofun, le_rfl, nofun, rfl⟩
    · rintro ⟨digits, rfl, -, few, -, rfl⟩
      cases List.length_eq_zero_iff.1 (Nat.le_zero.1 few)
      exact ⟨rfl, rfl⟩
  | succ count ih =>
    cases t with
    | nil =>
      rw [takeOctal, Prod.mk.injEq]
      constructor
      · rintro ⟨rfl, rfl⟩
        exact ⟨[], rfl, nofun, Nat.zero_le _, fun _ => nofun, rfl⟩
      · rintro ⟨digits, empty, -, -, -, rfl⟩
        obtain ⟨rfl, rfl⟩ := List.append_eq_nil_iff.1 empty.symm
        exact ⟨rfl, rfl⟩
    | cons c t =>
      rw [takeOctal_cons]
      by_cases octal : isDigitIn 8 c = true
      · rw [if_pos octal, ih]
        constructor
        · rintro ⟨digits, rfl, digit, few, all, rfl⟩
          exact ⟨c :: digits, rfl, List.forall_mem_cons.2 ⟨octal, digit⟩, Nat.succ_le_succ few,
            fun fewer => all (Nat.lt_of_succ_lt_succ fewer), rfl⟩
        · rintro ⟨_ | ⟨first, digits⟩, whole, digit, few, all, rfl⟩
          · -- There was room for one more digit, so the first of the rest is none.
            rw [← show c :: t = rest from whole] at all
            exact absurd octal (Bool.eq_false_iff.1 (all (Nat.succ_pos count) c rfl))
          · obtain ⟨rfl, rfl⟩ := List.cons.inj whole
            exact ⟨digits, rfl, (List.forall_mem_cons.1 digit).2, Nat.le_of_succ_le_succ few,
              fun fewer => all (Nat.succ_lt_succ fewer), rfl⟩
      · rw [if_neg octal, Prod.mk.injEq]
        constructor
        · rintro ⟨rfl, rfl⟩
          refine ⟨[], rfl, nofun, Nat.zero_le _, fun _ d first => ?_, rfl⟩
          rw [← Option.some.inj first]
          exact Bool.eq_false_iff.2 octal
        · rintro ⟨_ | ⟨first, digits⟩, whole, digit, -, -, rfl⟩
          · exact ⟨rfl, whole⟩
          · cases (List.cons.inj whole).1
            exact absurd (digit c List.mem_cons_self) octal

theorem takeHex?_eq_some_iff {count value result : ℕ} {t rest : Text} :
    takeHex? count value t = some (result, rest) ↔
      ∃ digits : Text, t = digits ++ rest ∧ digits.length = count ∧
        (∀ c ∈ digits, isDigitIn 16 c = true) ∧ result = valueFrom 16 value digits := by
  induction count generalizing value t with
  | zero =>
    rw [takeHex?, Option.some.injEq, Prod.mk.injEq]
    constructor
    · rintro ⟨rfl, rfl⟩
      exact ⟨[], rfl, rfl, nofun, rfl⟩
    · rintro ⟨digits, rfl, none, -, rfl⟩
      cases List.length_eq_zero_iff.1 none
      exact ⟨rfl, rfl⟩
  | succ count ih =>
    cases t with
    | nil =>
      refine iff_of_false nofun ?_
      rintro ⟨digits, empty, long, -⟩
      rw [(List.append_eq_nil_iff.1 empty.symm).1] at long
      cases long
    | cons c t =>
      rw [takeHex?]
      constructor
      · intro taken
        obtain ⟨d, digit, more⟩ := Option.bind_eq_some_iff.1 taken
        obtain ⟨digits, rfl, long, hex, rfl⟩ := ih.1 more
        refine ⟨c :: digits, rfl, congrArg (· + 1) long, ?_, ?_⟩
        · exact List.forall_mem_cons.2 ⟨(isDigitIn_sixteen_iff c).2 ⟨d, digit⟩, hex⟩
        · simp [valueFrom, digit]
      · rintro ⟨digits, whole, long, hex, rfl⟩
        obtain ⟨_, digits, rfl⟩ := List.exists_cons_of_length_eq_add_one long
        obtain ⟨rfl, rfl⟩ := List.cons.inj whole
        obtain ⟨first, others⟩ := List.forall_mem_cons.1 hex
        obtain ⟨d, digit⟩ := (isDigitIn_sixteen_iff c).1 first
        refine Option.bind_eq_some_iff.2 ⟨d, digit, ih.2 ⟨digits, rfl, Nat.succ.inj long, others, ?_⟩⟩
        simp [valueFrom, digit]

theorem takeEscape?_control {c v : CodeUnit} (rest : Text) (listed : (c, v) ∈ controlLetters) :
    takeEscape? true (c :: rest) = some ([v], 0, rest) := by
  simp only [controlLetters, List.mem_cons, List.not_mem_nil, or_false, Prod.mk.injEq] at listed
  rcases listed with ⟨rfl, rfl⟩ | ⟨rfl, rfl⟩ | ⟨rfl, rfl⟩ | ⟨rfl, rfl⟩ | ⟨rfl, rfl⟩ | ⟨rfl, rfl⟩
  all_goals rfl

theorem takeEscape?_octal {c : CodeUnit} (rest : Text) (octal : isDigitIn 8 c = true) :
    takeEscape? true (c :: rest) =
      some ([(takeOctal (octalRoom c) (valueFrom 8 0 [c]) rest).1.toUInt16], 0,
        (takeOctal (octalRoom c) (valueFrom 8 0 [c]) rest).2) := by
  have ne (d : CodeUnit) (other : isDigitIn 8 d = false) : c ≠ d := by
    rintro rfl
    exact Bool.false_ne_true (other.symm.trans octal)
  have small : c < 0x38 :=
    UInt16.lt_iff_toNat_lt.2 ((isDigitIn_iff (by decide) c).1 octal).2
  have start : valueFrom 8 0 [c] = c.toNat - 0x30 := by
    simp [valueFrom, digitValue?_octal octal]
  rw [start]
  unfold takeEscape?
  dsimp only
  rw [if_neg (ne _ (by decide)), if_neg (ne _ (by decide)), if_neg (ne _ (by decide)),
    if_neg (ne _ (by decide)), if_neg (ne _ (by decide)), if_neg (ne _ (by decide))]
  -- A zero without a digit after it is read by itself; with room for octal digits the result is the same.
  by_cases alone : (decide (c = CodeUnit.ofChar '0') && !rest.head?.any CodeUnit.isDigit) = true
  · obtain ⟨zero, apart⟩ := Bool.and_eq_true_iff.1 alone
    have other : ∀ d ∈ rest.head?, isDigitIn 8 d = false := by
      intro d first
      rw [Option.mem_def.1 first, Option.any_some, Bool.not_eq_true'] at apart
      exact Bool.eq_false_iff.2 fun octal => by simp [isDigit_of_isDigitIn (by decide) octal] at apart
    have none : takeOctal (octalRoom c) (c.toNat - 0x30) rest = (c.toNat - 0x30, rest) :=
      takeOctal_eq_iff.2 ⟨[], rfl, nofun, Nat.zero_le _, fun _ => other, rfl⟩
    rw [if_pos alone, none, of_decide_eq_true zero]
    rfl
  · rw [if_neg alone, if_pos (isDigit_of_isDigitIn (by decide) octal), if_neg (by decide), if_pos small]
    rfl

theorem takeEscape?_byte (rest : Text) : takeEscape? true (CodeUnit.ofChar 'x' :: rest) =
    (takeHex? 2 0 rest).map fun (n, after) => ([n.toUInt16], 0, after) := rfl

theorem takeEscape?_unit (rest : Text) (other : rest.head? ≠ some (CodeUnit.ofChar '\x7b')) :
    takeEscape? true (CodeUnit.ofChar 'u' :: rest) =
      (takeHex? 4 0 rest).map fun (n, after) => ([n.toUInt16], 0, after) := by
  cases rest with
  | nil => rfl
  | cons c rest =>
    have other : c ≠ CodeUnit.ofChar '\x7b' := fun same => other (congrArg some same)
    change (if c = CodeUnit.ofChar '\x7b' then _ else _) = _
    rw [if_neg other]

theorem takeEscape?_point (source : Text) :
    takeEscape? true (CodeUnit.ofChar 'u' :: CodeUnit.ofChar '\x7b' :: source) =
      match source.dropWhile (isDigitIn 16) with
      | c :: rest =>
        if c = '\x7d' ∧ 0 < (source.takeWhile (isDigitIn 16)).length ∧
            valueFrom 16 0 (source.takeWhile (isDigitIn 16)) ≤ 0x10FFFF then
          some (Text.ofCodePoint (valueFrom 16 0 (source.takeWhile (isDigitIn 16))), 0, rest)
        else none
      | [] => none := by
  unfold takeEscape?
  dsimp only
  rw [takeDigits_eq, Nat.zero_add]
  rfl

theorem takeEscape?_point_eq_some_iff {source value rest : Text} {lines : ℕ} :
    takeEscape? true (CodeUnit.ofChar 'u' :: CodeUnit.ofChar '\x7b' :: source) =
        some (value, lines, rest) ↔
      ∃ digits : Text, source = digits ++ CodeUnit.ofChar '\x7d' :: rest ∧ digits ≠ [] ∧
        (∀ c ∈ digits, isDigitIn 16 c = true) ∧ valueFrom 16 0 digits ≤ 0x10FFFF ∧
        value = Text.ofCodePoint (valueFrom 16 0 digits) ∧ lines = 0 := by
  rw [takeEscape?_point]
  constructor
  · intro taken
    have parts := List.takeWhile_append_dropWhile (p := isDigitIn 16) (l := source)
    split at taken
    · rename_i c after left
      split_ifs at taken with closed
      obtain ⟨rfl, some, small⟩ := closed
      cases taken
      rw [left] at parts
      exact ⟨_, parts.symm, List.length_pos_iff.1 some, Number.isDigitIn_of_mem_takeWhile, small, rfl,
        rfl⟩
    · cases taken
  · rintro ⟨digits, rfl, some, hex, small, rfl, rfl⟩
    have closing : ¬isDigitIn 16 (CodeUnit.ofChar '\x7d') = true := by decide
    have taken : (digits ++ CodeUnit.ofChar '\x7d' :: rest).takeWhile (isDigitIn 16) = digits := by
      rw [List.takeWhile_append_of_pos hex, List.takeWhile_cons_of_neg closing, List.append_nil]
    have left : (digits ++ CodeUnit.ofChar '\x7d' :: rest).dropWhile (isDigitIn 16) =
        CodeUnit.ofChar '\x7d' :: rest := by
      rw [List.dropWhile_append_of_pos hex, List.dropWhile_cons_of_neg closing]
    rw [left, taken]
    exact if_pos ⟨rfl, List.length_pos_iff.2 some, small⟩

theorem takeEscape?_lineEnd {c : CodeUnit} (rest : Text) (ends : c.isLineEnd = true) :
    takeEscape? true (c :: rest) =
      some ([], 1, if c = 0x0D ∧ rest.head? = some 0x0A then rest.drop 1 else rest) := by
  simp only [CodeUnit.isLineEnd, Bool.or_eq_true, beq_iff_eq] at ends
  rcases ends with ((rfl | rfl) | rfl) | rfl
  · rfl
  · change (if (0x0D : CodeUnit) = 0x0D ∧ rest.head? = some 0x0A then some _ else some _) = _
    split_ifs <;> rfl
  · rfl
  · rfl

theorem takeEscape?_itself {c : CodeUnit} (rest : Text) (plain : Unescaped c) :
    takeEscape? true (c :: rest) = some ([c], 0, rest) := by
  have ne {d v : CodeUnit} (listed : (d, v) ∈ controlLetters) : c ≠ d := by
    rintro rfl
    exact plain.letter v listed
  have zero : c ≠ '0' := by
    rintro rfl
    exact absurd plain.octal (by decide)
  unfold takeEscape?
  dsimp only
  rw [if_neg (ne (v := 0x0A) (by decide)), if_neg (ne (v := 0x09) (by decide)),
    if_neg (ne (v := 0x0D) (by decide)), if_neg (ne (v := 0x08) (by decide)),
    if_neg (ne (v := 0x0C) (by decide)), if_neg (ne (v := 0x0B) (by decide)), if_neg (by simp [zero])]
  by_cases digit : c.isDigit = true
  · have large : ¬c < 0x38 := by
      intro small
      have octal : isDigitIn 8 c = true := (isDigitIn_iff (by decide) c).2
        ⟨(c.isDigit_iff.1 digit).1, UInt16.lt_iff_toNat_lt.1 small⟩
      exact Bool.false_ne_true (plain.octal.symm.trans octal)
    rw [if_pos digit, if_neg (by decide), if_neg large]
  · rw [if_neg digit, if_neg plain.hex.1, if_neg plain.hex.2, if_neg (by simp [plain.within])]

end LineTemplate.Script

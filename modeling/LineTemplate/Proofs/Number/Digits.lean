import Mathlib.Data.List.TakeWhile
import Mathlib.Tactic.SplitIfs
import LineTemplate.Number.Reading

/-!
Digits in a base. The digits at the start of a text are the longest run of them; their value is that of the
run, and without letters they are the units from zero on.
-/

set_option autoImplicit false

namespace LineTemplate.Number

def isDigitIn (base : ℕ) (c : CodeUnit) : Bool :=
  match c.digitValue? with
  | some d => d < base
  | none => false

/-- The value of digits that follow those of another value. -/
def valueFrom (base start : ℕ) (digits : Text) : ℕ :=
  digits.foldl (fun n c => n * base + c.digitValue?.getD 0) start

theorem isDigitIn_iff {base : ℕ} (few : base ≤ 10) (c : CodeUnit) :
    isDigitIn base c = true ↔ 0x30 ≤ c.toNat ∧ c.toNat < 0x30 + base := by
  unfold isDigitIn CodeUnit.digitValue?
  simp only [CodeUnit.isDigit_iff, Bool.and_eq_true, decide_eq_true_eq, UInt16.le_iff_toNat_le,
    UInt16.reduceToNat]
  split_ifs with decimal lower upper
  · simp only [decide_eq_true_eq]
    omega
  · simp only [decide_eq_true_eq]
    omega
  · simp only [decide_eq_true_eq]
    omega
  · simp only [false_iff]
    omega

theorem isDigit_of_isDigitIn {base : ℕ} {c : CodeUnit} (few : base ≤ 10)
    (digit : isDigitIn base c = true) : c.isDigit = true := by
  obtain ⟨least, most⟩ := (isDigitIn_iff few c).1 digit
  exact c.isDigit_iff.2 ⟨least, by omega⟩

theorem takeDigits_cons (base value count : ℕ) (c : CodeUnit) (rest : Text) :
    takeDigits base value count (c :: rest) =
      if isDigitIn base c then takeDigits base (value * base + c.digitValue?.getD 0) (count + 1) rest
      else (value, count, c :: rest) := by
  rw [takeDigits]
  unfold isDigitIn
  cases c.digitValue? with
  | none => rfl
  | some d =>
    by_cases small : d < base
    · simp [small]
    · simp [small]

theorem takeDigits_eq (base value count : ℕ) (t : Text) :
    takeDigits base value count t = (valueFrom base value (t.takeWhile (isDigitIn base)),
      count + (t.takeWhile (isDigitIn base)).length, t.dropWhile (isDigitIn base)) := by
  induction t generalizing value count with
  | nil => rfl
  | cons c rest ih =>
    rw [takeDigits_cons]
    by_cases digit : isDigitIn base c = true
    · rw [if_pos digit, ih, List.takeWhile_cons_of_pos digit, List.dropWhile_cons_of_pos digit,
        List.length_cons, Nat.add_right_comm]
      rfl
    · rw [if_neg digit, List.takeWhile_cons_of_neg digit, List.dropWhile_cons_of_neg digit]
      rfl

theorem isDigitIn_of_mem_takeWhile {base : ℕ} {t : Text} :
    ∀ c ∈ t.takeWhile (isDigitIn base), isDigitIn base c = true :=
  fun _ inside => (List.mem_takeWhile_imp inside)

theorem of_dropWhile_eq_nil {base : ℕ} {t : Text} (none : t.dropWhile (isDigitIn base) = []) :
    t.takeWhile (isDigitIn base) = t ∧ ∀ c ∈ t, isDigitIn base c = true := by
  have all := List.dropWhile_eq_nil_iff.1 none
  exact ⟨List.takeWhile_eq_self_iff.2 all, all⟩

end LineTemplate.Number

import LineTemplate.Command.Run
import LineTemplate.Proofs.Number.Digits
import LineTemplate.Proofs.Number.Rounding

/-!
Numerals. A text that spells a number is a numeral between blanks: digits after the mark of a base, or a
decimal with a sign, a fraction and an exponent. Reading the whole text gives the number nearest to the exact
size of the numeral, reading only its start the number nearest to its leading digits. The two ways to ask for
an indentation differ in this and in nothing else.
-/

set_option autoImplicit false

namespace LineTemplate.Number

/-- An exponent of ten as it is written. -/
structure Exponent where
  mark : CodeUnit
  sign : Text
  digits : Text

/-- A sign, digits, digits after a point and an exponent. -/
structure DecimalText where
  sign : Text
  whole : Text
  fraction : Option Text
  exponent : Option Exponent

def signs : List Text := [[], "+", "-"]

namespace Exponent

def text (e : Exponent) : Text := [e.mark] ++ e.sign ++ e.digits

def value (e : Exponent) : ℤ :=
  if e.sign = "-" then -(valueFrom 10 0 e.digits : ℤ) else valueFrom 10 0 e.digits

structure Proper (e : Exponent) : Prop where
  mark : e.mark = 'e' ∨ e.mark = 'E'
  sign : e.sign ∈ signs
  digits : ∀ c ∈ e.digits, isDigitIn 10 c = true
  ne_nil : e.digits ≠ []

end Exponent

namespace DecimalText

def fractionText (d : DecimalText) : Text := (d.fraction.map fun digits => ("." : Text) ++ digits).getD []

def exponentText (d : DecimalText) : Text := (d.exponent.map Exponent.text).getD []

def text (d : DecimalText) : Text := d.sign ++ (d.whole ++ (d.fractionText ++ d.exponentText))

def start (d : DecimalText) : ℕ := valueFrom 10 0 d.whole

def size (d : DecimalText) : ℚ :=
  valueFrom 10 0 (d.whole ++ d.fraction.getD []) *
    10 ^ ((d.exponent.map Exponent.value).getD 0 - (d.fraction.getD []).length)

structure Proper (d : DecimalText) : Prop where
  sign : d.sign ∈ signs
  whole : ∀ c ∈ d.whole, isDigitIn 10 c = true
  fraction : ∀ digits ∈ d.fraction, ∀ c ∈ digits, isDigitIn 10 c = true
  exponent : ∀ e ∈ d.exponent, e.Proper

end DecimalText

theorem not_isBlank_of_isDigitIn_ten {c : CodeUnit} (digit : isDigitIn 10 c = true) : c.isBlank = false := by
  have digit := isDigit_of_isDigitIn le_rfl digit
  have ten (n : ℕ) (small : n < 10) : CodeUnit.isBlank (UInt16.ofNat (0x30 + n)) = false := by
    revert n
    decide
  obtain ⟨least, most⟩ := c.isDigit_iff.1 digit
  have found := ten (c.toNat - 0x30) (by omega)
  rwa [Nat.add_sub_cancel' least, UInt16.ofNat_toNat] at found

theorem exists_sign (t : Text) : ∃ sign ∈ signs, t = sign ++ (takeSign t).2 ∧
    ((takeSign t).1 = true ↔ sign = "-") := by
  cases t with
  | nil => exact ⟨[], by decide, rfl, by decide⟩
  | cons c rest =>
    rw [takeSign]
    split_ifs with minus plus
    · exact ⟨"-", by decide, by rw [minus]; rfl, iff_of_true rfl rfl⟩
    · exact ⟨"+", by decide, by rw [plus]; rfl, iff_of_false (by decide) (by decide)⟩
    · exact ⟨[], by decide, rfl, iff_of_false (by decide) (by decide)⟩

theorem takeSign_append {t : Text} (some : t ≠ []) (after : Text) :
    takeSign (t ++ after) = ((takeSign t).1, (takeSign t).2 ++ after) := by
  cases t with
  | nil => exact absurd rfl some
  | cons c rest =>
    rw [List.cons_append, takeSign, takeSign]
    split_ifs <;> rfl

theorem exists_exponent {t : Text} {k : ℤ} (taken : takeExponent t = (k, [])) :
    ∃ e : Option Exponent, (∀ x ∈ e, x.Proper) ∧ t = (e.map Exponent.text).getD [] ∧
      k = (e.map Exponent.value).getD 0 := by
  cases t with
  | nil =>
    cases taken
    exact ⟨none, nofun, rfl, rfl⟩
  | cons c rest =>
    obtain ⟨sign, known, spelled, minus⟩ := exists_sign rest
    rw [takeExponent] at taken
    generalize takeSign rest = signed at taken spelled minus
    obtain ⟨negative, digits⟩ := signed
    simp only [takeDigits_eq, Nat.zero_add] at taken spelled minus
    by_cases mark : c = 'e' ∨ c = 'E'
    · rw [if_pos mark] at taken
      by_cases missing : (digits.takeWhile (isDigitIn 10)).length = 0
      · rw [if_pos missing] at taken
        cases (Prod.mk.inj taken).2
      · rw [if_neg missing] at taken
        obtain ⟨value, ends⟩ := Prod.mk.inj taken
        obtain ⟨whole, all⟩ := of_dropWhile_eq_nil ends
        rw [whole] at value missing
        refine ⟨some ⟨c, sign, digits⟩, ?_, ?_, ?_⟩
        · rintro x ⟨⟩
          exact ⟨mark, known, all, fun none => missing (congrArg List.length none)⟩
        · exact congrArg (c :: ·) spelled
        · rw [← value]
          exact if_congr minus rfl rfl
    · rw [if_neg mark] at taken
      cases (Prod.mk.inj taken).2

def takeFraction (value count : ℕ) (t : Text) : ℕ × ℕ × Text :=
  match t with
  | [] => (value, count, t)
  | c :: rest => if c = '.' then takeDigits 10 value count rest else (value, count, t)

theorem exists_fraction (value count : ℕ) (t : Text) : ∃ (fraction : Option Text) (after : Text),
    (∀ digits ∈ fraction, ∀ c ∈ digits, isDigitIn 10 c = true) ∧
      t = (fraction.map fun digits => ("." : Text) ++ digits).getD [] ++ after ∧
      takeFraction value count t =
        (valueFrom 10 value (fraction.getD []), count + (fraction.getD []).length, after) := by
  cases t with
  | nil => exact ⟨none, [], nofun, rfl, rfl⟩
  | cons c rest =>
    by_cases point : c = '.'
    · refine ⟨some (rest.takeWhile (isDigitIn 10)), rest.dropWhile (isDigitIn 10), ?_, ?_, ?_⟩
      · rintro digits ⟨⟩
        exact isDigitIn_of_mem_takeWhile
      · rw [point]
        exact congrArg (CodeUnit.ofChar '.' :: ·) List.takeWhile_append_dropWhile.symm
      · rw [takeFraction, if_pos point, takeDigits_eq]
        rfl
    · exact ⟨none, c :: rest, nofun, rfl, if_neg point⟩

theorem takeDecimal?_eq (t : Text) : takeDecimal? t =
    let whole := takeDigits 10 0 0 t
    let parts := takeFraction whole.1 whole.2.1 whole.2.2
    if parts.2.1 = 0 then none
    else
      let exponent := takeExponent parts.2.2
      some (ofDecimal parts.1 (exponent.1 - ((parts.2.1 - whole.2.1 : ℕ) : ℤ)), exponent.2) := rfl

theorem valueFrom_append (base start : ℕ) (digits more : Text) :
    valueFrom base (valueFrom base start digits) more = valueFrom base start (digits ++ more) :=
  List.foldl_append.symm

theorem exists_decimal {t : Text} {x : Float} (taken : takeDecimal? t = some (x, [])) :
    ∃ d : DecimalText, d.Proper ∧ d.sign = [] ∧ d.text = t ∧ d.whole = t.takeWhile (isDigitIn 10) ∧
      x = nearestTo d.size := by
  obtain ⟨fraction, after, digits, spelled, parts⟩ := exists_fraction
    (valueFrom 10 0 (t.takeWhile (isDigitIn 10))) (t.takeWhile (isDigitIn 10)).length
    (t.dropWhile (isDigitIn 10))
  rw [takeDecimal?_eq, takeDigits_eq, Nat.zero_add] at taken
  dsimp only at taken
  rw [parts, valueFrom_append, Nat.add_sub_cancel_left] at taken
  dsimp only at taken
  split at taken
  · cases taken
  obtain ⟨value, ends⟩ := Prod.mk.inj (Option.some.inj taken)
  obtain ⟨exponent, proper, written, power⟩ := exists_exponent (Prod.ext rfl ends)
  refine ⟨⟨[], t.takeWhile (isDigitIn 10), fraction, exponent⟩,
    ⟨List.mem_cons_self, isDigitIn_of_mem_takeWhile, digits, proper⟩, rfl, ?_, rfl, ?_⟩
  · have whole := List.takeWhile_append_dropWhile (p := isDigitIn 10) (l := t)
    rw [spelled, written] at whole
    exact whole
  · rw [← value, ofDecimal_eq]
    exact congrArg (fun k : ℤ => nearestTo (_ * 10 ^ (k - _))) power

inductive Numeral where
  /-- No unit at all, which stands for zero. -/
  | empty
  /-- A zero with the mark of a base, and the digits in this base. -/
  | marked (mark : CodeUnit) (base : ℕ) (digits : Text)
  | decimal (d : DecimalText)

namespace Numeral

def text : Numeral → Text
  | .empty => []
  | .marked mark _ digits => CodeUnit.ofChar '0' :: mark :: digits
  | .decimal d => d.text

def start : Numeral → ℕ
  | .empty => 0
  | .marked _ _ _ => 0
  | .decimal d => d.start

def size : Numeral → ℚ
  | .empty => 0
  | .marked _ base digits => valueFrom base 0 digits
  | .decimal d => d.size

def sign : Numeral → Text
  | .decimal d => d.sign
  | _ => []

def signed (n : Numeral) (x : Float) : Float := if n.sign = "-" then -x else x

def Proper : Numeral → Prop
  | .empty => True
  | .marked mark base digits => markedBase? (CodeUnit.ofChar '0' :: mark :: digits) = some (base, digits) ∧
      digits ≠ [] ∧ ∀ c ∈ digits, isDigitIn base c = true
  | .decimal d => d.Proper

/-- The text is the numeral, with blanks around it. -/
structure Spells (n : Numeral) (t : Text) : Prop where
  proper : n.Proper
  text : ∃ before after, (∀ c ∈ before, CodeUnit.isBlank c = true) ∧
    (∀ c ∈ after, CodeUnit.isBlank c = true) ∧ t = before ++ n.text ++ after

/-- Both readings of a text: as a whole, and of its start if there are digits. -/
structure ReadAs (n : Numeral) (t : Text) : Prop where
  whole : ofText t = n.signed (nearestTo n.size)
  start : (integerAtStart t).isNaN = false → integerAtStart t = n.signed (nearestTo n.start)

end Numeral

theorem exists_trim (t : Text) : ∃ before after, (∀ c ∈ before, CodeUnit.isBlank c = true) ∧
    (∀ c ∈ after, CodeUnit.isBlank c = true) ∧ t = before ++ t.trim ++ after ∧
    t.dropWhile CodeUnit.isBlank = t.trim ++ after := by
  have parts := Text.splitEnd_append CodeUnit.isBlank (t.dropWhile CodeUnit.isBlank)
  refine ⟨t.takeWhile CodeUnit.isBlank, (Text.splitEnd CodeUnit.isBlank (t.dropWhile CodeUnit.isBlank)).2,
    fun _ => List.mem_takeWhile_imp, fun c inside => ?_, ?_, parts.symm⟩
  · exact List.mem_takeWhile_imp (List.mem_reverse.1 inside)
  · rw [List.append_assoc]
    exact (parts ▸ List.takeWhile_append_dropWhile).symm

theorem of_markedBase? {t digits : Text} {base : ℕ} (marked : markedBase? t = some (base, digits)) :
    ∃ mark, t = CodeUnit.ofChar '0' :: mark :: digits ∧ isDigitIn 10 mark = false := by
  unfold markedBase? at marked
  split at marked
  · rename_i z mark rest
    split_ifs at marked with zero hex octal binary
    · cases marked
      exact ⟨mark, by rw [not_not.1 zero], by rcases hex with rfl | rfl <;> decide⟩
    · cases marked
      exact ⟨mark, by rw [not_not.1 zero], by rcases octal with rfl | rfl <;> decide⟩
    · cases marked
      exact ⟨mark, by rw [not_not.1 zero], by rcases binary with rfl | rfl <;> decide⟩
  · cases marked

theorem integerAtStart_eq {t body : Text} {negative : Bool}
    (signed : takeSign (t.dropWhile CodeUnit.isBlank) = (negative, body)) :
    integerAtStart t = if body.takeWhile (isDigitIn 10) = [] then notANumber
      else if negative then -ofDecimal (valueFrom 10 0 (body.takeWhile (isDigitIn 10))) 0
      else ofDecimal (valueFrom 10 0 (body.takeWhile (isDigitIn 10))) 0 := by
  unfold integerAtStart
  rw [signed]
  dsimp only
  rw [takeDigits_eq]
  dsimp only
  rw [Nat.zero_add]
  simp only [List.length_eq_zero_iff]

theorem takeWhile_append_blank (t : Text) {after : Text} (blank : ∀ c ∈ after, CodeUnit.isBlank c = true) :
    (t ++ after).takeWhile (isDigitIn 10) = t.takeWhile (isDigitIn 10) := by
  have none : after.takeWhile (isDigitIn 10) = [] := by
    cases after with
    | nil => rfl
    | cons c rest =>
      refine List.takeWhile_cons_of_neg fun digit => ?_
      cases (blank c List.mem_cons_self).symm.trans (not_isBlank_of_isDigitIn_ten digit)
  rw [List.takeWhile_append, none, List.append_nil]
  split
  · rename_i whole
    exact ((List.takeWhile_prefix _).eq_of_length whole).symm
  · rfl

theorem ofNat_natCast_eq (n : ℕ) : ofDecimal n 0 = nearestTo n := by
  rw [ofDecimal_eq, zpow_zero, mul_one]

theorem zero_eq_nearestTo : (0 : Float) = nearestTo 0 := by
  rw [nearestTo, rounded_zero]
  rfl

def unsigned (body : Text) : Float :=
  if body = "Infinity" then infinity
  else
    match takeDecimal? body with
    | some (x, []) => x
    | _ => notANumber

theorem ofText_eq {t body : Text} {negative : Bool} (some : t.trim ≠ [])
    (unmarked : markedBase? t.trim = none) (signed : takeSign t.trim = (negative, body)) :
    ofText t = if negative then -unsigned body else unsigned body := by
  unfold ofText
  dsimp only
  rw [if_neg (by simpa using some), unmarked]
  dsimp only
  rw [signed]
  rfl

theorem exists_of_unsigned_finite {body : Text} {negative : Bool}
    (finite : Float.isFinite (if negative then -unsigned body else unsigned body) = true) :
    ∃ x, takeDecimal? body = some (x, []) ∧ unsigned body = x := by
  have infinite : Float.isFinite (if negative then -infinity else infinity) = false := by
    cases negative <;> rfl
  have undefined : Float.isFinite (if negative then -notANumber else notANumber) = false := by
    cases negative <;> rfl
  have cases_unsigned : (∃ x, takeDecimal? body = some (x, []) ∧ unsigned body = x) ∨
      unsigned body = infinity ∨ unsigned body = notANumber := by
    unfold unsigned
    split
    · exact .inr (.inl rfl)
    · split
      · rename_i x taken
        exact .inl ⟨x, taken, rfl⟩
      · exact .inr (.inr rfl)
  rcases cases_unsigned with found | same | same
  · exact found
  · rw [same, infinite] at finite
    cases finite
  · rw [same, undefined] at finite
    cases finite

section

variable {t before after : Text} (blank : ∀ c ∈ before, CodeUnit.isBlank c = true)
  (blank' : ∀ c ∈ after, CodeUnit.isBlank c = true) (spelled : t = before ++ t.trim ++ after)
  (dropped : t.dropWhile CodeUnit.isBlank = t.trim ++ after)

include blank blank' spelled dropped

theorem reads_empty (empty : t.trim = []) : Numeral.empty.Spells t ∧ Numeral.empty.ReadAs t := by
  rw [empty] at spelled dropped
  refine ⟨⟨trivial, before, after, blank, blank', spelled⟩, ?_, fun number => ?_⟩
  · unfold ofText
    rw [empty]
    exact zero_eq_nearestTo
  · obtain ⟨sign, -, parts, -⟩ := exists_sign (t.dropWhile CodeUnit.isBlank)
    cases signed : takeSign (t.dropWhile CodeUnit.isBlank) with
    | mk negative body =>
      rw [signed] at parts
      have none : body.takeWhile (isDigitIn 10) = [] := by
        refine takeWhile_append_blank [] fun c inside => blank' c ?_
        rw [← List.nil_append after, ← dropped, parts]
        exact List.mem_append_right sign inside
      rw [integerAtStart_eq signed, if_pos none] at number
      cases number

theorem reads_marked {base : ℕ} {digits : Text} (marked : markedBase? t.trim = some (base, digits))
    (finite : (ofText t).isFinite = true) :
    ∃ n : Numeral, n.Spells t ∧ n.ReadAs t := by
  obtain ⟨mark, zero, letter⟩ := of_markedBase? marked
  have value : ofText t = if (digits.takeWhile (isDigitIn base)).length = 0 ||
      !(digits.dropWhile (isDigitIn base)).isEmpty then notANumber
      else ofDecimal (valueFrom base 0 (digits.takeWhile (isDigitIn base))) 0 := by
    unfold ofText
    dsimp only
    rw [marked]
    dsimp only
    rw [takeDigits_eq, zero, Nat.zero_add]
    rfl
  rw [value] at finite
  split at finite
  · cases finite
  rename_i some
  obtain ⟨some, ends⟩ : digits.takeWhile (isDigitIn base) ≠ [] ∧ digits.dropWhile (isDigitIn base) = [] := by
    simpa [not_or] using some
  obtain ⟨whole, all⟩ := of_dropWhile_eq_nil ends
  rw [whole] at some
  rw [zero] at marked spelled dropped
  refine ⟨.marked mark base digits, ⟨⟨marked, some, all⟩, before, after, blank, blank', spelled⟩, ?_,
    fun _ => ?_⟩
  · rw [value, if_neg (by assumption), whole, ofNat_natCast_eq]
    rfl
  · have signed : takeSign (t.dropWhile CodeUnit.isBlank) =
        (false, CodeUnit.ofChar '0' :: mark :: (digits ++ after)) := by
      rw [dropped]
      rfl
    have start : (CodeUnit.ofChar '0' :: mark :: (digits ++ after)).takeWhile (isDigitIn 10) =
        [CodeUnit.ofChar '0'] := by
      rw [List.takeWhile_cons_of_pos (by decide), List.takeWhile_cons_of_neg (by simp [letter])]
    rw [integerAtStart_eq signed, start, if_neg (List.cons_ne_nil _ _), if_neg Bool.false_ne_true]
    exact ofNat_natCast_eq 0

theorem reads_decimal (some : t.trim ≠ []) (unmarked : markedBase? t.trim = none)
    (finite : (ofText t).isFinite = true) : ∃ n : Numeral, n.Spells t ∧ n.ReadAs t := by
  obtain ⟨sign, known, parts, minus⟩ := exists_sign t.trim
  have start := takeSign_append some after
  rw [← dropped] at start
  cases signed : takeSign t.trim with
  | mk negative body =>
    rw [signed] at parts minus start
    dsimp only at parts minus start
    have value := ofText_eq some unmarked signed
    rw [value] at finite
    obtain ⟨x, taken, same⟩ := exists_of_unsigned_finite finite
    obtain ⟨d, proper, unsigned_text, written, whole, size⟩ := exists_decimal taken
    have text : t.trim = sign ++ (d.whole ++ (d.fractionText ++ d.exponentText)) := by
      rw [parts, ← written, DecimalText.text, unsigned_text]
      rfl
    have spelled' := spelled
    rw [text] at spelled'
    refine ⟨.decimal { d with sign := sign }, ⟨⟨known, proper.whole, proper.fraction, proper.exponent⟩,
      before, after, blank, blank', spelled'⟩, ?_, fun number => ?_⟩
    · rw [value, same, size]
      exact if_congr minus rfl rfl
    · have digits := takeWhile_append_blank body blank'
      rw [← whole] at digits
      rw [integerAtStart_eq start, digits] at number ⊢
      split at number
      · cases number
      rename_i digits_there
      rw [if_neg digits_there, ofNat_natCast_eq]
      exact if_congr minus rfl rfl

end

/-- A text that spells a finite number is a numeral between blanks, and is read as the number nearest to
it. -/
theorem exists_numeral {t : Text} (finite : (ofText t).isFinite = true) :
    ∃ n : Numeral, n.Spells t ∧ n.ReadAs t := by
  obtain ⟨before, after, blank, blank', spelled, dropped⟩ := exists_trim t
  by_cases empty : t.trim = []
  · exact ⟨_, reads_empty blank blank' spelled dropped empty⟩
  cases marked : markedBase? t.trim with
  | some found => exact reads_marked blank blank' spelled dropped marked finite
  | none => exact reads_decimal blank blank' spelled dropped empty marked finite

namespace Numeral

theorem size_nonneg (n : Numeral) : 0 ≤ n.size := by
  cases n with
  | empty => exact le_rfl
  | marked mark base digits => exact Nat.cast_nonneg _
  | decimal d => exact mul_nonneg (Nat.cast_nonneg _) (zpow_nonneg (by norm_num) _)

theorem signed_inj (n : Numeral) {p q : ℚ} (nonneg : 0 ≤ p) (nonneg' : 0 ≤ q) :
    n.signed (nearestTo p) = n.signed (nearestTo q) ↔ nearestTo p = nearestTo q := by
  unfold signed
  split
  · exact neg_nearestTo_inj nonneg nonneg'
  · rfl

end Numeral

end LineTemplate.Number

namespace LineTemplate

open Number

/-- An indentation that is accepted as a variable and as an option is a numeral between blanks. The variable
asks for the number nearest to its leading digits, the option for the one nearest to the whole of it. So both
ask for the same number of columns exactly if these two are the same number, as they are whenever the exact
value of the numeral is that of its leading digits. -/
theorem indent_eq_iff (v : Variables) {t : Text} (given : Members.get? v "TEMPLATE_INDENT" = some t)
    {x y : Float} (accepted : v.integer "TEMPLATE_INDENT" 0 = .ok x)
    (accepted' : Command.indentOf t = .ok y) :
    ∃ n : Numeral, n.Spells t ∧ x = n.signed (nearestTo n.start) ∧ y = n.signed (nearestTo n.size) ∧
      (x = y ↔ nearestTo n.start = nearestTo n.size) := by
  obtain ⟨finite, whole⟩ : (ofText t).isFinite = true ∧ ofText t = y := by
    unfold Command.indentOf at accepted'
    dsimp only at accepted'
    split at accepted'
    · rename_i number
      simp only [isInteger, Bool.and_eq_true] at number
      exact ⟨number.1.1, Except.ok.inj accepted'⟩
    · cases accepted'
  have read : ∃ n : Numeral, n.Spells t ∧ x = n.signed (nearestTo n.start) ∧
      ofText t = n.signed (nearestTo n.size) := by
    cases t with
    | nil =>
      have zero : x = 0 := by
        unfold Variables.integer Variables.value? at accepted
        rw [given] at accepted
        exact (Except.ok.inj accepted).symm
      refine ⟨.empty, ⟨trivial, [], [], nofun, nofun, rfl⟩, ?_, zero_eq_nearestTo⟩
      rw [zero, zero_eq_nearestTo]
      rfl
    | cons c rest =>
      obtain ⟨n, spells, reads⟩ := exists_numeral finite
      refine ⟨n, spells, ?_, reads.whole⟩
      unfold Variables.integer Variables.value? at accepted
      rw [given] at accepted
      dsimp only at accepted
      split at accepted
      · cases accepted
      · rename_i number
        rw [← Except.ok.inj accepted]
        exact reads.start (by simpa using number)
  obtain ⟨n, spells, start, size⟩ := read
  rw [whole] at size
  refine ⟨n, spells, start, size, ?_⟩
  rw [start, size]
  exact n.signed_inj (Nat.cast_nonneg _) n.size_nonneg

/-- Twelve columns, with blanks, a sign and a fraction of zeros. -/
theorem indent_eq_iff_fraction :
    let v : Variables := [("TEMPLATE_INDENT", " +12.00\n")]
    let x : Float := 12
    Members.get? v "TEMPLATE_INDENT" = some " +12.00\n" ∧ v.integer "TEMPLATE_INDENT" 0 = .ok x ∧
      Command.indentOf " +12.00\n" = .ok x ∧
      ∃ n : Numeral, n.Spells " +12.00\n" ∧ x = n.signed (nearestTo n.start) ∧
        nearestTo n.start = nearestTo n.size := by
  intro v x
  have accepted : v.integer "TEMPLATE_INDENT" 0 = .ok x := by decide +kernel
  have accepted' : Command.indentOf " +12.00\n" = .ok x := by decide +kernel
  obtain ⟨n, spells, start, -, same⟩ := indent_eq_iff v rfl accepted accepted'
  exact ⟨rfl, accepted, accepted', n, spells, start, same.1 rfl⟩

/-- With an exponent, the two ways ask for different numbers of columns. -/
theorem indent_ne :
    let v : Variables := [("TEMPLATE_INDENT", "1e3")]
    ∃ x y : Float, v.integer "TEMPLATE_INDENT" 0 = .ok x ∧ ¬x < 0 ∧ Command.indentOf "1e3" = .ok y ∧ x ≠ y :=
  ⟨1, 1000, by decide +kernel⟩

/-- The mark of a base ends the leading digits, and a fraction may be rounded up to the next integer. -/
example :
    let columns (t : Text) : Option Float × Option Float :=
      ((Variables.integer [("TEMPLATE_INDENT", t)] "TEMPLATE_INDENT" 0).toOption,
        (Command.indentOf t).toOption)
    columns "0x10" = (some 0, some 16) ∧ columns "0.99999999999999999" = (some 0, some 1) := by
  decide +kernel

end LineTemplate

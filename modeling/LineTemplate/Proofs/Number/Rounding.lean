import Mathlib
import LineTemplate.Number.Reading

/-!
Rounding. The number that decimal digits and an exponent of ten stand for is the one nearest to their exact
value, of two the one with an even last digit. So it depends on this value only, not on the way in which it is
written.
-/

set_option autoImplicit false

namespace LineTemplate.Number

open Float.Model Float.Model.UnpackedFloat

/-- The nearest natural number, of two the even one. -/
def roundEven (x : ℚ) : ℕ :=
  let n := ⌊x⌋₊
  if x - n < 1 / 2 ∨ (x - n = 1 / 2 ∧ n % 2 = 0) then n else n + 1

/-- The place of the last binary digit that is kept of a size: the fifty-third one, or the last place that
there is. -/
def lastPlace (q : ℚ) : ℤ := max (Int.log 2 q - 52) (-1074)

/-- A number without a sign, given by its digits and the place of the last one. There may be one digit too
many, if the last one is zero. -/
def ofUnits (units : ℕ) (place : ℤ) : UnpackedFloat :=
  if h : units = 0 then .zero .positive
  else if units = 2 ^ 53 then .finite .positive (2 ^ 52) (place + 1) (by decide)
  else .finite .positive units place (Nat.pos_of_ne_zero h)

/-- A size with only the digits that are kept. -/
def rounded (q : ℚ) : UnpackedFloat := ofUnits (roundEven (q / 2 ^ lastPlace q)) (lastPlace q)

/-- The number nearest to a size. -/
def nearestTo (q : ℚ) : Float := .ofModel (.pack (rounded q))

theorem roundEven_eq_of_lt {x : ℚ} {n : ℕ} (le : n ≤ x) (lt : x < n + 1 / 2) : roundEven x = n := by
  have floor : ⌊x⌋₊ = n := (Nat.floor_eq_iff ((Nat.cast_nonneg n).trans le)).2 ⟨le, by linarith⟩
  unfold roundEven
  rw [floor]
  exact if_pos (.inl (by linarith))

theorem roundEven_eq_of_gt {x : ℚ} {n : ℕ} (lt : n + 1 / 2 < x) (lt' : x < n + 1) :
    roundEven x = n + 1 := by
  have floor : ⌊x⌋₊ = n :=
    (Nat.floor_eq_iff (by linarith [Nat.cast_nonneg (α := ℚ) n])).2 ⟨by linarith, lt'⟩
  unfold roundEven
  rw [floor]
  refine if_neg fun h => ?_
  rcases h with below | ⟨half, -⟩
  · linarith
  · linarith

theorem roundEven_half (n : ℕ) : roundEven (n + 1 / 2) = n + n % 2 := by
  have floor : ⌊(n + 1 / 2 : ℚ)⌋₊ = n :=
    (Nat.floor_eq_iff (by positivity)).2 ⟨by linarith, by linarith⟩
  unfold roundEven
  rw [floor]
  have half : ((n : ℚ) + 1 / 2) - n = 1 / 2 := by ring
  rcases Nat.mod_two_eq_zero_or_one n with even | odd
  · rw [even]
    exact if_pos (.inr ⟨half, even⟩)
  · rw [odd]
    exact if_neg fun h => by rcases h with below | ⟨-, even⟩ <;> linarith

theorem roundEven_natCast (n : ℕ) : roundEven n = n :=
  roundEven_eq_of_lt le_rfl (by linarith)

theorem le_roundEven {n : ℕ} {x : ℚ} (h : n ≤ x) : n ≤ roundEven x := by
  have floor : n ≤ ⌊x⌋₊ := Nat.le_floor h
  unfold roundEven
  dsimp only
  split
  · exact floor
  · exact Nat.le_succ_of_le floor

theorem roundEven_le {n : ℕ} {x : ℚ} (nonneg : 0 ≤ x) (h : x < n) : roundEven x ≤ n := by
  have floor : ⌊x⌋₊ < n := (Nat.floor_lt nonneg).2 h
  unfold roundEven
  dsimp only
  split
  · exact floor.le
  · exact floor

/-- What the bits beyond a mantissa say about the number that it is cut from. -/
def Holds (em : ExtendedMantissa) (x : ℚ) : Prop :=
  match em.roundBit, em.stickyBit with
  | false, false => x = em.mantissa
  | false, true => em.mantissa < x ∧ x < em.mantissa + 1 / 2
  | true, false => x = em.mantissa + 1 / 2
  | true, true => em.mantissa + 1 / 2 < x ∧ x < em.mantissa + 1

variable {em : ExtendedMantissa} {x : ℚ}

theorem Holds.roundedMantissa (h : Holds em x) : em.roundedMantissa = roundEven x := by
  obtain ⟨m, r, s⟩ := em
  cases r with
  | false =>
    cases s with
    | false =>
      obtain rfl : x = m := h
      exact (roundEven_natCast m).symm
    | true => exact (roundEven_eq_of_lt h.1.le h.2).symm
  | true =>
    cases s with
    | false =>
      obtain rfl : x = m + 1 / 2 := h
      exact (roundEven_half m).symm
    | true => exact (roundEven_eq_of_gt h.1 h.2).symm

theorem Holds.mantissa_le (h : Holds em x) : em.mantissa ≤ x := by
  obtain ⟨m, r, s⟩ := em
  cases r <;> cases s <;> simp only [Holds] at h <;> linarith

theorem Holds.lt_mantissa (h : Holds em x) : x < em.mantissa + 1 := by
  obtain ⟨m, r, s⟩ := em
  cases r <;> cases s <;> simp only [Holds] at h <;> linarith

theorem Holds.shiftRightOne (h : Holds em x) : Holds em.shiftRightOne (x / 2) := by
  obtain ⟨m, r, s⟩ := em
  have halves : (m : ℚ) = 2 * (m / 2 : ℕ) + (m % 2 : ℕ) := by
    exact_mod_cast (Nat.div_add_mod m 2).symm
  unfold ExtendedMantissa.shiftRightOne
  -- the last digit becomes the round bit, and what was beyond it the sticky one
  rcases Nat.mod_two_eq_zero_or_one m with even | odd
  · rw [even] at halves
    cases r <;> cases s <;> simp only [Holds, even] at h ⊢ <;> grind
  · rw [odd] at halves
    cases r <;> cases s <;> simp only [Holds, odd] at h ⊢ <;> grind

theorem Holds.shiftRight (h : Holds em x) (n : ℕ) : Holds (em >>> n) (x / 2 ^ n) := by
  change Holds (n.repeat ExtendedMantissa.shiftRightOne em) _
  induction n with
  | zero => simpa [Nat.repeat] using h
  | succ n ih =>
    rw [Nat.repeat, pow_succ, ← div_div]
    exact ih.shiftRightOne

theorem holds_exact (m : ℕ) : Holds (.ofMantissaAndAccuracy m .exact) m := rfl

theorem holds_div (m : ℕ) {d : ℕ} (pos : 0 < d) :
    Holds (.ofMantissaAndAccuracy (m / d) (accuracyOfFraction (m % d) d)) (m / d) := by
  have pos' : (0 : ℚ) < d := Nat.cast_pos.2 pos
  have parts : (m : ℚ) = d * (m / d : ℕ) + (m % d : ℕ) := by
    exact_mod_cast (Nat.div_add_mod m d).symm
  have quotient : (m : ℚ) / d = (m / d : ℕ) + (m % d : ℕ) / d := by
    rw [parts]
    field_simp
  have rest : ((m % d : ℕ) : ℚ) < d := Nat.cast_lt.2 (Nat.mod_lt m pos)
  unfold accuracyOfFraction
  split
  · rename_i zero
    rw [quotient, zero]
    simp [ExtendedMantissa.ofMantissaAndAccuracy, Holds]
  · rename_i some
    have some : (0 : ℚ) < (m % d : ℕ) := Nat.cast_pos.2 (Nat.pos_of_ne_zero some)
    rw [quotient]
    cases order : compare (2 * (m % d)) d with
    | lt =>
      have less : (2 * (m % d : ℕ) : ℚ) < d := by exact_mod_cast Nat.compare_eq_lt.1 order
      have half : ((m % d : ℕ) : ℚ) / d < 1 / 2 := by rw [div_lt_div_iff₀ pos' two_pos]; linarith
      have above : 0 < ((m % d : ℕ) : ℚ) / d := div_pos some pos'
      exact ⟨by simpa [ExtendedMantissa.ofMantissaAndAccuracy] using above, by
        simpa [ExtendedMantissa.ofMantissaAndAccuracy] using half⟩
    | eq =>
      have same : (2 * (m % d : ℕ) : ℚ) = d := by exact_mod_cast Nat.compare_eq_eq.1 order
      have half : ((m % d : ℕ) : ℚ) / d = 1 / 2 := by rw [div_eq_div_iff pos'.ne' two_ne_zero]; linarith
      exact congrArg _ half
    | gt =>
      have more : (d : ℚ) < 2 * (m % d : ℕ) := by exact_mod_cast Nat.compare_eq_gt.1 order
      have half : 1 / 2 < ((m % d : ℕ) : ℚ) / d := by rw [div_lt_div_iff₀ two_pos pos']; linarith
      have below : ((m % d : ℕ) : ℚ) / d < 1 := (div_lt_one pos').2 rest
      exact ⟨by simpa [ExtendedMantissa.ofMantissaAndAccuracy] using half, by
        simpa [ExtendedMantissa.ofMantissaAndAccuracy] using below⟩

theorem targetExponent_eq (t : ℤ) : Format.binary64.targetExponent t = max (t - 53) (-1074) := rfl

theorem log_eq {q : ℚ} {t : ℤ} (low : 2 ^ t ≤ q) (high : q < 2 ^ (t + 1)) : Int.log 2 q = t := by
  have pos : 0 < q := lt_of_lt_of_le (by positivity) low
  have le := (Int.zpow_le_iff_le_log (b := 2) (by decide) pos).1 (by exact_mod_cast low)
  have lt := (Int.lt_zpow_iff_log_lt (b := 2) (by decide) pos).1 (by exact_mod_cast high)
  omega

theorem log_eq_of_holds {e : ℤ} {q : ℚ} (h : Holds em (q / 2 ^ e)) (some : em.mantissa ≠ 0) :
    Int.log 2 q = em.mantissa.log2 + e := by
  have unit : (0 : ℚ) < 2 ^ e := by positivity
  have low : (em.mantissa : ℚ) * 2 ^ e ≤ q := (le_div_iff₀ unit).1 h.mantissa_le
  have high : q < (em.mantissa + 1) * 2 ^ e := (div_lt_iff₀ unit).1 h.lt_mantissa
  have digits : (2 : ℚ) ^ em.mantissa.log2 ≤ em.mantissa := by
    exact_mod_cast Nat.log2_self_le some
  have digits' : (em.mantissa : ℚ) + 1 ≤ 2 ^ (em.mantissa.log2 + 1) := by
    exact_mod_cast Nat.lt_log2_self
  refine log_eq ?_ ?_
  · calc (2 : ℚ) ^ (em.mantissa.log2 + e) = 2 ^ em.mantissa.log2 * 2 ^ e := by
          rw [zpow_add₀ two_ne_zero, zpow_natCast]
      _ ≤ em.mantissa * 2 ^ e := mul_le_mul_of_nonneg_right digits unit.le
      _ ≤ q := low
  · calc q < (em.mantissa + 1) * 2 ^ e := high
      _ ≤ 2 ^ (em.mantissa.log2 + 1) * 2 ^ e := mul_le_mul_of_nonneg_right digits' unit.le
      _ = 2 ^ (em.mantissa.log2 + e + 1) := by
          rw [← zpow_natCast, ← zpow_add₀ two_ne_zero]
          push_cast
          congr 1
          ring

theorem targetExponent_of_holds {e : ℤ} {q : ℚ} (pos : 0 < q) (h : Holds em (q / 2 ^ e))
    (reach : e ≤ lastPlace q) :
    Format.binary64.targetExponent (totalExponent em.mantissa e) = lastPlace q := by
  rw [targetExponent_eq, totalExponent]
  by_cases zero : em.mantissa = 0
  · have small := h.lt_mantissa
    rw [zero, Nat.cast_zero, zero_add, div_lt_one (by positivity)] at small
    have log : Int.log 2 q < e := (Int.lt_zpow_iff_log_lt (by decide) pos).1 (by exact_mod_cast small)
    unfold lastPlace at reach ⊢
    rw [zero, Nat.log2_zero]
    omega
  · rw [lastPlace, log_eq_of_holds h zero]
    omega

theorem mantissa_ofMantissaAndAccuracy (m : ℕ) (acc : Accuracy) :
    (ExtendedMantissa.ofMantissaAndAccuracy m acc).mantissa = m := by
  cases acc with
  | exact => rfl
  | inexact order => cases order <;> rfl

theorem div_lastPlace_lt (q : ℚ) : q / 2 ^ lastPlace q < 2 ^ 53 := by
  have top : q < (2 : ℚ) ^ (Int.log 2 q + 1) := by
    exact_mod_cast Int.lt_zpow_succ_log_self (b := 2) (by decide) q
  rw [div_lt_iff₀ (by positivity)]
  calc q < 2 ^ (Int.log 2 q + 1) := top
    _ ≤ 2 ^ (53 + lastPlace q) := zpow_le_zpow_right₀ one_le_two (by unfold lastPlace; omega)
    _ = 2 ^ 53 * 2 ^ lastPlace q := by
        rw [zpow_add₀ two_ne_zero]
        rfl

theorem le_div_lastPlace {q : ℚ} (pos : 0 < q) (high : lastPlace q ≠ -1074) :
    2 ^ 52 ≤ q / 2 ^ lastPlace q := by
  have bottom : (2 : ℚ) ^ Int.log 2 q ≤ q := by
    exact_mod_cast Int.zpow_log_le_self (b := 2) (by decide) pos
  rw [le_div_iff₀ (by positivity)]
  calc (2 : ℚ) ^ 52 * 2 ^ lastPlace q = 2 ^ (52 + lastPlace q) := by
        rw [zpow_add₀ two_ne_zero]
        rfl
    _ ≤ 2 ^ Int.log 2 q := zpow_le_zpow_right₀ one_le_two (by unfold lastPlace at high ⊢; omega)
    _ ≤ q := bottom

theorem units_bounds {q : ℚ} (pos : 0 < q) : roundEven (q / 2 ^ lastPlace q) ≤ 2 ^ 53 ∧
    (2 ^ 52 ≤ roundEven (q / 2 ^ lastPlace q) ∨ lastPlace q = -1074) := by
  have top := div_lastPlace_lt q
  refine ⟨roundEven_le (by positivity) (by exact_mod_cast top), ?_⟩
  by_cases low : lastPlace q = -1074
  · exact .inr low
  · have bottom := le_div_lastPlace pos low
    exact .inl (le_roundEven (by exact_mod_cast bottom))

theorem shiftToExponent_of_le {m : ℕ} {e t : ℤ} (acc : Accuracy) (le : t ≤ e) :
    shiftToExponent m e acc t = (.ofMantissaAndAccuracy m acc, e) := by
  have none : (t - e).toNat = 0 := by omega
  unfold shiftToExponent
  rw [none]
  exact Prod.ext rfl (add_zero e)

theorem finish_eq {units : ℕ} {place : ℤ} (le : units ≤ 2 ^ 53) (reach : -1074 ≤ place)
    (full : 2 ^ 52 ≤ units ∨ place = -1074) :
    (let parts := shiftToTargetExponent Format.binary64 units place .exact
      if h : parts.1.mantissa = 0 then UnpackedFloat.zero .positive
      else .finite .positive parts.1.mantissa parts.2 (Nat.pos_of_ne_zero h)) = ofUnits units place := by
  by_cases many : units = 2 ^ 53
  · subst many
    have target : Format.binary64.targetExponent (totalExponent (2 ^ 53) place) = place + 1 := by
      rw [targetExponent_eq, totalExponent, Nat.log2_two_pow]
      omega
    have shift : shiftToTargetExponent Format.binary64 (2 ^ 53) place .exact =
        (⟨2 ^ 52, false, false⟩, place + 1) := by
      unfold shiftToTargetExponent
      dsimp only
      rw [target]
      unfold shiftToExponent
      rw [show (place + 1 - place).toNat = 1 by omega]
      rfl
    dsimp only
    rw [shift]
    rfl
  · have few : units.log2 ≤ 52 := by
      by_cases zero : units = 0
      · rw [zero]
        decide
      · exact Nat.le_of_lt_succ ((Nat.log2_lt zero).2 (lt_of_le_of_ne le many))
    have target : Format.binary64.targetExponent (totalExponent units place) ≤ place := by
      rw [targetExponent_eq, totalExponent]
      omega
    unfold shiftToTargetExponent
    dsimp only
    rw [shiftToExponent_of_le .exact target]
    unfold ofUnits
    simp only [mantissa_ofMantissaAndAccuracy, many, if_false]

theorem roundWithAccuracy_eq {m : ℕ} {e : ℤ} {acc : Accuracy} {q : ℚ} (pos : 0 < q)
    (h : Holds (.ofMantissaAndAccuracy m acc) (q / 2 ^ e)) (reach : e ≤ lastPlace q) :
    roundWithAccuracy Format.binary64 .positive m e acc = rounded q := by
  have target := targetExponent_of_holds pos h reach
  rw [mantissa_ofMantissaAndAccuracy] at target
  obtain ⟨n, steps⟩ := Int.eq_ofNat_of_zero_le (sub_nonneg.2 reach)
  have place : e + n = lastPlace q := by omega
  have shifted := (h.shiftRight n).roundedMantissa
  rw [div_div, ← zpow_natCast, ← zpow_add₀ two_ne_zero, place] at shifted
  obtain ⟨le, full⟩ := units_bounds pos
  have low : -1074 ≤ lastPlace q := le_max_right _ _
  rw [rounded, ← finish_eq le low full]
  unfold roundWithAccuracy
  have first : shiftToTargetExponent Format.binary64 m e acc =
      (ExtendedMantissa.ofMantissaAndAccuracy m acc >>> n, lastPlace q) := by
    unfold shiftToTargetExponent
    dsimp only
    rw [target]
    unfold shiftToExponent
    dsimp only
    rw [steps, Int.toNat_natCast, place]
  rw [first]
  dsimp only
  rw [shifted]

theorem div_eq {m d : ℕ} (some : 0 < m) (pos : 0 < d) :
    UnpackedFloat.div Format.binary64 (.finite .positive m 0 some) (.finite .positive d 0 pos) =
      rounded (m / d) := by
  have some' : (0 : ℚ) < m := Nat.cast_pos.2 some
  have pos' : (0 : ℚ) < d := Nat.cast_pos.2 pos
  have low : (2 : ℚ) ^ m.log2 ≤ m := by exact_mod_cast Nat.log2_self_le some.ne'
  have high : (d : ℚ) < 2 ^ (d.log2 + 1) := by exact_mod_cast Nat.lt_log2_self
  -- the quotient has as many digits as the two sizes differ in, or one less
  have log : (m.log2 : ℤ) - d.log2 - 1 ≤ Int.log 2 (m / d : ℚ) := by
    refine (Int.zpow_le_iff_le_log (b := 2) (by decide) (div_pos some' pos')).1 ?_
    rw [le_div_iff₀ pos']
    calc ((2 : ℕ) : ℚ) ^ ((m.log2 : ℤ) - d.log2 - 1) * d
        ≤ 2 ^ ((m.log2 : ℤ) - d.log2 - 1) * 2 ^ (d.log2 + 1) :=
          mul_le_mul_of_nonneg_left high.le (by positivity)
      _ = 2 ^ m.log2 := by
          rw [← zpow_natCast, ← zpow_add₀ two_ne_zero, ← zpow_natCast]
          push_cast
          congr 1
          ring
      _ ≤ m := low
  unfold UnpackedFloat.div divCore
  dsimp only
  set place := min ((0 : ℤ) - 0)
    (Format.binary64.targetExponent (totalExponent m 0 - totalExponent d 0)) with place_eq
  have reach : place ≤ lastPlace (m / d) := by
    rw [place_eq, targetExponent_eq, totalExponent, totalExponent, lastPlace]
    omega
  obtain ⟨n, steps⟩ : ∃ n : ℕ, place = -n := ⟨place.natAbs, by omega⟩
  rw [steps] at reach ⊢
  have shift : ((0 : ℤ) - 0 - -n).toNat = n := by omega
  rw [shift]
  refine roundWithAccuracy_eq (div_pos some' pos') ?_ reach
  have exact_digits : ((m <<< n : ℕ) : ℚ) / d = (m : ℚ) / d / 2 ^ (-n : ℤ) := by
    rw [Nat.shiftLeft_eq, zpow_neg, zpow_natCast, div_inv_eq_mul]
    push_cast
    ring
  rw [← exact_digits]
  exact holds_div (m <<< n) pos

theorem mul_eq {m p : ℕ} (some : 0 < m) (pos : 0 < p) (some' : 0 < m <<< 53) :
    UnpackedFloat.mul Format.binary64 (.finite .positive (m <<< 53) (-53) some') (.finite .positive p 0 pos) =
      rounded (m * p) := by
  have whole : (1 : ℚ) ≤ m * p := by exact_mod_cast Nat.mul_pos some pos
  have log : 0 ≤ Int.log 2 (m * p : ℚ) :=
    (Int.zpow_le_iff_le_log (by decide) (by linarith)).1 (by simpa using whole)
  refine roundWithAccuracy_eq (by linarith) ?_ (by unfold lastPlace; omega)
  have exact_digits : ((m <<< 53 * p : ℕ) : ℚ) = (m * p : ℚ) / 2 ^ (-53 + 0 : ℤ) := by
    rw [Nat.shiftLeft_eq, add_zero, zpow_neg, div_inv_eq_mul]
    push_cast
    ring
  rw [← exact_digits]
  exact holds_exact _

theorem rounded_zero : rounded 0 = .zero .positive := by
  unfold rounded
  rw [zero_div, show roundEven 0 = 0 from roundEven_natCast 0]
  rfl

theorem rounded_of_lt {q : ℚ} (pos : 0 < q) (small : q < 2 ^ (-1075 : ℤ)) : rounded q = .zero .positive := by
  have log : Int.log 2 q < -1075 := (Int.lt_zpow_iff_log_lt (by decide) pos).1 (by exact_mod_cast small)
  have place : lastPlace q = -1074 := by
    unfold lastPlace
    omega
  have units : roundEven (q / 2 ^ (-1074 : ℤ)) = 0 := by
    refine roundEven_eq_of_lt (by positivity) ?_
    rw [div_lt_iff₀ (by positivity)]
    calc q < 2 ^ (-1075 : ℤ) := small
      _ = _ := by
        rw [show (-1075 : ℤ) = -1 + -1074 by norm_num, zpow_add₀ two_ne_zero]
        norm_num
  rw [rounded, place, units]
  rfl

theorem pack_of_le {m : ℕ} {e : ℤ} (pos : 0 < m) (far : 972 ≤ e) :
    Float.Model.pack (.finite .positive m e pos) = Float.Model.pack (.infinity .positive) := by
  have biased : 2 ^ 11 ≤ (e + (1023 : ℕ) + (52 : ℕ)).toNat + 1 := by omega
  unfold Float.Model.pack UnpackedFloat.pack
  congr 1
  exact congrArg _ (if_pos biased)

theorem pack_rounded_of_le {q : ℚ} (large : 2 ^ (1024 : ℤ) ≤ q) :
    Float.Model.pack (rounded q) = Float.Model.pack (.infinity .positive) := by
  have pos : 0 < q := lt_of_lt_of_le (by positivity) large
  have log : 1024 ≤ Int.log 2 q := (Int.zpow_le_iff_le_log (by decide) pos).1 (by exact_mod_cast large)
  have place : 972 ≤ lastPlace q := by
    unfold lastPlace
    omega
  have some : roundEven (q / 2 ^ lastPlace q) ≠ 0 := by
    have full := (units_bounds pos).2.resolve_right (by omega)
    omega
  unfold rounded ofUnits
  rw [dif_neg some]
  split
  · exact pack_of_le _ (by omega)
  · exact pack_of_le _ place

theorem tiny_of_lt {m : ℕ} {e : ℤ} (some : m ≠ 0) (low : e < -(2048 + (m.log2 : ℤ))) :
    (m : ℚ) * 10 ^ e < 2 ^ (-1075 : ℤ) := by
  have digits : (m : ℚ) < 2 ^ (m.log2 + 1) := by exact_mod_cast Nat.lt_log2_self
  have tens : (10 : ℚ) ^ e ≤ 2 ^ e := by
    obtain ⟨n, rfl⟩ : ∃ n : ℕ, e = -n := ⟨e.natAbs, by omega⟩
    rw [zpow_neg, zpow_neg, zpow_natCast, zpow_natCast]
    exact inv_anti₀ (by positivity) (pow_le_pow_left₀ two_pos.le (by norm_num) n)
  calc (m : ℚ) * 10 ^ e ≤ m * 2 ^ e := mul_le_mul_of_nonneg_left tens (by positivity)
    _ < 2 ^ (m.log2 + 1) * 2 ^ e := mul_lt_mul_of_pos_right digits (by positivity)
    _ = 2 ^ ((m.log2 + 1 : ℕ) + e : ℤ) := by rw [zpow_add₀ two_ne_zero, zpow_natCast]
    _ ≤ 2 ^ (-1075 : ℤ) := zpow_le_zpow_right₀ one_le_two (by push_cast; omega)

theorem huge_of_lt {m : ℕ} {e : ℤ} (some : m ≠ 0) (high : 2048 < e) :
    (2 : ℚ) ^ (1024 : ℤ) ≤ m * 10 ^ e := by
  have digits : (1 : ℚ) ≤ m := by exact_mod_cast Nat.one_le_iff_ne_zero.2 some
  calc (2 : ℚ) ^ (1024 : ℤ) ≤ 2 ^ e := zpow_le_zpow_right₀ one_le_two (by omega)
    _ ≤ 10 ^ e := by
        obtain ⟨n, rfl⟩ := Int.eq_ofNat_of_zero_le (show 0 ≤ e by omega)
        rw [zpow_natCast, zpow_natCast]
        exact pow_le_pow_left₀ two_pos.le (by norm_num) n
    _ ≤ m * 10 ^ e := le_mul_of_one_le_left (by positivity) digits

theorem ofDecimal_eq (digits : ℕ) (exponent : ℤ) :
    ofDecimal digits exponent = nearestTo (digits * 10 ^ exponent) := by
  refine congrArg Float.ofModel ?_
  unfold Float.Model.ofScientific UnpackedFloat.ofScientific
  split
  · rename_i zero
    rw [zero, Nat.cast_zero, zero_mul, rounded_zero]
  rename_i some
  have pos : (0 : ℚ) < digits * 10 ^ exponent :=
    mul_pos (Nat.cast_pos.2 (Nat.pos_of_ne_zero some)) (by positivity)
  split
  · rename_i high
    exact (pack_rounded_of_le (huge_of_lt some high)).symm
  split
  · rename_i low
    rw [rounded_of_lt pos (tiny_of_lt some low)]
  split
  · rename_i up
    obtain ⟨n, rfl⟩ := Int.eq_ofNat_of_zero_le up
    have size : (digits * 10 ^ (n : ℤ) : ℚ) = digits * (10 ^ n : ℕ) := by
      rw [zpow_natCast]
      push_cast
      rfl
    rw [size, ← mul_eq (Nat.pos_of_ne_zero some) (Nat.pow_pos (by decide))
      (by simpa [Nat.pos_iff_ne_zero] using some)]
    rfl
  · rename_i down
    obtain ⟨n, rfl⟩ : ∃ n : ℕ, exponent = -n := ⟨exponent.natAbs, by omega⟩
    have size : (digits * 10 ^ (-n : ℤ) : ℚ) = digits / (10 ^ n : ℕ) := by
      rw [zpow_neg, zpow_natCast, ← div_eq_mul_inv]
      push_cast
      rfl
    rw [size, ← div_eq (Nat.pos_of_ne_zero some) (Nat.pow_pos (by decide))]
    simp only [neg_neg, Int.toNat_natCast]

/-- A number in the form in which it is stored. -/
def Stored : UnpackedFloat → Prop
  | .zero _ | .infinity _ => True
  | .finite _ m e _ => m < 2 ^ 53 ∧ -1074 ≤ e ∧ e ≤ 971 ∧ (2 ^ 52 ≤ m ∨ e = -1074)
  | .notANumber => False

theorem Stored.neg {f : UnpackedFloat} (h : Stored f) : Stored f.neg := by
  cases f with
  | notANumber => exact h.elim
  | infinity s => trivial
  | zero s => trivial
  | finite s m e pos => exact h

theorem ofNat_ne {n b : ℕ} (b' : BitVec n) (small : b < 2 ^ n) (other : b ≠ b'.toNat) :
    BitVec.ofNat n b ≠ b' := by
  rintro rfl
  rw [BitVec.toNat_ofNat, Nat.mod_eq_of_lt small] at other
  exact other rfl

theorem toNat_leading (m : ℕ) (low : 2 ^ 52 ≤ m) (high : m < 2 ^ 53) :
    (1#1 ++ BitVec.ofNat 52 m).toNat = m := by
  rw [BitVec.toNat_append, ← Nat.shiftLeft_add_eq_or_of_lt (BitVec.isLt _), BitVec.toNat_ofNat]
  simp only [BitVec.toNat_ofNat, Nat.shiftLeft_eq]
  omega

theorem unpack_normal (s : Sign) {b m : ℕ} (some : 0 < b) (finite : b < 2047) (low : 2 ^ 52 ≤ m)
    (high : m < 2 ^ 53) :
    UnpackedFloat.unpack Format.binary64
        (packComponents Format.binary64 s (BitVec.ofNat 11 b) (BitVec.ofNat 52 m)) =
      .finite s m (b - 1075) (by omega) := by
  have value : (BitVec.ofNat 11 b).toNat = b := by
    rw [BitVec.toNat_ofNat, Nat.mod_eq_of_lt (by omega)]
  have digits := toNat_leading m low high
  unfold UnpackedFloat.unpack
  simp only [unpackMantissa_packComponents, unpackExponent_packComponents, unpackSign_packComponents,
    Sign.ofBitVec_toBitVec]
  rw [if_neg (ofNat_ne _ (by omega) finite.ne), if_neg (ofNat_ne _ (by omega) some.ne')]
  simp only [digits, value]
  rfl

theorem unpack_small (s : Sign) {m : ℕ} (some : 0 < m) (high : m < 2 ^ 52) :
    UnpackedFloat.unpack Format.binary64 (packComponents Format.binary64 s 0#11 (BitVec.ofNat 52 m)) =
      .finite s m (-1074) some := by
  have value : (BitVec.ofNat 52 m).toNat = m := by
    rw [BitVec.toNat_ofNat, Nat.mod_eq_of_lt high]
  have zero : (0#11 : BitVec 11) ≠ -1#11 := by decide
  unfold UnpackedFloat.unpack
  simp only [unpackMantissa_packComponents, unpackExponent_packComponents, unpackSign_packComponents,
    Sign.ofBitVec_toBitVec]
  rw [if_neg zero, if_pos trivial, dif_neg (ofNat_ne 0#52 high some.ne')]
  simp only [value]
  rfl

theorem unpack_pack {f : UnpackedFloat} (h : Stored f) :
    UnpackedFloat.unpack Format.binary64 (UnpackedFloat.pack Format.binary64 f) = f := by
  cases f with
  | notANumber => exact h.elim
  | infinity s => cases s <;> rfl
  | zero s => cases s <;> rfl
  | finite s m e pos =>
    obtain ⟨top, low, high, full⟩ := h
    obtain ⟨b, biased⟩ : ∃ b : ℕ, e + (1023 : ℕ) + (52 : ℕ) = b :=
      ⟨_, (Int.toNat_of_nonneg (by omega)).symm⟩
    have packed : UnpackedFloat.pack Format.binary64 (.finite s m e pos) =
        if 2 ^ 11 ≤ (e + (1023 : ℕ) + (52 : ℕ)).toNat + 1 then packedInfinity Format.binary64 s
        else if m.log2 + 1 = 53 then packComponents Format.binary64 s
          (BitVec.ofNat 11 (e + (1023 : ℕ) + (52 : ℕ)).toNat) (BitVec.ofNat 52 m)
        else packComponents Format.binary64 s 0#11 (BitVec.ofNat 52 m) := rfl
    rw [packed, biased, Int.toNat_natCast, if_neg (by omega)]
    by_cases normal : 2 ^ 52 ≤ m
    · have log : m.log2 + 1 = 53 := by
        have fits := (Nat.log2_lt pos.ne').2 top
        have fills := (Nat.le_log2 pos.ne').2 normal
        omega
      rw [if_pos log, unpack_normal s (by omega) (by omega) normal top]
      congr 1
      omega
    · have log : ¬m.log2 + 1 = 53 := by
        have fits := (Nat.log2_lt pos.ne').2 (Nat.lt_of_not_le normal)
        omega
      rw [if_neg log, unpack_small s pos (Nat.lt_of_not_le normal)]
      congr 1
      exact (full.resolve_left normal).symm

theorem exists_stored {q : ℚ} (nonneg : 0 ≤ q) :
    ∃ f, Stored f ∧ Float.Model.pack (rounded q) = Float.Model.pack f := by
  rcases nonneg.eq_or_lt with rfl | pos
  · exact ⟨.zero .positive, trivial, congrArg _ rounded_zero⟩
  obtain ⟨le, full⟩ := units_bounds pos
  have low : -1074 ≤ lastPlace q := le_max_right _ _
  unfold rounded ofUnits
  split
  · exact ⟨.zero .positive, trivial, rfl⟩
  split
  · by_cases far : 972 ≤ lastPlace q + 1
    · exact ⟨.infinity .positive, trivial, pack_of_le _ far⟩
    · refine ⟨_, ?_, rfl⟩
      exact ⟨by norm_num, by omega, by omega, .inl le_rfl⟩
  · rename_i other
    by_cases far : 972 ≤ lastPlace q
    · exact ⟨.infinity .positive, trivial, pack_of_le _ far⟩
    · refine ⟨_, ?_, rfl⟩
      exact ⟨lt_of_le_of_ne le other, low, by omega, full⟩

theorem neg_neg_unpacked (f : UnpackedFloat) : f.neg.neg = f := by
  cases f with
  | notANumber => rfl
  | infinity s | zero s | finite s => cases s <;> rfl

theorem neg_nearestTo_inj {p q : ℚ} (nonneg : 0 ≤ p) (nonneg' : 0 ≤ q) :
    -nearestTo p = -nearestTo q ↔ nearestTo p = nearestTo q := by
  refine ⟨fun same => ?_, congrArg _⟩
  obtain ⟨f, stored, packed⟩ := exists_stored nonneg
  obtain ⟨g, stored', packed'⟩ := exists_stored nonneg'
  unfold nearestTo at same ⊢
  rw [packed, packed'] at same ⊢
  have negated {f : UnpackedFloat} (h : Stored f) :
      (-Float.ofModel (Float.Model.pack f)).toModel.unpack = f.neg := by
    change UnpackedFloat.unpack Format.binary64 (UnpackedFloat.pack Format.binary64 (UnpackedFloat.unpack
      Format.binary64 (UnpackedFloat.pack Format.binary64 f)).neg) = _
    rw [unpack_pack h, unpack_pack h.neg]
  have same := congrArg (fun x : Float => x.toModel.unpack.neg) same
  rw [negated stored, negated stored', neg_neg_unpacked, neg_neg_unpacked] at same
  rw [same]

end LineTemplate.Number

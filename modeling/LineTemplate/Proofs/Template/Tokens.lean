import LineTemplate.Template.Field

/-!
Tokens, as they are found and as they are written. The scan for a token finds exactly the texts that stand
between delimiters: one with balanced parentheses, or one up to the first right guillemet.
-/

set_option autoImplicit false

namespace LineTemplate

/-- A text whose parentheses close `depth` more than the text opens, and no more than that at any point. -/
structure Settles (depth : Nat) (t : Text) : Prop where
  settled : t.count (CodeUnit.ofChar ')') = t.count (CodeUnit.ofChar '(') + depth
  sane : ∀ p, p <+: t → p.count (CodeUnit.ofChar ')') ≤ p.count (CodeUnit.ofChar '(') + depth

namespace Settles

theorem nil_iff (depth : Nat) : Settles depth [] ↔ depth = 0 := by
  constructor
  · intro h
    have settled := h.settled
    simp only [List.count_nil] at settled
    omega
  · rintro rfl
    refine ⟨rfl, fun p inside => ?_⟩
    rw [List.prefix_nil.1 inside]
    exact Nat.le_refl _

theorem cons_iff {depth depth' : Nat} {c : CodeUnit} (t : Text)
    (step : [c].count (CodeUnit.ofChar ')') + depth' = [c].count (CodeUnit.ofChar '(') + depth) :
    Settles depth (c :: t) ↔ Settles depth' t := by
  have closes (p : Text) : (c :: p).count (CodeUnit.ofChar ')') =
      [c].count (CodeUnit.ofChar ')') + p.count (CodeUnit.ofChar ')') :=
    by rw [← List.singleton_append, List.count_append]
  have opens (p : Text) : (c :: p).count (CodeUnit.ofChar '(') =
      [c].count (CodeUnit.ofChar '(') + p.count (CodeUnit.ofChar '(') :=
    by rw [← List.singleton_append, List.count_append]
  constructor
  · intro h
    refine ⟨?_, fun p inside => ?_⟩
    · have settled := h.settled
      rw [closes, opens] at settled
      omega
    · have sane := h.sane (c :: p) (List.prefix_cons_inj c |>.2 inside)
      rw [closes, opens] at sane
      omega
  · intro h
    refine ⟨?_, fun p inside => ?_⟩
    · have settled := h.settled
      rw [closes, opens]
      omega
    · rcases List.prefix_cons_iff.1 inside with rfl | ⟨q, rfl, inner⟩
      · simp
      · have sane := h.sane q inner
        rw [closes, opens]
        omega

theorem cons_opening (depth : Nat) (t : Text) :
    Settles depth (CodeUnit.ofChar '(' :: t) ↔ Settles (depth + 1) t :=
  cons_iff t (by rw [show [CodeUnit.ofChar '('].count (CodeUnit.ofChar ')') = 0 by decide,
    show [CodeUnit.ofChar '('].count (CodeUnit.ofChar '(') = 1 by decide]; omega)

theorem cons_closing (depth : Nat) (t : Text) :
    Settles (depth + 1) (CodeUnit.ofChar ')' :: t) ↔ Settles depth t :=
  cons_iff t (by rw [show [CodeUnit.ofChar ')'].count (CodeUnit.ofChar ')') = 1 by decide,
    show [CodeUnit.ofChar ')'].count (CodeUnit.ofChar '(') = 0 by decide]; omega)

theorem not_cons_closing (t : Text) : ¬Settles 0 (CodeUnit.ofChar ')' :: t) := by
  intro h
  have sane := h.sane [CodeUnit.ofChar ')'] (List.prefix_append [_] t)
  exact absurd sane (by decide)

theorem cons_other {c : CodeUnit} (depth : Nat) (t : Text) (opens : c ≠ CodeUnit.ofChar '(')
    (closes : c ≠ CodeUnit.ofChar ')') : Settles depth (c :: t) ↔ Settles depth t :=
  cons_iff t (by rw [List.count_singleton, List.count_singleton, beq_eq_false_iff_ne.2 opens,
    beq_eq_false_iff_ne.2 closes])

end Settles

namespace DelimiterStyle

/-- What stands between the delimiters of a token: a text with balanced parentheses, or one without the
right guillemet. -/
def Encloses : DelimiterStyle → Text → Prop
  | .standard, e => Settles 0 e
  | .alternate, e => rightMark ∉ e

theorem untilClosed?_cons (depth : Nat) (c : CodeUnit) (rest : Text) : untilClosed? depth (c :: rest) =
    if c = CodeUnit.ofChar '(' then
      (untilClosed? (depth + 1) rest).map fun (inner, after) => (c :: inner, after)
    else if c = CodeUnit.ofChar ')' then
      match depth with
      | 0 => some ([], rest)
      | d + 1 => (untilClosed? d rest).map fun (inner, after) => (c :: inner, after)
    else (untilClosed? depth rest).map fun (inner, after) => (c :: inner, after) := rfl

theorem settles_of_untilClosed? {depth : Nat} {t inner after : Text}
    (h : untilClosed? depth t = some (inner, after)) :
    Settles depth inner ∧ t = inner ++ CodeUnit.ofChar ')' :: after := by
  induction t generalizing depth inner after with
  | nil => simp [untilClosed?] at h
  | cons c rest ih =>
    rw [untilClosed?_cons] at h
    split at h
    · rename_i opens
      obtain ⟨⟨i, a⟩, found, same⟩ := Option.map_eq_some_iff.1 h
      cases same
      obtain ⟨settles, rfl⟩ := ih found
      rw [opens, Settles.cons_opening]
      exact ⟨settles, rfl⟩
    · rename_i plain
      split at h
      · rename_i closes
        cases depth with
        | zero =>
          cases h
          exact ⟨(Settles.nil_iff 0).2 rfl, congrArg (· :: rest) closes⟩
        | succ d =>
          obtain ⟨⟨i, a⟩, found, same⟩ := Option.map_eq_some_iff.1 h
          cases same
          obtain ⟨settles, rfl⟩ := ih found
          rw [closes, Settles.cons_closing]
          exact ⟨settles, rfl⟩
      · rename_i other
        obtain ⟨⟨i, a⟩, found, same⟩ := Option.map_eq_some_iff.1 h
        cases same
        obtain ⟨settles, rfl⟩ := ih found
        rw [Settles.cons_other _ _ plain other]
        exact ⟨settles, rfl⟩

theorem untilClosed?_of_settles {depth : Nat} {inner : Text} (settles : Settles depth inner)
    (after : Text) : untilClosed? depth (inner ++ CodeUnit.ofChar ')' :: after) = some (inner, after) := by
  induction inner generalizing depth with
  | nil =>
    rw [(Settles.nil_iff depth).1 settles]
    rfl
  | cons c inner ih =>
    rw [List.cons_append, untilClosed?_cons]
    split
    · rename_i opens
      rw [opens, Settles.cons_opening] at settles
      rw [ih settles]
      rfl
    · rename_i plain
      split
      · rename_i closes
        rw [closes] at settles
        cases depth with
        | zero => exact absurd settles (Settles.not_cons_closing inner)
        | succ d =>
          rw [Settles.cons_closing] at settles
          dsimp only
          rw [ih settles]
          rfl
      · rename_i other
        rw [Settles.cons_other _ _ plain other] at settles
        rw [ih settles]
        rfl

theorem untilMark?_eq_some_iff (t inner after : Text) :
    untilMark? t = some (inner, after) ↔ rightMark ∉ inner ∧ t = inner ++ rightMark :: after := by
  constructor
  · intro h
    induction t generalizing inner after with
    | nil => simp [untilMark?] at h
    | cons c rest ih =>
      rw [untilMark?] at h
      split at h
      · rename_i closes
        cases h
        exact ⟨List.not_mem_nil, congrArg (· :: rest) closes⟩
      · rename_i other
        obtain ⟨⟨i, a⟩, found, same⟩ := Option.map_eq_some_iff.1 h
        cases same
        obtain ⟨free, rfl⟩ := ih _ _ found
        rw [List.mem_cons, not_or]
        exact ⟨⟨fun same => other same.symm, free⟩, rfl⟩
  · rintro ⟨free, rfl⟩
    induction inner with
    | nil => rfl
    | cons c inner ih =>
      rw [List.mem_cons, not_or] at free
      rw [List.cons_append, untilMark?, if_neg fun same => free.1 same.symm, ih free.2]
      rfl

theorem standard_token_append (e after : Text) : token .standard e ++ after =
    CodeUnit.ofChar '$' :: CodeUnit.ofChar '(' :: (e ++ CodeUnit.ofChar ')' :: after) := by
  simp only [token, List.append_assoc]
  rfl

theorem alternate_token_append (e after : Text) :
    token .alternate e ++ after = leftMark :: (e ++ rightMark :: after) := by
  simp only [token, List.append_assoc]
  rfl

/-- The token that the scan finds at the start of a text is the one that is written there. -/
theorem tokenHere?_eq_some_iff (style : DelimiterStyle) (t e after : Text) :
    style.tokenHere? t = some (e, after) ↔ style.Encloses e ∧ t = style.token e ++ after := by
  cases style with
  | standard =>
    rw [standard_token_append]
    constructor
    · intro h
      rcases t with _ | ⟨dollar, _ | ⟨opening, rest⟩⟩
      · simp [tokenHere?] at h
      · simp [tokenHere?] at h
      · rw [tokenHere?] at h
        split at h
        · rename_i starts
          obtain ⟨settles, rfl⟩ := settles_of_untilClosed? h
          rw [starts.1, starts.2]
          exact ⟨settles, rfl⟩
        · simp at h
    · rintro ⟨settles, rfl⟩
      rw [tokenHere?, if_pos ⟨rfl, rfl⟩]
      exact untilClosed?_of_settles settles after
  | alternate =>
    rw [alternate_token_append]
    constructor
    · intro h
      cases t with
      | nil => simp [tokenHere?] at h
      | cons c rest =>
        rw [tokenHere?] at h
        split at h
        · rename_i starts
          obtain ⟨free, rfl⟩ := (untilMark?_eq_some_iff _ _ _).1 h
          rw [starts]
          exact ⟨free, rfl⟩
        · simp at h
    · rintro ⟨free, rfl⟩
      rw [tokenHere?, if_pos rfl]
      exact (untilMark?_eq_some_iff _ _ _).2 ⟨free, rfl⟩

end DelimiterStyle

end LineTemplate

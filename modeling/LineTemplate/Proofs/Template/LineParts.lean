import LineTemplate.Proofs.Template.Tokens
import LineTemplate.Template.Expansion

/-!
Lines and their parts. The parts of a classified line put together give the line again, and so do the
parts that a line is cut into at a token; hence no part holds a unit that its line does not hold.
-/

set_option autoImplicit false

namespace LineTemplate

namespace Line

theorem closedBody?_append (closing : CodeUnit) (t body trailing : Text)
    (h : closedBody? closing t = some (body, trailing)) : t = body ++ [closing] ++ trailing := by
  have whole := Text.splitEnd_append CodeUnit.isBlank t
  rw [closedBody?] at h
  simp only at h
  cases core : (Text.splitEnd CodeUnit.isBlank t).1.reverse with
  | nil => simp [core] at h
  | cons last before =>
    simp only [core] at h
    split at h
    · rename_i closes
      simp only [Bool.and_eq_true, decide_eq_true_eq] at closes
      obtain ⟨rfl, rfl⟩ := Prod.mk.inj (Option.some.inj h)
      have straight := congrArg List.reverse core
      rw [List.reverse_reverse, List.reverse_cons, closes.1] at straight
      rw [← straight, whole]
    · simp at h

theorem closedBody?_lineEnd (closing : CodeUnit) (t body trailing : Text)
    (h : closedBody? closing t = some (body, trailing)) :
    ∀ c ∈ body, c.isLineEnd = false := by
  rw [closedBody?] at h
  simp only at h
  cases core : (Text.splitEnd CodeUnit.isBlank t).1.reverse with
  | nil => simp [core] at h
  | cons last before =>
    simp only [core] at h
    split at h
    · rename_i closes
      simp only [Bool.and_eq_true, Bool.not_eq_true', List.any_eq_false] at closes
      obtain ⟨rfl, -⟩ := Prod.mk.inj (Option.some.inj h)
      intro c inside
      simpa using closes.2 c (List.mem_reverse.1 inside)
    · simp at h

theorem closedBody?_blank (closing : CodeUnit) (t body trailing : Text)
    (h : closedBody? closing t = some (body, trailing)) : ∀ c ∈ trailing, c.isBlank = true := by
  rw [closedBody?] at h
  simp only at h
  cases core : (Text.splitEnd CodeUnit.isBlank t).1.reverse with
  | nil => simp [core] at h
  | cons last before =>
    simp only [core] at h
    split at h
    · obtain ⟨-, rfl⟩ := Prod.mk.inj (Option.some.inj h)
      intro c inside
      exact List.all_eq_true.1 List.all_takeWhile c (List.mem_reverse.1 inside)
    · simp at h

theorem ofToken?_eq_some (indent run t : Text) (line : Line) (h : ofToken? indent run t = some line) :
    (∃ name trailing, line = .inclusion indent run name trailing ∧
      t = inclusionToken name ++ trailing ∧ (∀ c ∈ name, c.isLineEnd = false) ∧
      ∀ c ∈ trailing, c.isBlank = true) ∨
    (∃ expression trailing, line = .list indent run expression trailing ∧
      t = listToken expression ++ trailing ∧ (∀ c ∈ expression, c.isLineEnd = false) ∧
      ∀ c ∈ trailing, c.isBlank = true) := by
  match t, h with
  | dollar :: opening :: rest, h =>
    rw [ofToken?] at h
    split at h
    · simp at h
    · rename_i starts
      have dollar_eq : dollar = '$' := Decidable.not_not.1 starts
      split at h
      · rename_i opens
        obtain ⟨⟨name, trailing⟩, found, same⟩ := Option.map_eq_some_iff.1 h
        refine .inl ⟨name, trailing, same.symm, ?_, closedBody?_lineEnd _ _ _ _ found,
          closedBody?_blank _ _ _ _ found⟩
        rw [closedBody?_append _ _ _ _ found, dollar_eq, opens]
        rfl
      · split at h
        · rename_i opens
          obtain ⟨⟨expression, trailing⟩, found, same⟩ := Option.map_eq_some_iff.1 h
          refine .inr ⟨expression, trailing, same.symm, ?_, closedBody?_lineEnd _ _ _ _ found,
            closedBody?_blank _ _ _ _ found⟩
          rw [closedBody?_append _ _ _ _ found, dollar_eq, opens]
          rfl
        · simp at h

def parts : Line → Text
  | .statement code => code
  | .inclusion indent run name trailing => indent ++ run ++ inclusionToken name ++ trailing
  | .list indent run expression trailing => indent ++ run ++ listToken expression ++ trailing
  | .text content => content

theorem classify_parts (line : Text) : (classify line).parts <:+ line := by
  have whole := List.takeWhile_append_dropWhile (p := CodeUnit.isBlank) (l := line)
  unfold classify
  dsimp only
  split
  · exact List.suffix_refl line
  · rename_i c code rest_eq
    split
    · refine ⟨line.takeWhile CodeUnit.isBlank ++ [c], ?_⟩
      rw [List.append_assoc, List.singleton_append, parts, ← rest_eq, whole]
    · have runs := List.takeWhile_append_dropWhile (p := CodeUnit.isBackslash)
        (l := line.dropWhile CodeUnit.isBlank)
      cases found : ofToken? (line.takeWhile CodeUnit.isBlank)
          ((line.dropWhile CodeUnit.isBlank).takeWhile CodeUnit.isBackslash)
          ((line.dropWhile CodeUnit.isBlank).dropWhile CodeUnit.isBackslash) with
      | none => exact List.suffix_refl line
      | some token =>
        change token.parts <:+ line
        rcases ofToken?_eq_some _ _ _ _ found with ⟨_, _, rfl, rest, _⟩ | ⟨_, _, rfl, rest, _⟩
        · rewrite [parts, List.append_assoc, ← rest, List.append_assoc, runs, whole]
          exact List.suffix_refl line
        · rewrite [parts, List.append_assoc, ← rest, List.append_assoc, runs, whole]
          exact List.suffix_refl line

end Line

namespace DelimiterStyle

theorem cut?_append (style : DelimiterStyle) (t : Text) (cut : TokenCut)
    (h : style.cut? t = some cut) : t = cut.before ++ style.token cut.expression ++ cut.after := by
  induction t generalizing cut with
  | nil => simp [cut?] at h
  | cons c rest ih =>
    unfold cut? at h
    split at h
    · rename_i found
      cases h
      exact ((tokenHere?_eq_some_iff style _ _ _).1 found).2
    · obtain ⟨inner, found, same⟩ := Option.map_eq_some_iff.1 h
      subst same
      exact congrArg (c :: ·) (ih inner found)

theorem mem_token (style : DelimiterStyle) (e : Text) (c : CodeUnit) (h : c ∈ e) :
    c ∈ style.token e := by
  cases style <;> simp [token, h]

end DelimiterStyle

end LineTemplate

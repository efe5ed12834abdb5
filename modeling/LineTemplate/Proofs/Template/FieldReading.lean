import LineTemplate.Proofs.Template.Escaping

/-!
The reading of a text line. A reading cuts a line into literal text, a run of backslashes and a token, over
and over, and the text after the last token; it is leftmost when no token of the line starts before the one
that it takes next. Every line has exactly one leftmost reading, and the fields of the line are read off it:
what starts like a token and never closes is literal text, and tokens behind it are found.
-/

set_option autoImplicit false

namespace LineTemplate

namespace DelimiterStyle

/-- A token starts where this text starts. -/
def Starts (style : DelimiterStyle) (t : Text) : Prop :=
  ∃ e after, style.Encloses e ∧ t = style.token e ++ after

/-- No token starts inside of `before` when `after` follows it. -/
def Skips (style : DelimiterStyle) (before after : Text) : Prop :=
  ∀ p q, q ≠ [] → before = p ++ q → ¬style.Starts (q ++ after)

theorem tokenHere?_eq_none_iff (style : DelimiterStyle) (t : Text) :
    style.tokenHere? t = none ↔ ¬style.Starts t := by
  constructor
  · rintro none ⟨e, after, written⟩
    rw [(tokenHere?_eq_some_iff style t e after).2 written] at none
    cases none
  · intro free
    cases found : style.tokenHere? t with
    | none => rfl
    | some token => exact absurd ⟨_, _, (tokenHere?_eq_some_iff style t _ _).1 found⟩ free

theorem skips_nil (style : DelimiterStyle) (after : Text) : style.Skips [] after := by
  intro p q some whole
  exact absurd (List.append_eq_nil_iff.1 whole.symm).2 some

theorem skips_cons_iff (style : DelimiterStyle) (c : CodeUnit) (before after : Text) :
    style.Skips (c :: before) after ↔
      ¬style.Starts (c :: (before ++ after)) ∧ style.Skips before after := by
  constructor
  · intro h
    exact ⟨h [] (c :: before) (List.cons_ne_nil _ _) rfl,
      fun p q some whole => h (c :: p) q some (congrArg (c :: ·) whole)⟩
  · rintro ⟨first, later⟩ p q some whole
    cases p with
    | nil =>
      rw [← (show c :: before = q from whole)]
      exact first
    | cons d p => exact later p q some (List.cons.inj whole).2

theorem cut?_eq_some_iff (style : DelimiterStyle) (t : Text) (cut : TokenCut) :
    style.cut? t = some cut ↔ t = cut.before ++ (style.token cut.expression ++ cut.after) ∧
      style.Encloses cut.expression ∧
      style.Skips cut.before (style.token cut.expression ++ cut.after) := by
  constructor
  · intro h
    induction t generalizing cut with
    | nil => simp [cut?] at h
    | cons c rest ih =>
      rw [cut?] at h
      split at h
      · rename_i found
        cases h
        obtain ⟨encloses, whole⟩ := (tokenHere?_eq_some_iff style _ _ _).1 found
        exact ⟨whole, encloses, style.skips_nil _⟩
      · rename_i none
        obtain ⟨inner, found, rfl⟩ := Option.map_eq_some_iff.1 h
        obtain ⟨whole, encloses, skips⟩ := ih inner found
        refine ⟨congrArg (c :: ·) whole, encloses, (style.skips_cons_iff _ _ _).2 ⟨?_, skips⟩⟩
        rw [← whole]
        exact (tokenHere?_eq_none_iff style _).1 none
  · rintro ⟨whole, encloses, skips⟩
    obtain ⟨before, e, after⟩ := cut
    dsimp only at whole encloses skips
    subst whole
    have here : style.tokenHere? (style.token e ++ after) = some (e, after) :=
      (tokenHere?_eq_some_iff style _ _ _).2 ⟨encloses, rfl⟩
    induction before with
    | nil => exact style.cut?_backslashes_append 0 here
    | cons c before ih =>
      obtain ⟨first, later⟩ := (style.skips_cons_iff _ _ _).1 skips
      rw [List.cons_append, cut?, (tokenHere?_eq_none_iff style _).2 first, ih later]
      rfl

theorem cut?_eq_none_iff (style : DelimiterStyle) (t : Text) : style.cut? t = none ↔ style.Skips t [] := by
  induction t with
  | nil => exact iff_of_true rfl (style.skips_nil [])
  | cons c rest ih =>
    rw [skips_cons_iff, List.append_nil, ← tokenHere?_eq_none_iff, ← ih, cut?]
    split <;> rename_i here <;> simp [here]

end DelimiterStyle

/-- Literal text, the backslashes after it and the token that they stand before. -/
structure Piece where
  literal : Text
  run : Nat
  expression : Text
deriving DecidableEq, Repr

namespace Piece

def before (p : Piece) : Text := p.literal ++ Quoting.backslashes p.run

/-- What a piece gives: half of its backslashes, and its token as text when their number is odd. -/
def segment (style : DelimiterStyle) (p : Piece) : Segment where
  lead := p.literal ++ Quoting.backslashes (p.run / 2) ++
    if p.run % 2 = 1 then style.token p.expression else []
  expression := if p.run % 2 = 0 ∧ p.expression ≠ [] then some p.expression else none

def ofCut (cut : TokenCut) : Piece where
  literal := (Quoting.splitRun cut.before).1
  run := (Quoting.splitRun cut.before).2.length
  expression := cut.expression

theorem before_ofCut (cut : TokenCut) : (ofCut cut).before = cut.before := by
  rw [before, ofCut, ← Quoting.splitRun_eq_backslashes]
  exact Text.splitEnd_append _ _

theorem getLast?_ofCut (cut : TokenCut) : (ofCut cut).literal.getLast? ≠ some (CodeUnit.ofChar '\\') := by
  change (cut.before.reverse.dropWhile CodeUnit.isBackslash).reverse.getLast? ≠ _
  rw [List.getLast?_reverse]
  intro last
  have stops := List.head?_dropWhile_not CodeUnit.isBackslash cut.before.reverse
  rw [last] at stops
  exact absurd stops (by decide)

theorem ofCut_before (p : Piece) (after : Text)
    (ending : p.literal.getLast? ≠ some (CodeUnit.ofChar '\\')) :
    ofCut ⟨p.before, p.expression, after⟩ = p := by
  have bare : Text.splitEnd CodeUnit.isBackslash p.literal = (p.literal, []) := by
    have stops : p.literal.reverse.head? ≠ some (CodeUnit.ofChar '\\') := by
      rwa [List.head?_reverse]
    unfold Text.splitEnd
    cases reversed : p.literal.reverse with
    | nil => simpa using reversed
    | cons c rest =>
      have visible : c.isBackslash = false := by
        rw [reversed] at stops
        simpa [CodeUnit.isBackslash] using stops
      rw [List.dropWhile_cons_of_neg (by simp [visible]), List.takeWhile_cons_of_neg (by simp [visible]),
        ← reversed, List.reverse_reverse]
      rfl
  have split : Quoting.splitRun p.before = (p.literal, Quoting.backslashes p.run) := by
    unfold Quoting.splitRun before
    rw [Text.splitEnd_append_right _ _ _ fun c => Quoting.isBackslash_of_mem_backslashes, bare]
    rfl
  unfold ofCut
  dsimp only
  rw [split]
  simp [Quoting.backslashes]

theorem segment_ofCut (style : DelimiterStyle) (cut : TokenCut) :
    (ofCut cut).segment style = Segment.ofCut style cut := by
  unfold Segment.ofCut Quoting.ofRun ofCut segment
  dsimp only
  by_cases odd : (Quoting.splitRun cut.before).2.length % 2 = 1
  · have uneven : ¬(Quoting.splitRun cut.before).2.length % 2 = 0 := by omega
    rw [if_pos odd, if_neg fun h => uneven h.1, if_pos (beq_iff_eq.2 odd)]
  · have even : (Quoting.splitRun cut.before).2.length % 2 = 0 := by omega
    rw [if_neg odd, if_neg fun h => odd (beq_iff_eq.1 h), List.append_nil]
    by_cases empty : cut.expression = []
    · simp [empty]
    · rw [if_pos ⟨even, empty⟩, if_neg fun h => empty (List.isEmpty_iff.1 h)]

end Piece

/-- A line as pieces and the text after the last token. -/
structure Reading where
  pieces : List Piece
  rest : Text
deriving DecidableEq, Repr

namespace Reading

def text (style : DelimiterStyle) : List Piece → Text → Text
  | [], rest => rest
  | p :: pieces, rest => p.before ++ (style.token p.expression ++ text style pieces rest)

/-- Each piece has a token, all backslashes before it are in its run, and no token starts before it; no
token starts in the rest. -/
def IsLeftmost (style : DelimiterStyle) : List Piece → Text → Prop
  | [], rest => style.Skips rest []
  | p :: pieces, rest => style.Encloses p.expression ∧
      p.literal.getLast? ≠ some (CodeUnit.ofChar '\\') ∧
      style.Skips p.before (style.token p.expression ++ text style pieces rest) ∧
      IsLeftmost style pieces rest

structure Of (style : DelimiterStyle) (line : Text) (r : Reading) : Prop where
  spelled : text style r.pieces r.rest = line
  leftmost : IsLeftmost style r.pieces r.rest

/-- The segments and the trailing text of a reading. -/
def tokenized (style : DelimiterStyle) (r : Reading) : TokenizedLine :=
  ⟨r.pieces.map (Piece.segment style), r.rest⟩

variable {style : DelimiterStyle}

theorem cut?_nil {rest : Text} (h : IsLeftmost style [] rest) : style.cut? (text style [] rest) = none :=
  (style.cut?_eq_none_iff rest).2 h

theorem cut?_cons {p : Piece} {pieces : List Piece} {rest : Text}
    (h : IsLeftmost style (p :: pieces) rest) : style.cut? (text style (p :: pieces) rest) =
      some ⟨p.before, p.expression, text style pieces rest⟩ :=
  (style.cut?_eq_some_iff _ _).2 ⟨rfl, h.1, h.2.2.1⟩

theorem eq_of_text_eq {pieces pieces' : List Piece} {rest rest' : Text}
    (h : IsLeftmost style pieces rest) (h' : IsLeftmost style pieces' rest')
    (same : text style pieces rest = text style pieces' rest') : pieces = pieces' ∧ rest = rest' := by
  induction pieces generalizing pieces' with
  | nil =>
    cases pieces' with
    | nil => exact ⟨rfl, same⟩
    | cons p' pieces' =>
      have cut := cut?_cons h'
      rw [← same, cut?_nil h] at cut
      cases cut
  | cons p pieces ih =>
    cases pieces' with
    | nil =>
      have cut := cut?_cons h
      rw [same, cut?_nil h'] at cut
      cases cut
    | cons p' pieces' =>
      have cut := cut?_cons h
      rw [same, cut?_cons h'] at cut
      obtain ⟨before, expression, after⟩ := TokenCut.mk.inj (Option.some.inj cut)
      have first : p' = p := by
        rw [← Piece.ofCut_before p' [] h'.2.1, before, expression, Piece.ofCut_before p [] h.2.1]
      obtain ⟨rfl, rfl⟩ := ih h.2.2.2 h'.2.2.2 after.symm
      exact ⟨by rw [first], rfl⟩

theorem Of.unique {line : Text} {r r' : Reading} (h : r.Of style line) (h' : r'.Of style line) :
    r = r' := by
  obtain ⟨pieces, rest⟩ := r
  obtain ⟨pieces', rest'⟩ := r'
  obtain ⟨rfl, rfl⟩ := eq_of_text_eq h.leftmost h'.leftmost (h.spelled.trans h'.spelled.symm)
  rfl

end Reading

namespace TokenizedLine

theorem exists_reading (style : DelimiterStyle) (line : Text) :
    ∃ r : Reading, r.Of style line ∧ ofText style line = r.tokenized style := by
  fun_induction ofText style line with
  | case1 line none => exact ⟨⟨[], line⟩, ⟨rfl, (style.cut?_eq_none_iff line).1 none⟩, rfl⟩
  | case2 line cut found _ rest ih =>
    obtain ⟨r, ⟨spelled, leftmost⟩, fields⟩ := ih
    obtain ⟨whole, encloses, skips⟩ := (style.cut?_eq_some_iff line cut).1 found
    refine ⟨⟨Piece.ofCut cut :: r.pieces, r.rest⟩, ⟨?_, encloses, Piece.getLast?_ofCut cut, ?_, leftmost⟩,
      ?_⟩
    · rw [Reading.text, Piece.before_ofCut, spelled]
      exact whole.symm
    · rw [Piece.before_ofCut, spelled]
      exact skips
    · rw [← Piece.segment_ofCut, show rest = _ from fields]
      rfl

/-- Every line has exactly one leftmost reading, and its segments, its trailing text and whether it holds
a token at all are read off there. -/
theorem ofText_reading (style : DelimiterStyle) (line : Text) :
    ∃ r : Reading, r.Of style line ∧ (∀ other : Reading, other.Of style line → other = r) ∧
      ofText style line = r.tokenized style ∧
      ((ofText style line).matched = true ↔ 0 < r.pieces.length) := by
  obtain ⟨r, reads, fields⟩ := exists_reading style line
  refine ⟨r, reads, fun other h => h.unique reads, fields, ?_⟩
  rw [fields, matched, Reading.tokenized]
  cases r.pieces <;> simp

/-- An opening that never closes, a token inside of it, and one behind three backslashes. -/
example : ofText .standard ("$(a \\\\$(b()) \\\\\\$(c)" : Text) =
    Reading.tokenized .standard
      ⟨[⟨("$(a " : Text), 2, ("b()" : Text)⟩, ⟨(" " : Text), 3, ("c" : Text)⟩], []⟩ := by cbv

end TokenizedLine

end LineTemplate

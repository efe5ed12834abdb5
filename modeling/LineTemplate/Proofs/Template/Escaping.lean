import LineTemplate.Proofs.Template.Indentation

/-!
Lines for given texts. A text is written as a line by doubling the backslashes before each of its tokens
and adding one more, which escapes the token; an empty field in front keeps the line from being a statement,
a list or an inclusion. Added backslashes leave all other units in their order, so the same tokens are found
again, at the same places, and each gives back what was written for it.
-/

set_option autoImplicit false

namespace LineTemplate

theorem Quoting.isBackslash_of_mem_backslashes {n : Nat} {c : CodeUnit} (h : c ∈ backslashes n) :
    c.isBackslash = true := by
  rw [List.eq_of_mem_replicate h]
  decide

namespace Text

def withoutBackslashes (t : Text) : Text := t.filter fun c => !c.isBackslash

theorem withoutBackslashes_append (a b : Text) :
    withoutBackslashes (a ++ b) = withoutBackslashes a ++ withoutBackslashes b :=
  List.filter_append a b

theorem withoutBackslashes_backslashes (n : Nat) : withoutBackslashes (Quoting.backslashes n) = [] := by
  refine List.filter_eq_nil_iff.2 fun c inside => ?_
  simp [Quoting.isBackslash_of_mem_backslashes inside]

theorem splitEnd_append_right (p : CodeUnit → Bool) (t w : Text) (h : ∀ c ∈ w, p c = true) :
    splitEnd p (t ++ w) = ((splitEnd p t).1, (splitEnd p t).2 ++ w) := by
  have all : ∀ c ∈ w.reverse, p c = true := fun c inside => h c (List.mem_reverse.1 inside)
  unfold splitEnd
  rw [List.reverse_append, List.dropWhile_append_of_pos all, List.takeWhile_append_of_pos all,
    List.reverse_append, List.reverse_reverse]

end Text

theorem Quoting.splitRun_eq_backslashes (t : Text) :
    (splitRun t).2 = backslashes (splitRun t).2.length := by
  refine List.eq_replicate_iff.2 ⟨rfl, fun c inside => ?_⟩
  have sign : c.isBackslash = true :=
    List.all_eq_true.1 List.all_takeWhile c (List.mem_reverse.1 inside)
  simpa [CodeUnit.isBackslash] using sign

namespace DelimiterStyle

/-- A text as a line without tokens that are used: each of its tokens is escaped. -/
def escape (style : DelimiterStyle) (t : Text) : Text :=
  match h : style.cut? t with
  | none => t
  | some cut =>
    have _shorter := cut?_length style t cut h
    cut.before ++ (Quoting.backslashes ((Quoting.splitRun cut.before).2.length + 1) ++
      (style.token cut.expression ++ escape style cut.after))
termination_by t.length
decreasing_by exact _shorter

/-- The line that stands for a text: an empty field, then the text with its tokens escaped. -/
def lineOf (style : DelimiterStyle) (t : Text) : Text := style.token [] ++ style.escape t

theorem untilClosed?_eq_none_iff (depth : Nat) (t : Text) :
    untilClosed? depth t = none ↔ untilClosed? depth t.withoutBackslashes = none := by
  induction t generalizing depth with
  | nil => rfl
  | cons c rest ih =>
    -- A backslash is no parenthesis, so it leaves the depth as it is.
    by_cases sign : c.isBackslash = true
    · have same : c = CodeUnit.ofChar '\\' := by simpa [CodeUnit.isBackslash] using sign
      have skipped : Text.withoutBackslashes (c :: rest) = Text.withoutBackslashes rest := by
        simp [Text.withoutBackslashes, sign]
      rw [skipped, ← ih, untilClosed?_cons, if_neg (by rw [same]; decide), if_neg (by rw [same]; decide),
        Option.map_eq_none_iff]
    · have kept : Text.withoutBackslashes (c :: rest) = c :: Text.withoutBackslashes rest := by
        simp [Text.withoutBackslashes, sign]
      rw [kept, untilClosed?_cons, untilClosed?_cons]
      split
      · rw [Option.map_eq_none_iff, Option.map_eq_none_iff, ih]
      · split
        · cases depth with
          | zero => simp
          | succ d => rw [Option.map_eq_none_iff, Option.map_eq_none_iff, ih]
        · rw [Option.map_eq_none_iff, Option.map_eq_none_iff, ih]

theorem untilMark?_eq_none_iff (t : Text) : untilMark? t = none ↔ rightMark ∉ t := by
  induction t with
  | nil => simp [untilMark?]
  | cons c rest ih =>
    rw [untilMark?]
    split
    · rename_i closes
      simp [closes]
    · rename_i other
      rw [Option.map_eq_none_iff, ih, List.mem_cons, not_or]
      exact (and_iff_right fun same => other same.symm).symm

theorem tokenHere?_eq_none_of_same {style : DelimiterStyle} {c : CodeUnit} {x y : Text}
    (h : style.tokenHere? (c :: x) = none) (same : x.withoutBackslashes = y.withoutBackslashes)
    (opening : y.head? = some (CodeUnit.ofChar '(') → x.head? = some (CodeUnit.ofChar '(')) :
    style.tokenHere? (c :: y) = none := by
  cases style with
  | standard =>
    cases y with
    | nil => rfl
    | cons d y =>
      rw [tokenHere?]
      split
      · rename_i starts
        obtain ⟨rfl, rfl⟩ := starts
        obtain ⟨x, rfl⟩ : ∃ x', x = CodeUnit.ofChar '(' :: x' := by
          obtain ⟨x', whole⟩ := List.head?_eq_some_iff.1 (opening rfl)
          exact ⟨x', whole⟩
        rw [tokenHere?, if_pos ⟨rfl, rfl⟩, untilClosed?_eq_none_iff] at h
        have inner : Text.withoutBackslashes x = Text.withoutBackslashes y := (List.cons.inj same).2
        rw [untilClosed?_eq_none_iff, ← inner]
        exact h
      · rfl
  | alternate =>
    rw [tokenHere?] at h ⊢
    split
    · rename_i starts
      rw [if_pos starts, untilMark?_eq_none_iff] at h
      rw [untilMark?_eq_none_iff]
      intro inside
      have kept : rightMark ∈ y.withoutBackslashes := List.mem_filter.2 ⟨inside, by decide⟩
      rw [← same] at kept
      exact h (List.mem_filter.1 kept).1
    · rfl

theorem cut?_backslashes_append (style : DelimiterStyle) (n : Nat) {t inner after : Text}
    (h : style.tokenHere? t = some (inner, after)) :
    style.cut? (Quoting.backslashes n ++ t) = some ⟨Quoting.backslashes n, inner, after⟩ := by
  induction n with
  | zero =>
    cases t with
    | nil => cases style <;> simp [tokenHere?] at h
    | cons c t =>
      change style.cut? (c :: t) = _
      rw [cut?, h]
      rfl
  | succ n ih =>
    change style.cut? (CodeUnit.ofChar '\\' :: (Quoting.backslashes n ++ t)) = _
    have plain : style.tokenHere? (CodeUnit.ofChar '\\' :: (Quoting.backslashes n ++ t)) = none := by
      cases style with
      | standard => cases Quoting.backslashes n ++ t <;> rfl
      | alternate => rfl
    rw [cut?, plain, ih]
    rfl

theorem cut?_escaped {style : DelimiterStyle} {t : Text} {cut : TokenCut} (h : style.cut? t = some cut)
    (n : Nat) {rest : Text} (same : rest.withoutBackslashes = cut.after.withoutBackslashes) :
    style.cut? (cut.before ++ (Quoting.backslashes n ++ (style.token cut.expression ++ rest))) =
      some ⟨cut.before ++ Quoting.backslashes n, cut.expression, rest⟩ := by
  induction t generalizing cut with
  | nil => simp [cut?] at h
  | cons c t ih =>
    have whole := cut?_append style (c :: t) cut h
    unfold cut? at h
    split at h
    · rename_i found
      cases h
      -- A token stays the same whatever comes after it.
      have encloses := ((tokenHere?_eq_some_iff style _ _ _).1 found).1
      exact cut?_backslashes_append style n ((tokenHere?_eq_some_iff style _ _ _).2 ⟨encloses, rfl⟩)
    · rename_i plain
      obtain ⟨inner, found, rfl⟩ := Option.map_eq_some_iff.1 h
      have tail : t = inner.before ++ (style.token inner.expression ++ inner.after) := by
        rw [← List.append_assoc]
        exact (List.cons.inj whole).2
      -- New backslashes stand further on, so no token starts before the one that was first.
      have still : style.tokenHere? (c :: (inner.before ++
          (Quoting.backslashes n ++ (style.token inner.expression ++ rest)))) = none := by
        refine tokenHere?_eq_none_of_same plain ?_ ?_
        · simp only [tail, Text.withoutBackslashes_append, Text.withoutBackslashes_backslashes,
            List.nil_append]
          exact congrArg _ (congrArg _ same.symm)
        · rw [tail]
          cases inner.before with
          | cons d before => exact id
          | nil =>
            cases n with
            | zero => cases style <;> exact id
            | succ n => exact fun other => absurd (Option.some.inj other) (by decide)
      change style.cut? (c :: (inner.before ++ _)) = _
      rw [cut?, still, ih found same]
      rfl

theorem withoutBackslashes_escape (style : DelimiterStyle) (t : Text) :
    (style.escape t).withoutBackslashes = t.withoutBackslashes := by
  fun_induction escape style t with
  | case1 t _ => rfl
  | case2 t cut found _ ih =>
    conv_rhs => rw [cut?_append style t cut found]
    simp only [Text.withoutBackslashes_append, Text.withoutBackslashes_backslashes, ih, List.nil_append,
      List.append_assoc]

theorem newline_notMem_token (style : DelimiterStyle) : newline ∉ style.token [] := by
  cases style <;> decide

theorem newline_notMem_lineOf (style : DelimiterStyle) {t : Text} (free : newline ∉ t) :
    newline ∉ style.lineOf t := by
  unfold lineOf
  rw [List.mem_append, not_or]
  refine ⟨style.newline_notMem_token, fun inside => free ?_⟩
  have kept : newline ∈ Text.withoutBackslashes (style.escape t) :=
    List.mem_filter.2 ⟨inside, by decide⟩
  rw [withoutBackslashes_escape] at kept
  exact (List.mem_filter.1 kept).1

end DelimiterStyle

theorem Segment.ofCut_escaped (style : DelimiterStyle) (before e after : Text) :
    Segment.ofCut style ⟨before ++ Quoting.backslashes ((Quoting.splitRun before).2.length + 1), e, after⟩ =
      ⟨before ++ style.token e, none⟩ := by
  have whole : (Quoting.splitRun before).1 ++ (Quoting.splitRun before).2 = before :=
    Text.splitEnd_append _ before
  have run := Quoting.splitRun_eq_backslashes before
  generalize (Quoting.splitRun before).2.length = n at run
  have longer : Quoting.splitRun (before ++ Quoting.backslashes (n + 1)) =
      ((Quoting.splitRun before).1, Quoting.backslashes (2 * n + 1)) := by
    unfold Quoting.splitRun at run ⊢
    rw [Text.splitEnd_append_right _ _ _ fun c => Quoting.isBackslash_of_mem_backslashes, run,
      Quoting.backslashes, Quoting.backslashes, List.replicate_append_replicate]
    congr 2
    omega
  have halved : Quoting.ofRun (Quoting.backslashes (2 * n + 1)) = ⟨Quoting.backslashes n, true⟩ := by
    have length : (Quoting.backslashes (2 * n + 1)).length = 2 * n + 1 := List.length_replicate
    have half : (2 * n + 1) / 2 = n := by omega
    have odd : (2 * n + 1) % 2 = 1 := by omega
    rw [Quoting.ofRun, length, half, odd]
    rfl
  unfold ofCut
  rw [longer]
  dsimp only
  rw [halved, if_pos rfl, ← run, whole]

namespace TokenizedLine

/-- The text of a line whose fields are all empty or escaped. -/
def literalText (t : TokenizedLine) : Text := t.segments.flatMap Segment.lead ++ t.trailing

theorem ofText_escape (style : DelimiterStyle) (t : Text) :
    (∀ s ∈ (ofText style (style.escape t)).segments, s.expression = none) ∧
      (ofText style (style.escape t)).literalText = t := by
  fun_induction DelimiterStyle.escape style t with
  | case1 t none =>
    rw [ofText_eq, none]
    exact ⟨by simp, rfl⟩
  | case2 t cut found _ ih =>
    rw [ofText_eq, DelimiterStyle.cut?_escaped found _ (style.withoutBackslashes_escape cut.after)]
    dsimp only
    obtain ⟨plain, later⟩ := ih
    rw [Segment.ofCut_escaped]
    refine ⟨List.forall_mem_cons.2 ⟨rfl, plain⟩, ?_⟩
    unfold literalText at later ⊢
    rw [List.flatMap_cons, List.append_assoc, later]
    exact (DelimiterStyle.cut?_append style t cut found).symm

theorem ofText_lineOf (style : DelimiterStyle) (t : Text) :
    (ofText style (style.lineOf t)).matched = true ∧
      (∀ s ∈ (ofText style (style.lineOf t)).segments, s.expression = none) ∧
      (ofText style (style.lineOf t)).literalText = t := by
  have starts : style.tokenHere? (style.lineOf t) = some ([], style.escape t) := by
    cases style <;> rfl
  have cut : style.cut? (style.lineOf t) = some ⟨[], [], style.escape t⟩ :=
    style.cut?_backslashes_append 0 starts
  have first : Segment.ofCut style ⟨[], [], style.escape t⟩ = ⟨[], none⟩ := by
    simp [Segment.ofCut, Quoting.splitRun, Quoting.ofRun, Quoting.backslashes, Text.splitEnd]
  obtain ⟨plain, text⟩ := ofText_escape style t
  rw [ofText_eq, cut]
  dsimp only
  rw [first]
  exact ⟨rfl, List.forall_mem_cons.2 ⟨rfl, plain⟩, text⟩

end TokenizedLine

namespace Line

theorem classify_lineOf (style : DelimiterStyle) (t : Text) :
    classify (style.lineOf t) = .text (style.lineOf t) := by
  cases style <;> rfl

theorem instructions_lineOf (style : DelimiterStyle) (columns : Nat) (t : Text) :
    instructions style columns (style.lineOf t) =
      [.fields (Text.spaces columns) (TokenizedLine.ofText style (style.lineOf t)).segments
        (TokenizedLine.ofText style (style.lineOf t)).trailing] := by
  unfold instructions
  rw [classify_lineOf]
  dsimp only
  rw [if_pos (TokenizedLine.ofText_lineOf style t).1]

end Line

theorem expand_line {style : DelimiterStyle} {columns : Nat} {included : Members Text} {line : Text}
    {instruction : Instruction} (free : newline ∉ line) (plain : Line.inclusion? line = none)
    (alone : Line.instructions style columns line = [instruction]) :
    ∃ p, expand columns style included line = .ok p ∧ p.instructions = [instruction] := by
  have open' : ¬line.getLast? = some 0x0A := fun ends => free (List.mem_of_getLast? ends)
  have lines : splitLines line = [line] := by
    rw [splitLines, if_neg open']
    exact Text.splitOn_of_notMem newline line free
  have own : List.Forall₂ (Line.Gives style columns) (splitLines line) [instruction] := by
    rw [lines]
    exact .cons ⟨plain, alone⟩ .nil
  obtain ⟨p, expanded, instructions, -⟩ := expand_own own
  rw [if_neg open'] at instructions
  exact ⟨p, expanded, instructions⟩

/-- Every text without newlines has a line that expands to this text and to nothing else, with either
delimiters: one instruction with fields that are all empty or escaped. -/
theorem exists_line_of_text (style : DelimiterStyle) (t : Text) (free : newline ∉ t) :
    ∃ line, newline ∉ line ∧ ∃ p indent segments trailing,
      expand 0 style [] line = .ok p ∧ p.instructions = [.fields indent segments trailing] ∧
      (∀ s ∈ segments, s.expression = none) ∧
      indent ++ segments.flatMap Segment.lead ++ trailing = t := by
  obtain ⟨-, plain, text⟩ := TokenizedLine.ofText_lineOf style t
  have single : Line.inclusion? (style.lineOf t) = none := by
    rw [Line.inclusion?, Line.classify_lineOf]
  have closed := style.newline_notMem_lineOf free
  obtain ⟨p, expanded, instructions⟩ :=
    expand_line closed single (Line.instructions_lineOf style 0 t)
  exact ⟨style.lineOf t, closed, p, _, _, _, expanded, instructions, plain, text⟩

/-- A text that looks like a statement and holds a field, behind two backslashes. -/
theorem exists_line_of_text_statement : newline ∉ ("@a $(b) \\\\$(c)" : Text) ∧
    ∃ line, newline ∉ line ∧ ∃ p indent segments trailing,
      expand 0 .standard [] line = .ok p ∧ p.instructions = [.fields indent segments trailing] ∧
      (∀ s ∈ segments, s.expression = none) ∧
      indent ++ segments.flatMap Segment.lead ++ trailing = ("@a $(b) \\\\$(c)" : Text) :=
  ⟨by decide, exists_line_of_text .standard _ (by decide)⟩

end LineTemplate

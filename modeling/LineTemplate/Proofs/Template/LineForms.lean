import LineTemplate.Proofs.Template.Escaping

/-!
The grammar of template lines. A form holds the parts that a statement, an inclusion or a list is spelled
with, and one form at most spells a line. A line that a form spells is classified by that form; every
other line is text.
-/

set_option autoImplicit false

namespace LineTemplate

namespace Line

/-- The units that may stand in the parts around a token and in its body. -/
structure TokenParts (indent run body trailing : Text) : Prop where
  indent : ∀ c ∈ indent, c.isBlank = true
  run : ∀ c ∈ run, c.isBackslash = true
  body : ∀ c ∈ body, c.isLineEnd = false
  trailing : ∀ c ∈ trailing, c.isBlank = true

/-- The parts of a line that is not text. -/
inductive Form where
  | statement (blanks code : Text)
  | inclusion (indent run name trailing : Text)
  | list (indent run expression trailing : Text)
deriving DecidableEq, Repr

namespace Form

def text : Form → Text
  | .statement blanks code => blanks ++ CodeUnit.ofChar '@' :: code
  | .inclusion indent run name trailing => indent ++ run ++ inclusionToken name ++ trailing
  | .list indent run expression trailing => indent ++ run ++ listToken expression ++ trailing

/-- A form is lawful when its parts hold only the units that they may hold. -/
def Lawful : Form → Prop
  | .statement blanks _ => ∀ c ∈ blanks, c.isBlank = true
  | .inclusion indent run name trailing => TokenParts indent run name trailing
  | .list indent run expression trailing => TokenParts indent run expression trailing

/-- A lawful form spells the line that its parts give. -/
def Spells (form : Form) (line : Text) : Prop := form.Lawful ∧ form.text = line

/-- What a line of this form is classified as. -/
def line : Form → Line
  | .statement _ code => .statement code
  | .inclusion indent run name trailing => .inclusion indent run name trailing
  | .list indent run expression trailing => .list indent run expression trailing

/-- No delimiter that could close the token stands after it. -/
def ReachesLast : Form → Prop
  | .statement _ _ => True
  | .inclusion _ _ _ trailing => CodeUnit.ofChar '>' ∉ trailing
  | .list _ _ _ trailing => CodeUnit.ofChar '\x7d' ∉ trailing

end Form

theorem closedBody?_of_parts {closing : CodeUnit} {body trailing : Text}
    (visible : closing.isBlank = false) (straight : ∀ c ∈ body, c.isLineEnd = false)
    (blank : ∀ c ∈ trailing, c.isBlank = true) :
    closedBody? closing (body ++ [closing] ++ trailing) = some (body, trailing) := by
  have core : Text.splitEnd CodeUnit.isBlank (body ++ [closing] ++ trailing) =
      (body ++ [closing], trailing) := by
    rw [Text.splitEnd_append_right _ _ _ blank]
    simp [Text.splitEnd, visible]
  have inner : body.any CodeUnit.isLineEnd = false := by simpa using straight
  rw [closedBody?, core]
  simp [inner]

theorem classify_dollar {indent run : Text} (rest : Text) (blank : ∀ c ∈ indent, c.isBlank = true)
    (sign : ∀ c ∈ run, c.isBackslash = true) :
    classify (indent ++ (run ++ CodeUnit.ofChar '$' :: rest)) =
      ((ofToken? indent run (CodeUnit.ofChar '$' :: rest)).getD
        (.text (indent ++ (run ++ CodeUnit.ofChar '$' :: rest)))) := by
  -- The first unit after the blanks is a backslash or the dollar sign.
  obtain ⟨c, code, same, visible, plain⟩ : ∃ c code, run ++ CodeUnit.ofChar '$' :: rest = c :: code ∧
      c.isBlank = false ∧ c ≠ CodeUnit.ofChar '@' := by
    cases run with
    | nil => exact ⟨_, _, rfl, by decide, by decide⟩
    | cons b run =>
      have is : b = CodeUnit.ofChar '\\' := by
        simpa [CodeUnit.isBackslash] using sign b List.mem_cons_self
      exact ⟨_, _, rfl, by rw [is]; decide, by rw [is]; decide⟩
  have taken : (run ++ CodeUnit.ofChar '$' :: rest).takeWhile CodeUnit.isBackslash = run := by
    rw [List.takeWhile_append_of_pos sign, List.takeWhile_cons_of_neg (by decide), List.append_nil]
  have left : (run ++ CodeUnit.ofChar '$' :: rest).dropWhile CodeUnit.isBackslash =
      CodeUnit.ofChar '$' :: rest := by
    rw [List.dropWhile_append_of_pos sign, List.dropWhile_cons_of_neg (by decide)]
  have ahead : (indent ++ (run ++ CodeUnit.ofChar '$' :: rest)).takeWhile CodeUnit.isBlank = indent := by
    rw [List.takeWhile_append_of_pos blank, same, List.takeWhile_cons_of_neg (by simp [visible]),
      List.append_nil]
  have behind : (indent ++ (run ++ CodeUnit.ofChar '$' :: rest)).dropWhile CodeUnit.isBlank =
      run ++ CodeUnit.ofChar '$' :: rest := by
    rw [List.dropWhile_append_of_pos blank, same, List.dropWhile_cons_of_neg (by simp [visible])]
  rw [classify]
  simp only [ahead, behind, taken, left]
  rw [same]
  simp only [if_neg plain]

theorem classify_inclusionToken {indent run name trailing : Text}
    (parts : TokenParts indent run name trailing) :
    classify (indent ++ run ++ inclusionToken name ++ trailing) =
      .inclusion indent run name trailing := by
  have written : indent ++ run ++ inclusionToken name ++ trailing =
      indent ++ (run ++ CodeUnit.ofChar '$' :: CodeUnit.ofChar '<' ::
        (name ++ [CodeUnit.ofChar '>'] ++ trailing)) := by
    simp only [inclusionToken, List.append_assoc]
    rfl
  rw [written, classify_dollar _ parts.indent parts.run, ofToken?, if_neg (by decide), if_pos rfl,
    closedBody?_of_parts (by decide) parts.body parts.trailing]
  rfl

theorem classify_listToken {indent run expression trailing : Text}
    (parts : TokenParts indent run expression trailing) :
    classify (indent ++ run ++ listToken expression ++ trailing) =
      .list indent run expression trailing := by
  have written : indent ++ run ++ listToken expression ++ trailing =
      indent ++ (run ++ CodeUnit.ofChar '$' :: CodeUnit.ofChar '\x7b' ::
        (expression ++ [CodeUnit.ofChar '\x7d'] ++ trailing)) := by
    simp only [listToken, List.append_assoc]
    rfl
  rw [written, classify_dollar _ parts.indent parts.run, ofToken?, if_neg (by decide),
    if_neg (by decide), if_pos rfl, closedBody?_of_parts (by decide) parts.body parts.trailing]
  rfl

theorem classify_of_spells {form : Form} {line : Text} (h : form.Spells line) :
    classify line = form.line := by
  obtain ⟨lawful, rfl⟩ := h
  cases form with
  | statement blanks code =>
    rw [Form.text, classify_append _ _ lawful]
    rfl
  | inclusion indent run name trailing => exact classify_inclusionToken lawful
  | list indent run expression trailing => exact classify_listToken lawful

/-- The classified line has all parts of the form but the blanks before a statement, and these are what
is left of the line. -/
theorem Form.Spells.unique {form other : Form} {line : Text} (h : form.Spells line)
    (h' : other.Spells line) : form = other := by
  have same : form.line = other.line := (classify_of_spells h).symm.trans (classify_of_spells h')
  have text : form.text = other.text := h.2.trans h'.2.symm
  cases form <;> cases other <;> cases same
  · rw [List.append_cancel_right text]
  · rfl
  · rfl

theorem Form.Spells.reachesLast {form : Form} {line : Text} (h : form.Spells line) :
    form.ReachesLast := by
  cases form with
  | statement blanks code => trivial
  | inclusion indent run name trailing =>
    exact fun inside => absurd (TokenParts.trailing h.1 _ inside) (by decide)
  | list indent run expression trailing =>
    exact fun inside => absurd (TokenParts.trailing h.1 _ inside) (by decide)

theorem classify_eq_text_or_spells (line : Text) :
    classify line = .text line ∨ ∃ form : Form, form.Spells line := by
  have whole := List.takeWhile_append_dropWhile (p := CodeUnit.isBlank) (l := line)
  have blank : ∀ c ∈ line.takeWhile CodeUnit.isBlank, c.isBlank = true :=
    List.all_eq_true.1 List.all_takeWhile
  unfold classify
  dsimp only
  split
  · exact .inl rfl
  · rename_i c code after
    split
    · rename_i sign
      refine .inr ⟨.statement (line.takeWhile CodeUnit.isBlank) code, blank, ?_⟩
      rw [Form.text, ← sign, ← after, whole]
    · have runs := List.takeWhile_append_dropWhile (p := CodeUnit.isBackslash)
        (l := line.dropWhile CodeUnit.isBlank)
      have signs : ∀ c ∈ (line.dropWhile CodeUnit.isBlank).takeWhile CodeUnit.isBackslash,
          c.isBackslash = true := List.all_eq_true.1 List.all_takeWhile
      cases found : ofToken? (line.takeWhile CodeUnit.isBlank)
          ((line.dropWhile CodeUnit.isBlank).takeWhile CodeUnit.isBackslash)
          ((line.dropWhile CodeUnit.isBlank).dropWhile CodeUnit.isBackslash) with
      | none => exact .inl rfl
      | some token =>
        right
        rcases ofToken?_eq_some _ _ _ _ found with
          ⟨name, trailing, -, rest, straight, ending⟩ | ⟨expression, trailing, -, rest, straight, ending⟩
        · refine ⟨.inclusion _ _ name trailing, ⟨blank, signs, straight, ending⟩, ?_⟩
          rw [Form.text, List.append_assoc, ← rest, List.append_assoc, runs, whole]
        · refine ⟨.list _ _ expression trailing, ⟨blank, signs, straight, ending⟩, ?_⟩
          rw [Form.text, List.append_assoc, ← rest, List.append_assoc, runs, whole]

/-- Every line either has exactly one form, and is classified as that form with all its parts, or has no
form, and is text as a whole. The body of a token reaches to the last closing delimiter of the line. -/
theorem classify_form (line : Text) :
    (∃ form : Form, form.Spells line ∧ (∀ other : Form, other.Spells line → other = form) ∧
      classify line = form.line ∧ form.ReachesLast) ∨
    ((∀ form : Form, ¬form.Spells line) ∧ classify line = .text line) := by
  by_cases spelled : ∃ form : Form, form.Spells line
  · obtain ⟨form, spells⟩ := spelled
    exact .inl ⟨form, spells, fun other h => h.unique spells, classify_of_spells spells,
      spells.reachesLast⟩
  · refine .inr ⟨not_exists.1 spelled, ?_⟩
    exact (classify_eq_text_or_spells line).resolve_right spelled

/-- A list whose expression holds a closing brace, and an inclusion that a line end breaks. -/
example :
    classify ("\t\\$\x7ba\x7d b\x7d " : Text) =
      .list ("\t" : Text) ("\\" : Text) ("a\x7d b" : Text) (" " : Text) ∧
    classify ("$<a\rb>" : Text) = .text ("$<a\rb>" : Text) := by decide

end Line

end LineTemplate

import LineTemplate.Proofs.Template.LineParts
import LineTemplate.Proofs.Template.Splitting
import LineTemplate.Proofs.Template.Yield
import LineTemplate.Template.Code

/-!
The lines of generated code. What code does not copy from a template it writes in plain units, so the code
of an instruction holds a line end only when its line does; and no line holds a newline. The pieces of a
program's code between its newlines are therefore the codes of its instructions, with a header before and
a footer after them.
-/

set_option autoImplicit false

namespace LineTemplate

/-- A printable unit of ASCII. -/
def CodeUnit.Plain (c : CodeUnit) : Prop := 0x20 ≤ c ∧ c < 0x7F

instance (c : CodeUnit) : Decidable c.Plain := inferInstanceAs (Decidable (_ ∧ _))

theorem CodeUnit.not_plain_of_isLineEnd (c : CodeUnit) (h : c.isLineEnd = true) : ¬c.Plain := by
  simp only [isLineEnd, Bool.or_eq_true, beq_iff_eq] at h
  rcases h with ((h | h) | h) | h <;> subst h <;> decide

namespace Text

theorem plain_hexDigit (n : Nat) (h : n < 16) : (CodeUnit.hexDigit n).Plain := by
  revert n
  decide

theorem plain_of_mem_numericEscape (c d : CodeUnit) (h : d ∈ numericEscape c) : d.Plain := by
  have bound : c.toNat < 65536 := c.toNat_lt
  have lead : ("\\u" : Text) = [0x5C, 0x75] := rfl
  rw [numericEscape, lead] at h
  simp only [List.mem_append, List.mem_cons, List.not_mem_nil, or_false] at h
  rcases h with (rfl | rfl) | rfl | rfl | rfl | rfl
  · decide
  · decide
  · exact plain_hexDigit _ (by omega)
  · exact plain_hexDigit _ (by omega)
  · exact plain_hexDigit _ (by omega)
  · exact plain_hexDigit _ (by omega)

theorem mem_quotedUnit (c d : CodeUnit) (h : d ∈ quotedUnit c) : d.Plain ∨ d = c := by
  have plain (t : Text) (all : ∀ e ∈ t, e.Plain) (inside : d ∈ t) : d.Plain ∨ d = c :=
    .inl (all d inside)
  unfold quotedUnit at h
  split at h
  · exact plain _ (by decide) h
  split at h
  · exact plain _ (by decide) h
  split at h
  · exact plain _ (by decide) h
  split at h
  · exact plain _ (by decide) h
  split at h
  · exact plain _ (by decide) h
  split at h
  · exact plain _ (by decide) h
  split at h
  · exact plain _ (by decide) h
  split at h
  · exact .inl (plain_of_mem_numericEscape c d h)
  · exact .inr (List.mem_singleton.1 h)

theorem mem_quotedBody (t : Text) (d : CodeUnit) (h : d ∈ quotedBody t) : d.Plain ∨ d ∈ t := by
  fun_induction quotedBody t with
  | case1 => simp at h
  | case2 c surrogate => exact .inl (plain_of_mem_numericEscape c d h)
  | case3 c plain => exact (mem_quotedUnit c d h).imp_right fun same => by simp [same]
  | case4 c e rest high low ih =>
    rcases List.mem_cons.1 h with rfl | h
    · simp
    · rcases List.mem_cons.1 h with rfl | h
      · simp
      · exact (ih h).imp_right fun inside => by simp [inside]
  | case5 c e rest high low ih =>
    rcases List.mem_append.1 h with escape | h
    · exact .inl (plain_of_mem_numericEscape c d escape)
    · exact (ih h).imp_right (List.mem_cons_of_mem c)
  | case6 c e rest high low ih =>
    rcases List.mem_append.1 h with escape | h
    · exact .inl (plain_of_mem_numericEscape c d escape)
    · exact (ih h).imp_right (List.mem_cons_of_mem c)
  | case7 c e rest high low ih =>
    rcases List.mem_append.1 h with unit | h
    · exact (mem_quotedUnit c d unit).imp_right fun same => by simp [same]
    · exact (ih h).imp_right (List.mem_cons_of_mem c)

theorem mem_quoted_iff (t : Text) (d : CodeUnit) : d ∈ t.quoted ↔ d = 0x22 ∨ d ∈ quotedBody t := by
  have mark : ("\"" : Text) = [0x22] := rfl
  rw [quoted, mark, List.mem_append, List.mem_append, List.mem_singleton, or_right_comm, or_self]

theorem mem_quoted (t : Text) (d : CodeUnit) (h : d ∈ quoted t) : d.Plain ∨ d ∈ t := by
  rcases (mem_quoted_iff t d).1 h with rfl | h
  · exact .inl (by decide)
  · exact mem_quotedBody t d h

theorem mem_join (sep : Text) (pieces : List Text) (c : CodeUnit) (h : c ∈ join sep pieces) :
    c ∈ sep ∨ ∃ piece ∈ pieces, c ∈ piece := by
  induction pieces with
  | nil => exact absurd h List.not_mem_nil
  | cons piece rest ih =>
    cases rest with
    | nil => exact .inr ⟨piece, List.mem_cons_self, by simpa using h⟩
    | cons next rest =>
      rw [join_cons_cons, List.mem_append, List.mem_append] at h
      rcases h with h | h | h
      · exact .inr ⟨piece, List.mem_cons_self, h⟩
      · exact .inl h
      · rcases ih h with found | ⟨other, member, inside⟩
        · exact .inl found
        · exact .inr ⟨other, List.mem_cons_of_mem piece member, inside⟩

end Text

section Foreign

variable {c : CodeUnit} (foreign : ¬c.Plain)

include foreign

theorem notMem_of_plain (t : Text) (all : ∀ d ∈ t, d.Plain) : c ∉ t := fun inside =>
  foreign (all c inside)

theorem notMem_spaces (n : Nat) : c ∉ Text.spaces n := by
  refine notMem_of_plain foreign _ fun d inside => ?_
  rw [List.eq_of_mem_replicate inside]
  decide

theorem notMem_backslashes (n : Nat) : c ∉ Quoting.backslashes n := by
  refine notMem_of_plain foreign _ fun d inside => ?_
  rw [List.eq_of_mem_replicate inside]
  decide

theorem notMem_quoted (t : Text) (free : c ∉ t) : c ∉ t.quoted := fun inside =>
  (Text.mem_quoted t c inside).elim foreign free

end Foreign

namespace Segment

def texts (s : Segment) : List Text := s.lead :: s.expression.toList

end Segment

namespace Instruction

def texts : Instruction → List Text
  | .literal text => [text]
  | .fields indent segments trailing => indent :: trailing :: segments.flatMap Segment.texts
  | .list expression indent => [expression, indent]
  | .statement code => [code]
  | .marker _ name => [name]

end Instruction

section Foreign

variable {c : CodeUnit} (foreign : ¬c.Plain)

include foreign

theorem Segment.notMem_operands (s : Segment) (free : ∀ t ∈ s.texts, c ∉ t) :
    ∀ operand ∈ s.operands, c ∉ operand := by
  intro operand member
  unfold operands at member
  rcases List.mem_append.1 member with lead | field
  · split at lead
    · simp at lead
    · rw [List.mem_singleton.1 lead]
      exact notMem_quoted foreign _ (free _ List.mem_cons_self)
  · cases found : s.expression with
    | none => simp [found] at field
    | some e =>
      have free_e : c ∉ e := free e (by simp [texts, found])
      simp only [found, List.mem_singleton] at field
      subst field
      simp only [List.mem_append, not_or]
      refine ⟨⟨⟨⟨⟨?_, ?_⟩, free_e⟩, ?_⟩, notMem_quoted foreign e free_e⟩, ?_⟩
      all_goals exact notMem_of_plain foreign _ (by decide)

namespace Instruction

theorem notMem_pushCode (value : Text) (free : c ∉ value) : c ∉ pushCode value := by
  unfold pushCode
  simp only [List.mem_append, not_or]
  refine ⟨⟨⟨?_, ?_⟩, free⟩, ?_⟩
  all_goals exact notMem_of_plain foreign _ (by decide)

theorem notMem_fieldOperands (indent : Text) (segments : List Segment) (trailing : Text)
    (free : ∀ t ∈ (fields indent segments trailing).texts, c ∉ t) :
    ∀ operand ∈ fieldOperands indent segments trailing, c ∉ operand := by
  intro operand member
  unfold fieldOperands at member
  rcases List.mem_append.1 member with member | last
  · rcases List.mem_append.1 member with first | field
    · split at first
      · simp at first
      · rw [List.mem_singleton.1 first]
        exact notMem_quoted foreign indent (free indent (by simp [texts]))
    · obtain ⟨s, segment, found⟩ := List.mem_flatMap.1 field
      refine s.notMem_operands foreign (fun t inside => free t ?_) operand found
      exact List.mem_cons_of_mem _ (List.mem_cons_of_mem _ (List.mem_flatMap.2 ⟨s, segment, inside⟩))
  · split at last
    · simp at last
    · rw [List.mem_singleton.1 last]
      exact notMem_quoted foreign trailing (free trailing (by simp [texts]))

/-- The code of an instruction holds plain units and units of its texts. -/
theorem notMem_code (instruction : Instruction) (free : ∀ t ∈ instruction.texts, c ∉ t) :
    c ∉ instruction.code := by
  cases instruction with
  | literal text =>
    exact notMem_pushCode foreign _ (notMem_quoted foreign text (free text List.mem_cons_self))
  | fields indent segments trailing =>
    refine notMem_pushCode foreign _ ?_
    split
    · exact notMem_quoted foreign [] List.not_mem_nil
    · intro inside
      rcases Text.mem_join _ _ _ inside with sign | ⟨operand, member, inside⟩
      · exact notMem_of_plain foreign _ (by decide) sign
      · exact notMem_fieldOperands foreign indent segments trailing free operand member inside
  | list expression indent =>
    have free_e : c ∉ expression := free expression (by simp [texts])
    have free_i : c ∉ indent := free indent (by simp [texts])
    unfold code
    simp only [List.mem_append, not_or]
    refine ⟨⟨⟨⟨⟨⟨⟨⟨⟨?_, ?_⟩, ?_⟩, ?_⟩, free_e⟩, ?_⟩, notMem_quoted foreign indent free_i⟩, ?_⟩,
      notMem_quoted foreign expression free_e⟩, ?_⟩
    all_goals exact notMem_of_plain foreign _ (by decide)
  | statement code => exact free code List.mem_cons_self
  | marker boundary name =>
    unfold code
    simp only [List.mem_append, not_or]
    refine ⟨⟨⟨?_, ?_⟩, ?_⟩, free name List.mem_cons_self⟩
    · exact notMem_of_plain foreign _ (by decide)
    · cases boundary <;> exact notMem_of_plain foreign _ (by decide)
    · exact notMem_of_plain foreign _ (by decide)

end Instruction

theorem Segment.notMem_ofCut (style : DelimiterStyle) (cut : TokenCut)
    (free : c ∉ cut.before ++ style.token cut.expression) :
    ∀ t ∈ (Segment.ofCut style cut).texts, c ∉ t := by
  simp only [List.mem_append, not_or] at free
  have whole := Text.splitEnd_append CodeUnit.isBackslash cut.before
  have free_lead : c ∉ (Quoting.splitRun cut.before).1 := fun inside =>
    free.1 (whole ▸ List.mem_append_left _ inside)
  have free_expression : c ∉ cut.expression := fun inside =>
    free.2 (DelimiterStyle.mem_token style _ c inside)
  have free_run := notMem_backslashes foreign ((Quoting.splitRun cut.before).2.length / 2)
  unfold Segment.ofCut Quoting.ofRun texts
  dsimp only
  split
  · simp [free_lead, free_run, free.2]
  · split
    · simp [free_lead, free_run]
    · simp [free_lead, free_run, free_expression]

theorem TokenizedLine.notMem_texts (style : DelimiterStyle) (line : Text) (free : c ∉ line) :
    (∀ t ∈ (ofText style line).segments.flatMap Segment.texts, c ∉ t) ∧
      c ∉ (ofText style line).trailing := by
  fun_induction ofText style line with
  | case1 line _ => simp [free]
  | case2 line cut found _ rest ih =>
    rw [DelimiterStyle.cut?_append style line cut found, List.mem_append, not_or] at free
    obtain ⟨later, trailing⟩ := ih free.2
    refine ⟨fun t inside => ?_, trailing⟩
    rcases List.mem_append.1 inside with first | inside
    · exact Segment.notMem_ofCut foreign style cut free.1 t first
    · exact later t inside

theorem Line.notMem_texts (style : DelimiterStyle) (columns : Nat) (line : Text) (free : c ∉ line) :
    ∀ instruction ∈ Line.instructions style columns line, ∀ t ∈ instruction.texts, c ∉ t := by
  have from_line : c ∉ (classify line).parts :=
    fun inside => free ((classify_parts line).subset inside)
  have spaces := notMem_spaces foreign columns
  intro instruction member
  unfold Line.instructions at member
  cases kind : classify line with
  | statement code =>
    simp only [kind, List.mem_singleton, parts] at member from_line
    simp [member, Instruction.texts, from_line]
  | text content =>
    simp only [kind, parts] at member from_line
    split at member
    · obtain ⟨segments, trailing⟩ := TokenizedLine.notMem_texts foreign style content from_line
      intro t inside
      simp only [List.mem_singleton.1 member, Instruction.texts, List.mem_cons] at inside
      rcases inside with rfl | rfl | inside
      · exact spaces
      · exact trailing
      · exact segments t inside
    · rw [List.mem_singleton.1 member]
      split <;> simp [Instruction.texts, spaces, from_line]
  | list blanks run expression trailing =>
    simp only [kind, parts, List.mem_append, not_or] at member from_line
    have run_free := notMem_backslashes foreign (run.length / 2)
    have inner : c ∉ expression := fun inside => from_line.1.2 (by simp [listToken, inside])
    split at member
    · simp [List.mem_singleton.1 member, Instruction.texts, Quoting.ofRun, spaces, from_line, run_free]
    · split at member
      · simp [List.mem_singleton.1 member, Instruction.texts, Quoting.ofRun, spaces, from_line,
          run_free]
      · simp [List.mem_singleton.1 member, Instruction.texts, Quoting.ofRun, spaces, from_line,
          run_free, inner]
  | inclusion blanks run name trailing =>
    simp only [kind, parts, List.mem_append, not_or] at member from_line
    have run_free := notMem_backslashes foreign (run.length / 2)
    have inner : c ∉ name := fun inside => from_line.1.2 (by simp [inclusionToken, inside])
    split at member
    · simp [List.mem_singleton.1 member, Instruction.texts, Quoting.ofRun, spaces, from_line, run_free]
    · rcases List.mem_append.1 member with lead | marker
      · split at lead
        · simp at lead
        · simp [List.mem_singleton.1 lead, Instruction.texts, Quoting.ofRun, spaces, from_line,
            run_free]
      · simp only [List.mem_cons, List.not_mem_nil, or_false] at marker
        rcases marker with rfl | rfl <;> simp [Instruction.texts, inner]

end Foreign

namespace Line

theorem lineEnd_of_classify {line blanks run name trailing : Text}
    (kind : classify line = .inclusion blanks run name trailing) : ∀ c ∈ name, c.isLineEnd = false := by
  unfold classify at kind
  dsimp only at kind
  split at kind
  · cases kind
  · split at kind
    · cases kind
    · cases token : ofToken? (line.takeWhile CodeUnit.isBlank)
        ((line.dropWhile CodeUnit.isBlank).takeWhile CodeUnit.isBackslash)
        ((line.dropWhile CodeUnit.isBlank).dropWhile CodeUnit.isBackslash) with
      | none =>
        rw [token] at kind
        cases kind
      | some found =>
        rw [token, Option.getD_some] at kind
        rcases ofToken?_eq_some _ _ _ _ token with ⟨name', trailing', same, -, free, -⟩ | ⟨_, _, same, -⟩
        · rw [kind] at same
          cases same
          exact free
        · rw [kind] at same
          cases same

theorem lineEnd_of_marker {style : DelimiterStyle} {columns : Nat} {line name : Text}
    {boundary : Boundary} (h : .marker boundary name ∈ Line.instructions style columns line) :
    ∀ c ∈ name, c.isLineEnd = false := by
  unfold Line.instructions at h
  dsimp only at h
  cases kind : classify line with
  | statement code => simp [kind] at h
  | text content =>
    rw [kind] at h
    dsimp only at h
    split at h <;> simp at h
  | list blanks run expression trailing =>
    rw [kind] at h
    dsimp only at h
    split at h
    · simp at h
    · split at h <;> simp at h
  | inclusion blanks run inner trailing =>
    rw [kind] at h
    dsimp only at h
    have free := lineEnd_of_classify kind
    split at h
    · simp at h
    · rcases List.mem_append.1 h with lead | marker
      · split at lead <;> simp at lead
      · obtain rfl : name = inner := by
          rcases List.mem_cons.1 marker with same | marker
          · exact (Instruction.marker.inj same).2
          · exact (Instruction.marker.inj (List.mem_singleton.1 marker)).2
        exact free

end Line

namespace Program

/-- The pieces of a program's code are its code lines, unless a text of an instruction holds a
newline. -/
theorem splitOn_code (program : Program)
    (free : ∀ instruction ∈ program.instructions, ∀ t ∈ instruction.texts, newline ∉ t) :
    Text.splitOn newline program.code = program.codeLines := by
  have foreign : ¬newline.Plain := by decide
  refine Text.splitOn_join newline program.codeLines (List.cons_ne_nil _ _) fun line member => ?_
  unfold codeLines at member
  rcases List.mem_append.1 member with member | footer
  · rcases List.mem_cons.1 member with rfl | inside
    · exact notMem_of_plain foreign _ (by decide)
    · obtain ⟨instruction, present, rfl⟩ := List.mem_map.1 inside
      exact instruction.notMem_code foreign (free instruction present)
  · rw [List.mem_singleton.1 footer]
    exact notMem_of_plain foreign _ (by decide)

theorem codeLines_getElem? (program : Program) (i : Nat) (instruction : Instruction)
    (h : program.instructions[i]? = some instruction) :
    program.codeLines[i + 1]? = some instruction.code := by
  have inside : i < (program.instructions.map Instruction.code).length := by
    rw [List.length_map]
    exact (List.getElem?_eq_some_iff.1 h).1
  unfold codeLines
  rw [List.cons_append, List.getElem?_cons_succ, List.getElem?_append_left inside, List.getElem?_map,
    h, Option.map_some]

end Program

end LineTemplate

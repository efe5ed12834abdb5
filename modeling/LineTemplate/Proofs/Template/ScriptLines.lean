import LineTemplate.Proofs.Template.SourceMap
import LineTemplate.Script.Lexer

/-!
The lines of generated code as an engine counts them. Code is written with a newline between instructions,
but a line of code ends at a CR and at the two Unicode separators as well. Quoting escapes a CR and copies
the separators; expressions and statements are copied whole. An instruction keeps to its line as long as
none of these units gets into its code, a CR at the very end aside, which the newline after it takes in.
-/

set_option autoImplicit false

namespace LineTemplate

namespace Text

/-- The lines of a text that end where lines of code do. -/
def scriptLines : Text → List Text
  | [] => [[]]
  | c :: rest =>
    if Script.lineEndsAt c rest = 1 then [] :: scriptLines rest
    else if c.isLineEnd then scriptLines rest
    else (scriptLines rest).modifyHead (c :: ·)

/-- The lines of code that a text makes up together with a newline after it. -/
def closedLines : Text → List Text
  | [] => [[]]
  | c :: rest =>
    if Script.lineEndsAt c (rest ++ [newline]) = 1 then [] :: closedLines rest
    else if c.isLineEnd then closedLines rest
    else (closedLines rest).modifyHead (c :: ·)

def Unbroken (t : Text) : Prop := ∀ c ∈ t, c.isLineEnd = false

instance (t : Text) : Decidable t.Unbroken := inferInstanceAs (Decidable (∀ c ∈ t, c.isLineEnd = false))

def withoutReturn (t : Text) : Text := if t.getLast? = some 0x0D then t.dropLast else t

/-- The text holds neither of the line ends that quoting copies. -/
def Unseparated (t : Text) : Prop := (0x2028 : CodeUnit) ∉ t ∧ (0x2029 : CodeUnit) ∉ t

instance (t : Text) : Decidable t.Unseparated := inferInstanceAs (Decidable (_ ∧ _))

end Text

/-- The code of an instruction is one line: no text that it quotes holds a separator, no expression that
it copies holds any line end, and code and names hold none but a CR at their end. -/
def Instruction.OnOneLine : Instruction → Prop
  | .literal text => text.Unseparated
  | .fields indent segments trailing =>
    indent.Unseparated ∧
      (∀ s ∈ segments, s.lead.Unseparated ∧ ∀ e ∈ s.expression, Text.Unbroken e) ∧
      trailing.Unseparated
  | .list expression indent => expression.Unbroken ∧ indent.Unseparated
  | .statement code => code.withoutReturn.Unbroken
  | .marker _ name => name.withoutReturn.Unbroken

instance : DecidablePred Instruction.OnOneLine
  | .literal text => inferInstanceAs (Decidable text.Unseparated)
  | .fields indent segments trailing =>
    inferInstanceAs (Decidable (indent.Unseparated ∧
      (∀ s ∈ segments, s.lead.Unseparated ∧ ∀ e ∈ s.expression, Text.Unbroken e) ∧
      trailing.Unseparated))
  | .list _ _ => inferInstanceAs (Decidable (_ ∧ _))
  | .statement code => inferInstanceAs (Decidable code.withoutReturn.Unbroken)
  | .marker _ name => inferInstanceAs (Decidable name.withoutReturn.Unbroken)

namespace Text

theorem lineEndsAt_eq_one_iff (c : CodeUnit) (rest : Text) : Script.lineEndsAt c rest = 1 ↔
    c.isLineEnd = true ∧ ¬(c = 0x0D ∧ rest.head? = some 0x0A) := by
  unfold Script.lineEndsAt
  split
  · rename_i pair
    simp [pair]
  · rename_i alone
    cases c.isLineEnd <;> simp [alone]

theorem closedLines_ne_nil (t : Text) : closedLines t ≠ [] := by
  induction t with
  | nil => simp [closedLines]
  | cons c rest ih =>
    unfold closedLines
    split
    · simp
    · split
      · exact ih
      · cases lines : closedLines rest with
        | nil => exact absurd lines ih
        | cons first others => simp

theorem scriptLines_append_newline (a b : Text) :
    scriptLines (a ++ newline :: b) = closedLines a ++ scriptLines b := by
  induction a with
  | nil =>
    have ends : Script.lineEndsAt newline b = 1 :=
      (lineEndsAt_eq_one_iff _ _).2 ⟨by decide, fun pair => absurd pair.1 (by decide)⟩
    simp [scriptLines, closedLines, ends]
  | cons c rest ih =>
    have next : (rest ++ newline :: b).head? = (rest ++ [newline]).head? := by
      cases rest <;> rfl
    have same : Script.lineEndsAt c (rest ++ newline :: b) = Script.lineEndsAt c (rest ++ [newline]) := by
      unfold Script.lineEndsAt
      rw [next]
    rw [List.cons_append, scriptLines, closedLines, same, ih]
    split
    · rfl
    · split
      · rfl
      · cases lines : closedLines rest with
        | nil => exact absurd lines (closedLines_ne_nil rest)
        | cons first others => rfl

theorem scriptLines_join (lines : List Text) (last : Text) :
    scriptLines (join [newline] (lines ++ [last])) = lines.flatMap closedLines ++ scriptLines last := by
  induction lines with
  | nil => simp
  | cons line rest ih =>
    rw [join_cons_append, scriptLines_append_newline, ih, List.flatMap_cons, List.append_assoc]

theorem closedLines_append (a b : Text) (free : a.Unbroken) :
    closedLines (a ++ b) = (closedLines b).modifyHead (a ++ ·) := by
  induction a with
  | nil => cases lines : closedLines b <;> simp [lines]
  | cons c rest ih =>
    have plain : c.isLineEnd = false := free c List.mem_cons_self
    have other : ¬Script.lineEndsAt c (rest ++ b ++ [newline]) = 1 := by
      simp [lineEndsAt_eq_one_iff, plain]
    rw [List.cons_append, closedLines, if_neg other, if_neg (by simp [plain]),
      ih fun d inside => free d (List.mem_cons_of_mem c inside), List.modifyHead_modifyHead]
    rfl

theorem exists_withoutReturn_append (t : Text) : ∃ ending, t = t.withoutReturn ++ ending ∧
    (ending = [] ∧ t.getLast? ≠ some 0x0D ∨ ending = [0x0D]) := by
  unfold withoutReturn
  split
  · rename_i ends
    obtain ⟨body, rfl⟩ := List.getLast?_eq_some_iff.1 ends
    exact ⟨[0x0D], by simp, .inr rfl⟩
  · rename_i other
    exact ⟨[], by simp, .inl ⟨rfl, other⟩⟩

theorem closedLines_of_unbroken (t : Text) (free : t.withoutReturn.Unbroken) :
    closedLines t = [t.withoutReturn] := by
  obtain ⟨ending, whole, empty | single⟩ := t.exists_withoutReturn_append
  · conv_lhs => rw [whole]
    rw [closedLines_append _ _ free, empty.1]
    simp [closedLines]
  · conv_lhs => rw [whole]
    rw [closedLines_append _ _ free, single]
    simp [closedLines, lineEndsAt_eq_one_iff, newline, CodeUnit.isLineEnd]

theorem length_closedLines_pos (t : Text) : 1 ≤ (closedLines t).length :=
  List.length_pos_iff.2 (closedLines_ne_nil t)

theorem length_closedLines_append_le (a b : Text) :
    (closedLines b).length ≤ (closedLines (a ++ b)).length := by
  induction a with
  | nil => exact Nat.le_refl _
  | cons c rest ih =>
    rw [List.cons_append, closedLines]
    split
    · exact Nat.le_succ_of_le ih
    · split
      · exact ih
      · simpa using ih

theorem unbroken_of_length_closedLines (t : Text) (one : (closedLines t).length = 1) :
    t.withoutReturn.Unbroken := by
  intro c inside
  by_contra broken
  have ends : c.isLineEnd = true := by simpa using broken
  obtain ⟨a, b, split⟩ := List.append_of_mem inside
  obtain ⟨ending, whole, shape⟩ := t.exists_withoutReturn_append
  rw [split, List.append_assoc, List.cons_append] at whole
  -- A CR that is not at the end of the text ends a line of its own or shares it with the LF after it.
  have two : 2 ≤ (closedLines (c :: (b ++ ending))).length := by
    rw [closedLines]
    by_cases alone : Script.lineEndsAt c (b ++ ending ++ [newline]) = 1
    · rw [if_pos alone, List.length_cons]
      exact Nat.succ_le_succ (length_closedLines_pos _)
    · obtain ⟨cr, lf⟩ : c = 0x0D ∧ (b ++ ending ++ [newline]).head? = some 0x0A := by
        by_contra other
        exact alone ((lineEndsAt_eq_one_iff _ _).2 ⟨ends, other⟩)
      rw [if_neg alone, if_pos ends]
      cases after : b ++ ending with
      | nil =>
        obtain ⟨rfl, rfl⟩ := List.append_eq_nil_iff.1 after
        rcases shape with ⟨-, last⟩ | other
        · exact absurd (by rw [whole, cr]; simp) last
        · simp at other
      | cons d rest =>
        rw [after, List.cons_append, List.head?_cons, Option.some.injEq] at lf
        have newline_ends : Script.lineEndsAt d (rest ++ [newline]) = 1 := by
          rw [lf, lineEndsAt_eq_one_iff]
          exact ⟨by decide, fun pair => absurd pair.1 (by decide)⟩
        rw [closedLines, if_pos newline_ends, List.length_cons]
        exact Nat.succ_le_succ (length_closedLines_pos _)
  have more := length_closedLines_append_le a (c :: (b ++ ending))
  rw [← whole, one] at more
  omega

theorem length_closedLines_eq_one_iff (t : Text) :
    (closedLines t).length = 1 ↔ t.withoutReturn.Unbroken :=
  ⟨unbroken_of_length_closedLines t, fun free => by rw [closedLines_of_unbroken t free]; rfl⟩

theorem withoutReturn_append (a b : Text) (some : b ≠ []) :
    (a ++ b).withoutReturn = a ++ b.withoutReturn := by
  unfold withoutReturn
  rw [List.getLast?_append_of_ne_nil a some]
  split
  · exact List.dropLast_append_of_ne_nil some
  · rfl

theorem unbroken_append (a b : Text) : (a ++ b).Unbroken ↔ a.Unbroken ∧ b.Unbroken :=
  List.forall_mem_append

theorem unbroken_join (sep : Text) (pieces : List Text) (free : sep.Unbroken) :
    (join sep pieces).Unbroken ↔ ∀ piece ∈ pieces, Text.Unbroken piece := by
  constructor
  · intro whole piece member c inside
    exact whole c (mem_join_of_mem member inside)
  · intro all c inside
    rcases mem_join sep pieces c inside with between | ⟨piece, member, inside⟩
    · exact free c between
    · exact all piece member c inside

theorem le_of_mem_quotedUnit (c d : CodeUnit) (h : d ∈ quotedUnit c) : 0x20 ≤ d := by
  have visible (t : Text) (all : ∀ e ∈ t, (0x20 : CodeUnit) ≤ e) (inside : d ∈ t) : 0x20 ≤ d :=
    all d inside
  unfold quotedUnit at h
  split at h
  · exact visible _ (by decide) h
  split at h
  · exact visible _ (by decide) h
  split at h
  · exact visible _ (by decide) h
  split at h
  · exact visible _ (by decide) h
  split at h
  · exact visible _ (by decide) h
  split at h
  · exact visible _ (by decide) h
  split at h
  · exact visible _ (by decide) h
  split at h
  · exact (plain_of_mem_numericEscape c d h).1
  · rename_i high
    rw [List.mem_singleton.1 h]
    exact UInt16.not_lt.1 high

theorem le_of_mem_quotedBody (t : Text) (d : CodeUnit) (h : d ∈ quotedBody t) : 0x20 ≤ d := by
  have surrogate (c : CodeUnit) (half : c.isHighSurrogate = true ∨ c.isLowSurrogate = true) :
      0x20 ≤ c := by
    simp only [CodeUnit.isHighSurrogate, CodeUnit.isLowSurrogate, Bool.and_eq_true,
      decide_eq_true_eq] at half
    rcases half with half | half
    · exact UInt16.le_trans (by decide) half.1
    · exact UInt16.le_trans (by decide) half.1
  fun_induction quotedBody t with
  | case1 => simp at h
  | case2 c _ => exact (plain_of_mem_numericEscape c d h).1
  | case3 c _ => exact le_of_mem_quotedUnit c d h
  | case4 c e rest high low ih =>
    rcases List.mem_cons.1 h with rfl | h
    · exact surrogate _ (.inl high)
    · rcases List.mem_cons.1 h with rfl | h
      · exact surrogate _ (.inr low)
      · exact ih h
  | case5 c e rest _ _ ih | case6 c e rest _ _ ih =>
    rcases List.mem_append.1 h with escape | h
    · exact (plain_of_mem_numericEscape c d escape).1
    · exact ih h
  | case7 c e rest _ _ ih =>
    rcases List.mem_append.1 h with unit | h
    · exact le_of_mem_quotedUnit c d unit
    · exact ih h

theorem le_of_mem_quoted (t : Text) (d : CodeUnit) (h : d ∈ t.quoted) : 0x20 ≤ d := by
  rcases (mem_quoted_iff t d).1 h with rfl | h
  · decide
  · exact le_of_mem_quotedBody t d h

theorem mem_quotedBody_of_mem {t : Text} {c : CodeUnit} (copied : quotedUnit c = [c])
    (whole : c.isHighSurrogate = false ∧ c.isLowSurrogate = false) (h : c ∈ t) : c ∈ quotedBody t := by
  fun_induction quotedBody t with
  | case1 => simp at h
  | case2 d half =>
    rw [List.mem_singleton.1 h] at whole
    simp [whole] at half
  | case3 d _ =>
    rw [← List.mem_singleton.1 h, copied]
    exact List.mem_singleton_self c
  | case4 d e rest high low ih =>
    rcases List.mem_cons.1 h with rfl | h
    · simp [whole] at high
    · rcases List.mem_cons.1 h with rfl | h
      · simp [whole] at low
      · exact List.mem_cons_of_mem d (List.mem_cons_of_mem e (ih h))
  | case5 d e rest high _ ih =>
    rcases List.mem_cons.1 h with rfl | h
    · simp [whole] at high
    · exact List.mem_append_right _ (ih h)
  | case6 d e rest _ low ih =>
    rcases List.mem_cons.1 h with rfl | h
    · simp [whole] at low
    · exact List.mem_append_right _ (ih h)
  | case7 d e rest _ _ ih =>
    rcases List.mem_cons.1 h with rfl | h
    · rw [copied]
      exact List.mem_cons_self
    · exact List.mem_append_right _ (ih h)

theorem unbroken_quoted (t : Text) : t.quoted.Unbroken ↔ t.Unseparated := by
  have mark : ("\"" : Text).Unbroken := by decide
  rw [quoted, unbroken_append, unbroken_append]
  constructor
  · rintro ⟨⟨-, free⟩, -⟩
    constructor
    · intro inside
      exact absurd (free _ (mem_quotedBody_of_mem (by decide) (by decide) inside)) (by decide)
    · intro inside
      exact absurd (free _ (mem_quotedBody_of_mem (by decide) (by decide) inside)) (by decide)
  · intro apart
    refine ⟨⟨mark, fun c inside => ?_⟩, mark⟩
    by_contra broken
    have visible := le_of_mem_quotedBody t c inside
    have ends : c.isLineEnd = true := by simpa using broken
    have copied := (mem_quotedBody t c inside).resolve_left (c.not_plain_of_isLineEnd ends)
    simp only [CodeUnit.isLineEnd, Bool.or_eq_true, beq_iff_eq] at ends
    rcases ends with ((rfl | rfl) | rfl) | rfl
    · exact absurd visible (by decide)
    · exact absurd visible (by decide)
    · exact apart.1 copied
    · exact apart.2 copied

theorem unseparated_nil : Unseparated [] := by simp [Unseparated]

theorem Unbroken.unseparated {t : Text} (h : t.Unbroken) : t.Unseparated :=
  ⟨fun inside => absurd (h _ inside) (by decide), fun inside => absurd (h _ inside) (by decide)⟩

theorem Unbroken.withoutReturn {t : Text} (h : t.Unbroken) : t.withoutReturn.Unbroken := by
  obtain ⟨ending, whole, -⟩ := t.exists_withoutReturn_append
  rw [whole, unbroken_append] at h
  exact h.1

end Text

theorem Segment.unbroken_operands (s : Segment) : (∀ operand ∈ s.operands, Text.Unbroken operand) ↔
    s.lead.Unseparated ∧ ∀ e ∈ s.expression, Text.Unbroken e := by
  have opening : (textHelperName ++ ("(() => (" : Text)).Unbroken := by decide
  have comma : ("), " : Text).Unbroken := by decide
  have closing : (")" : Text).Unbroken := by decide
  unfold operands
  rw [List.forall_mem_append]
  refine and_congr ?_ ?_
  · split
    · rename_i empty
      simp [List.isEmpty_iff.1 empty, Text.unseparated_nil]
    · simp [Text.unbroken_quoted]
  · cases s.expression with
    | none => simp
    | some e =>
      simp only [List.mem_singleton, forall_eq, Option.mem_some, forall_eq',
        Text.unbroken_append _ e.quoted, Text.unbroken_append _ (")" : Text),
        Text.unbroken_append _ ("), " : Text), Text.unbroken_append _ e, Text.unbroken_quoted, opening,
        comma, closing, true_and, and_true]
      exact and_iff_left_of_imp Text.Unbroken.unseparated

namespace Instruction

theorem unbroken_pushCode (value : Text) : (pushCode value).Unbroken ↔ value.Unbroken := by
  have opening : (outputName ++ (".push(" : Text)).Unbroken := by decide
  have closing : (");" : Text).Unbroken := by decide
  unfold pushCode
  rw [Text.unbroken_append, Text.unbroken_append]
  simp only [opening, closing, true_and, and_true]

theorem unbroken_fieldOperands (indent : Text) (segments : List Segment) (trailing : Text) :
    (∀ operand ∈ fieldOperands indent segments trailing, Text.Unbroken operand) ↔
      (fields indent segments trailing).OnOneLine := by
  have ends (t : Text) : (∀ operand ∈ (if t.isEmpty then [] else [t.quoted] : List Text),
      Text.Unbroken operand) ↔ t.Unseparated := by
    split
    · rename_i empty
      simp [List.isEmpty_iff.1 empty, Text.unseparated_nil]
    · simp [Text.unbroken_quoted]
  unfold fieldOperands OnOneLine
  rw [List.forall_mem_append, List.forall_mem_append, ends, ends, and_assoc]
  refine and_congr_right fun _ => and_congr_left fun _ => ?_
  simp only [List.mem_flatMap, forall_exists_index, and_imp]
  rw [forall_comm]
  exact forall_congr' fun s => by rw [forall_comm]; exact forall_congr' fun _ => s.unbroken_operands

theorem unbroken_code_iff (instruction : Instruction) :
    instruction.code.withoutReturn.Unbroken ↔ instruction.OnOneLine := by
  have closing : (");" : Text).withoutReturn = (");" : Text) := by decide
  have closed : (");" : Text).Unbroken := by decide
  have whole (value : Text) : (pushCode value).withoutReturn = pushCode value := by
    rw [pushCode, Text.withoutReturn_append _ _ (by decide), closing]
  cases instruction with
  | literal text =>
    rw [code, whole, unbroken_pushCode, Text.unbroken_quoted]
    rfl
  | fields indent segments trailing =>
    rw [code, whole, unbroken_pushCode, ← unbroken_fieldOperands]
    split
    · rename_i empty
      simp [List.isEmpty_iff.1 empty, Text.unbroken_quoted, Text.unseparated_nil]
    · exact Text.unbroken_join _ _ (by decide)
  | list expression indent =>
    have opening : (listHelperName ++ ("(" : Text) ++ outputName ++ (", () => (" : Text)).Unbroken := by
      decide
    have middle : ("), " : Text).Unbroken := by decide
    have comma : (", " : Text).Unbroken := by decide
    rw [code, Text.withoutReturn_append _ _ (by decide), closing]
    simp only [Text.unbroken_append _ (");" : Text), Text.unbroken_append _ expression.quoted,
      Text.unbroken_append _ (", " : Text), Text.unbroken_append _ indent.quoted,
      Text.unbroken_append _ ("), " : Text), Text.unbroken_append _ expression, Text.unbroken_quoted,
      opening, middle, comma, closed, true_and, and_true]
    exact and_iff_left_of_imp fun h => h.1.unseparated
  | statement code => rfl
  | marker boundary name =>
    have opening : (("// " : Text) ++ boundary.word ++ (" " : Text)).Unbroken := by
      cases boundary <;> decide
    rw [code, OnOneLine]
    cases name with
    | nil =>
      rw [List.append_nil]
      exact iff_of_true opening.withoutReturn (by decide)
    | cons c rest =>
      rw [Text.withoutReturn_append _ _ (List.cons_ne_nil c rest), Text.unbroken_append]
      exact and_iff_right opening

theorem OnOneLine.of_texts {instruction : Instruction}
    (free : ∀ t ∈ instruction.texts, Text.Unbroken t) : instruction.OnOneLine := by
  refine (unbroken_code_iff instruction).1 (Text.Unbroken.withoutReturn fun c inside => ?_)
  by_contra broken
  have ends : c.isLineEnd = true := by simpa using broken
  refine instruction.notMem_code (c.not_plain_of_isLineEnd ends) (fun t member copied => ?_) inside
  exact broken (free t member c copied)

end Instruction

theorem length_flatMap_eq_length_iff {α β : Type} (xs : List α) (f : α → List β)
    (some : ∀ x, 1 ≤ (f x).length) : xs.length ≤ (xs.flatMap f).length ∧
      ((xs.flatMap f).length = xs.length ↔ ∀ x ∈ xs, (f x).length = 1) := by
  induction xs with
  | nil => simp
  | cons x rest ih =>
    have first := some x
    rw [List.flatMap_cons, List.length_append, List.length_cons, List.forall_mem_cons, ← ih.2]
    omega

/-- The lines of a program's code are those of its header, of its instructions in order and of its
footer. -/
theorem Program.scriptLines_code (program : Program) : Text.scriptLines program.code =
    codeHeader :: program.instructions.flatMap (fun i => Text.closedLines i.code) ++ [codeFooter] := by
  have sep : ("\n" : Text) = [newline] := rfl
  have header : Text.closedLines codeHeader = [codeHeader] := by decide
  have footer : Text.scriptLines codeFooter = [codeFooter] := by decide
  rw [code, codeLines, sep, Text.scriptLines_join, List.flatMap_cons, List.flatMap_map, header, footer]
  rfl

theorem Program.of_isLineEnd_of_mem_code {program : Program}
    (single : ∀ instruction ∈ program.instructions, instruction.OnOneLine) {c : CodeUnit}
    (inside : c ∈ program.code) (ends : c.isLineEnd = true) : c = 0x0A ∨ c = 0x0D := by
  rcases Text.mem_join _ _ _ inside with between | ⟨piece, member, inside⟩
  · exact .inl (List.mem_singleton.1 between)
  have unended (t : Text) (free : t.Unbroken) (inside : c ∈ t) : c = 0x0A ∨ c = 0x0D := by
    rw [free c inside] at ends
    cases ends
  have cases : piece = codeHeader ∨ (∃ i ∈ program.instructions, i.code = piece) ∨ piece = codeFooter := by
    simpa [codeLines] using member
  rcases cases with rfl | ⟨i, present, rfl⟩ | rfl
  · exact unended _ (by decide) inside
  · obtain ⟨ending, whole, ended⟩ := Text.exists_withoutReturn_append i.code
    rw [whole] at inside
    rcases List.mem_append.1 inside with inside | inside
    · exact unended _ (i.unbroken_code_iff.2 (single i present)) inside
    · rcases ended with ⟨rfl, -⟩ | ⟨rfl, -⟩
      · exact absurd inside List.not_mem_nil
      · exact .inr (List.mem_singleton.1 inside)
  · exact unended _ (by decide) inside

section Expand

variable {columns : Nat} {style : DelimiterStyle} {included : Members Text} {template : Text}
  {program : Program}

theorem onOneLine_of_mem (h : expand columns style included template = .ok program)
    (clean : ∀ c ∈ template, c.isLineEnd = true → c = newline)
    (clean_included : ∀ name source, included.get? name = some source →
      ∀ c ∈ source, c.isLineEnd = true → c = newline) :
    ∀ instruction ∈ program.instructions, instruction.OnOneLine := by
  intro instruction member
  -- Lines hold no newlines, so a template without other line ends has lines without any.
  have free (c : CodeUnit) (ends : c.isLineEnd = true) (source : Text)
      (only : ∀ c ∈ source, c.isLineEnd = true → c = newline) :
      ∀ line ∈ splitLines source, c ∉ line := by
    intro line present inside
    have same := only c (subset_of_mem_splitLines present inside) ends
    exact newline_notMem_of_mem_splitLines source line present (same ▸ inside)
  refine Instruction.OnOneLine.of_texts fun t copied c inside => ?_
  by_contra broken
  have ends : c.isLineEnd = true := by simpa using broken
  obtain ⟨i, at_i⟩ := List.getElem?_of_mem member
  rcases expand_traced h i instruction 0 [] at_i with origin | ⟨⟨-, -, rfl⟩, -⟩
  · exact origin.notMem_texts (c.not_plain_of_isLineEnd ends) (free c ends template clean)
      (fun inner source found => free c ends source (clean_included inner source found)) t copied inside
  · rw [List.mem_singleton.1 copied] at inside
    exact List.not_mem_nil inside

/-- An engine counts at least one line for each instruction and two more. It counts no others exactly if
each instruction keeps to its line, and then it finds the code of an instruction on the line with its
number. Instructions keep to their lines if no template holds another line end than newlines. -/
theorem expand_scriptLines (h : expand columns style included template = .ok program) :
    program.instructions.length + 2 ≤ (Text.scriptLines program.code).length ∧
    ((Text.scriptLines program.code).length = program.instructions.length + 2 ↔
      ∀ instruction ∈ program.instructions, instruction.OnOneLine) ∧
    ((∀ instruction ∈ program.instructions, instruction.OnOneLine) →
      ∀ (i codeLine : Nat) (instruction : Instruction), program.instructions[i]? = some instruction →
        Instruction.atCodeLine codeLine = i →
          (Text.scriptLines program.code)[codeLine - 1]? = some instruction.code.withoutReturn) ∧
    ((∀ c ∈ template, c.isLineEnd = true → c = newline) →
      (∀ name source, included.get? name = some source →
        ∀ c ∈ source, c.isLineEnd = true → c = newline) →
      ∀ instruction ∈ program.instructions, instruction.OnOneLine) := by
  have counts := length_flatMap_eq_length_iff program.instructions
    (fun i => Text.closedLines i.code) fun i => Text.length_closedLines_pos i.code
  have length : (Text.scriptLines program.code).length =
      (program.instructions.flatMap fun i => Text.closedLines i.code).length + 2 := by
    rw [program.scriptLines_code]
    simp
  refine ⟨by omega, ?_, ?_, ?_⟩
  · rw [length, Nat.add_right_cancel_iff, counts.2]
    refine forall_congr' fun i => imp_congr_right fun _ => ?_
    rw [Text.length_closedLines_eq_one_iff, i.unbroken_code_iff]
  · intro single i codeLine instruction at_i number
    have line : codeLine - 1 = i + 1 := by
      unfold Instruction.atCodeLine at number
      omega
    have lines : program.instructions.flatMap (fun i => Text.closedLines i.code) =
        program.instructions.map fun i => i.code.withoutReturn := by
      rw [← List.flatMap_pure_eq_map]
      exact List.flatMap_congr fun i member =>
        Text.closedLines_of_unbroken _ (i.unbroken_code_iff.2 (single i member))
    have inside : i < program.instructions.length := (List.getElem?_eq_some_iff.1 at_i).1
    rw [program.scriptLines_code, lines, line, List.cons_append, List.getElem?_cons_succ,
      List.getElem?_append_left (by simpa using inside), List.getElem?_map, at_i]
    rfl
  · exact onOneLine_of_mem h

end Expand

/-- A CR within a statement puts the code of all later instructions one line further down. -/
theorem scriptLines_statement_return : ∃ program,
    expand 0 .standard [] "@a = 1;\rb = 2\n$(missing)\nlast" = .ok program ∧
      program.instructions =
        [.statement "a = 1;\rb = 2", .fields [] [⟨[], some "missing"⟩] [], .literal "last"] ∧
      (Text.scriptLines program.code).length = program.instructions.length + 3 ∧
      (Text.scriptLines program.code)[2]? = some ("b = 2" : Text) := by
  let program : Program := ⟨topLevelName, ["@a = 1;\rb = 2", "$(missing)", "last"],
    [.statement "a = 1;\rb = 2", .fields [] [⟨[], some "missing"⟩] [], .literal "last"],
    [.line 1, .line 2, .line 3], [], false⟩
  have expanded : expand 0 .standard [] "@a = 1;\rb = 2\n$(missing)\nlast" = .ok program := by
    with_unfolding_all rfl
  exact ⟨program, expanded, rfl, by decide, by decide⟩

/-- Lines that end with CR LF are one line of code each. -/
theorem expand_scriptLines_windows : ∃ program,
    expand 0 .standard [] "@a = 1;\r\n$(a)\r\n" = .ok program ∧
      (Text.scriptLines program.code).length = program.instructions.length + 2 ∧
      (Text.scriptLines program.code)[1]? = some ("a = 1;" : Text) := by
  let program : Program := ⟨topLevelName, ["@a = 1;\r", "$(a)\r"],
    [.statement "a = 1;\r", .fields [] [⟨[], some "a"⟩] "\r", .literal []],
    [.line 1, .line 2, .line 2], [], true⟩
  have expanded : expand 0 .standard [] "@a = 1;\r\n$(a)\r\n" = .ok program := by
    with_unfolding_all rfl
  have single : ∀ instruction ∈ program.instructions, instruction.OnOneLine := by decide
  obtain ⟨-, counted, found, -⟩ := expand_scriptLines expanded
  exact ⟨program, expanded, counted.2 single, found single 0 2 (.statement "a = 1;\r") rfl rfl⟩

end LineTemplate

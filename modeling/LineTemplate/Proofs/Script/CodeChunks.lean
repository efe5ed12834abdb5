import LineTemplate.Proofs.Script.CodeTokens

/-!
Generated code as chunks. The code of a program without statements whose expressions are names is the
text of its chunks, and each chunk fits those after it.
-/

set_option autoImplicit false

namespace LineTemplate

open Script

/-- What is added up to a line: a literal text, or the value of an expression. -/
inductive Addend where
  | text (t : Text)
  | value (expression : Text)
deriving DecidableEq

namespace Addend

def ofText (t : Text) : List Addend := if t.isEmpty then [] else [.text t]

def code : Addend → Text
  | .text t => t.quoted
  | .value e =>
    textHelperName ++ ("(() => (" : Text) ++ e ++ ("), " : Text) ++ e.quoted ++ (")" : Text)

end Addend

def Segment.addends (s : Segment) : List Addend :=
  Addend.ofText s.lead ++ s.expression.toList.map .value

def fieldAddends (indent : Text) (segments : List Segment) (trailing : Text) : List Addend :=
  Addend.ofText indent ++ segments.flatMap Segment.addends ++ Addend.ofText trailing

namespace Addend

theorem map_code_ofText (t : Text) :
    (ofText t).map code = if t.isEmpty then [] else [t.quoted] := by
  unfold ofText
  split <;> rfl

theorem join_code (first : Addend) (more : List Addend) :
    Text.join " + " ((first :: more).map code) =
      first.code ++ more.flatMap fun a => (" + " : Text) ++ a.code := by
  rw [List.map_cons, Text.join_cons, List.flatMap_map]

end Addend

theorem Segment.map_code_addends (s : Segment) : s.addends.map Addend.code = s.operands := by
  unfold addends operands
  rw [List.map_append, Addend.map_code_ofText]
  cases s.expression <;> rfl

theorem map_code_fieldAddends (indent : Text) (segments : List Segment) (trailing : Text) :
    (fieldAddends indent segments trailing).map Addend.code =
      Instruction.fieldOperands indent segments trailing := by
  unfold fieldAddends Instruction.fieldOperands
  rw [List.map_append, List.map_append, Addend.map_code_ofText, Addend.map_code_ofText,
    List.map_flatMap]
  simp only [Segment.map_code_addends]

namespace Script

def thunkChunks (gap e : Text) : List Chunk :=
  [⟨gap, 0, .mark "("⟩, .tight (.mark ")"), .spaced (.mark "=>"), .spaced (.mark "("),
    .tight (.word e), .tight (.mark ")")]

def addendChunks (gap : Text) : Addend → List Chunk
  | .text t => [⟨gap, 0, .quoted t⟩]
  | .value e =>
    [⟨gap, 0, .word textHelperName⟩, .tight (.mark "(")] ++ thunkChunks [] e ++
      [.tight (.mark ","), .spaced (.quoted e), .tight (.mark ")")]

def moreChunks (addends : List Addend) : List Chunk :=
  addends.flatMap fun a => .spaced (.mark "+") :: addendChunks [CodeUnit.ofChar ' '] a

def pushChunks (gap : Text) (breaks : Nat) (first : Addend) (more : List Addend) : List Chunk :=
  [⟨gap, breaks, .word outputName⟩, .tight (.mark "."), .tight (.word "push"), .tight (.mark "(")] ++
    addendChunks [] first ++ moreChunks more ++ [.tight (.mark ")"), .tight (.mark ";")]

def listChunks (gap : Text) (breaks : Nat) (e indent : Text) : List Chunk :=
  [⟨gap, breaks, .word listHelperName⟩, .tight (.mark "("), .tight (.word outputName),
      .tight (.mark ",")] ++ thunkChunks [CodeUnit.ofChar ' '] e ++
    [.tight (.mark ","), .spaced (.quoted indent), .tight (.mark ","), .spaced (.quoted e),
      .tight (.mark ")"), .tight (.mark ";")]

/-- The addends of the line that an instruction emits, if it always emits one line. -/
def lineAddends : Instruction → Option (Addend × List Addend)
  | .literal t => some (.text t, [])
  | .fields indent segments trailing =>
    match fieldAddends indent segments trailing with
    | [] => some (.text [], [])
    | first :: more => some (first, more)
  | _ => none

theorem lineAddends_fields (indent : Text) (segments : List Segment) (trailing : Text) :
    lineAddends (.fields indent segments trailing) =
      some ((fieldAddends indent segments trailing).headD (.text []),
        (fieldAddends indent segments trailing).tail) := by
  rw [lineAddends]
  cases fieldAddends indent segments trailing <;> rfl

def instructionChunks (gap : Text) (breaks : Nat) (i : Instruction) : List Chunk :=
  match i, lineAddends i with
  | .list e indent, _ => listChunks gap breaks e indent
  | _, some (first, more) => pushChunks gap breaks first more
  | _, none => []

def headerChunks : List Chunk :=
  [.tight (.mark "("), .tight (.word "function"), .spaced (.mark "("), .tight (.mark ")"),
    .spaced (.mark "\x7b"), .spaced (.word "const"), .spaced (.word outputName), .spaced (.mark "="),
    .spaced (.mark "["), .tight (.mark "]"), .tight (.mark ";")]

def footerChunks (gap : Text) (breaks : Nat) : List Chunk :=
  [⟨gap, breaks, .word "return"⟩, .spaced (.word outputName), .tight (.mark ";"),
    .spaced (.mark "\x7d"), .tight (.mark ")")]

/-- The chunks of some instructions and of the footer. What stands in front of the next chunk grows by
each marker, which is a comment. -/
def bodyChunks (gap : Text) (breaks : Nat) : List Instruction → List Chunk
  | [] => footerChunks gap breaks
  | .marker boundary name :: rest =>
    bodyChunks (gap ++ (Instruction.marker boundary name).code ++ [0x0A]) (breaks + 1) rest
  | i :: rest => instructionChunks gap breaks i ++ bodyChunks [0x0A] 1 rest

def programChunks (p : Program) : List Chunk := headerChunks ++ bodyChunks [0x0A] 1 p.instructions

theorem spelled_thunkChunks (gap e : Text) :
    spelled (thunkChunks gap e) = gap ++ (("() => (" : Text) ++ (e ++ (")" : Text))) := by
  simp only [thunkChunks, spelled_cons, spelled_nil]
  rfl

theorem spelled_addendChunks (gap : Text) (a : Addend) :
    spelled (addendChunks gap a) = gap ++ a.code := by
  cases a with
  | text t => simp [addendChunks, Lexeme.code, Addend.code]
  | value e =>
    simp only [addendChunks, spelled_append, spelled_thunkChunks, spelled_cons, spelled_nil,
      Addend.code, List.append_assoc]
    rfl

theorem spelled_moreChunks (more : List Addend) :
    spelled (moreChunks more) = more.flatMap fun a => (" + " : Text) ++ a.code := by
  induction more with
  | nil => rfl
  | cons a more ih =>
    have chunks : moreChunks (a :: more) =
        .spaced (.mark "+") :: (addendChunks [CodeUnit.ofChar ' '] a ++ moreChunks more) := rfl
    rw [chunks, spelled_cons, spelled_append, spelled_addendChunks, ih, List.flatMap_cons]
    rfl

theorem spelled_pushChunks (gap : Text) (breaks : Nat) (first : Addend) (more : List Addend) :
    spelled (pushChunks gap breaks first more) =
      gap ++ Instruction.pushCode (Text.join " + " ((first :: more).map Addend.code)) := by
  rw [Addend.join_code, ← spelled_moreChunks]
  simp only [pushChunks, spelled_append, spelled_cons, spelled_nil, spelled_addendChunks,
    Instruction.pushCode, List.append_assoc]
  rfl

theorem spelled_listChunks (gap : Text) (breaks : Nat) (e indent : Text) :
    spelled (listChunks gap breaks e indent) = gap ++ (Instruction.list e indent).code := by
  simp only [listChunks, spelled_append, spelled_cons, spelled_nil, spelled_thunkChunks,
    Instruction.code, List.append_assoc]
  rfl

end Script

/-- An instruction whose expressions are words that are no reserved words; a marker is a comment of one
line. -/
def Instruction.Legible : Instruction → Prop
  | .literal _ => True
  | .fields _ segments _ => ∀ s ∈ segments, ∀ e, s.expression = some e → Word e ∧ isName e = true
  | .list e _ => Word e ∧ isName e = true
  | .statement _ => False
  | .marker _ name => ∀ c ∈ name, c.isLineEnd = false

theorem Instruction.marker_or (i : Instruction) :
    (∀ boundary name, i ≠ .marker boundary name) ∨ ∃ boundary name, i = .marker boundary name := by
  cases i with
  | marker boundary name => exact .inr ⟨boundary, name, rfl⟩
  | literal | fields | list | statement => exact .inl (by simp)

namespace Script

theorem bodyChunks_cons (gap : Text) (breaks : Nat) (i : Instruction) (rest : List Instruction)
    (emits : ∀ boundary name, i ≠ .marker boundary name) :
    bodyChunks gap breaks (i :: rest) =
      instructionChunks gap breaks i ++ bodyChunks [0x0A] 1 rest := by
  cases i with
  | marker boundary name => exact absurd rfl (emits boundary name)
  | literal | fields | list | statement => rfl

theorem sum_or_list {i : Instruction} (h : i.Legible)
    (emits : ∀ boundary name, i ≠ .marker boundary name) :
    (∃ first more, lineAddends i = some (first, more) ∧
      ∀ gap breaks, instructionChunks gap breaks i = pushChunks gap breaks first more) ∨
      ∃ e indent, i = .list e indent := by
  cases i with
  | literal t => exact .inl ⟨.text t, [], rfl, fun _ _ => rfl⟩
  | fields indent segments trailing =>
    cases addends : fieldAddends indent segments trailing with
    | nil => exact .inl ⟨.text [], [], by simp [lineAddends, addends],
        by simp [instructionChunks, lineAddends, addends]⟩
    | cons first more => exact .inl ⟨first, more, by simp [lineAddends, addends],
        by simp [instructionChunks, lineAddends, addends]⟩
  | list e indent => exact .inr ⟨e, indent, rfl⟩
  | statement => exact h.elim
  | marker boundary name => exact absurd rfl (emits boundary name)

theorem code_of_lineAddends {i : Instruction} {first : Addend} {more : List Addend}
    (h : lineAddends i = some (first, more)) :
    i.code = Instruction.pushCode (Text.join " + " ((first :: more).map Addend.code)) := by
  cases i with
  | literal t =>
    obtain ⟨rfl, rfl⟩ := Prod.mk.inj (Option.some.inj h)
    simp [Instruction.code, Addend.code]
  | fields indent segments trailing =>
    rw [Instruction.code, ← map_code_fieldAddends]
    cases addends : fieldAddends indent segments trailing with
    | nil =>
      simp only [lineAddends, addends, Option.some.injEq, Prod.mk.injEq] at h
      obtain ⟨rfl, rfl⟩ := h
      simp [Addend.code]
    | cons a rest =>
      simp only [lineAddends, addends, Option.some.injEq, Prod.mk.injEq] at h
      obtain ⟨rfl, rfl⟩ := h
      simp
  | list | statement | marker => simp [lineAddends] at h

theorem spelled_instructionChunks (gap : Text) (breaks : Nat) (i : Instruction) (h : i.Legible)
    (emits : ∀ boundary name, i ≠ .marker boundary name) :
    spelled (instructionChunks gap breaks i) = gap ++ i.code := by
  rcases sum_or_list h emits with ⟨first, more, found, chunks⟩ | ⟨e, indent, rfl⟩
  · rw [chunks, code_of_lineAddends found]
    exact spelled_pushChunks gap breaks first more
  · exact spelled_listChunks gap breaks e indent

theorem spelled_bodyChunks (gap : Text) (breaks : Nat) (instructions : List Instruction)
    (h : ∀ i ∈ instructions, i.Legible) :
    spelled (bodyChunks gap breaks instructions) =
      gap ++ Text.join [0x0A] (instructions.map Instruction.code ++ [codeFooter]) := by
  induction instructions generalizing gap breaks with
  | nil =>
    simp only [bodyChunks, footerChunks, spelled_cons, spelled_nil, List.map_nil, List.nil_append,
      Text.join_singleton]
    rfl
  | cons i rest ih =>
    have legible := h i List.mem_cons_self
    have others (gap : Text) (breaks : Nat) := ih gap breaks fun j inside =>
      h j (List.mem_cons_of_mem i inside)
    rw [List.map_cons, Text.join_cons_append]
    rcases i.marker_or with emits | ⟨boundary, name, rfl⟩
    · rw [bodyChunks_cons _ _ _ _ emits, spelled_append,
        spelled_instructionChunks gap breaks i legible emits, others]
      simp
    · rw [bodyChunks, others]
      simp

theorem spelled_programChunks (p : Program) (h : ∀ i ∈ p.instructions, i.Legible) :
    spelled (programChunks p) = p.code := by
  have newline : ("\n" : Text) = [0x0A] := rfl
  rw [Program.code, Program.codeLines, newline, Text.join_cons_append, programChunks, spelled_append,
    spelled_bodyChunks _ _ _ h]
  simp only [headerChunks, spelled_cons, spelled_nil]
  rfl

theorem endsWord_of_ascii (c : CodeUnit) (rest : Text) (small : c.toNat < 0x80)
    (ends : continuesName c.toNat = false) : EndsWord (c :: rest) :=
  ⟨c, rest, rfl, small, ends⟩

theorem fits_thunkChunks (gap e rest : Text) (skipped : Gap gap 0) (word : Word e) :
    Fits (thunkChunks gap e) rest := by
  refine fits_cons (fits_loneMark '(' _ skipped (by decide)) ?_
  refine fits_cons (fits_loneMark ')' _ gap_nil (by decide)) ?_
  refine fits_cons (fits_arrow _ gap_space) ?_
  refine fits_cons (fits_loneMark '(' _ gap_space (by decide)) ?_
  refine fits_cons (fits_word e _ gap_nil word ?_) ?_
  · exact endsWord_of_ascii ')' _ (by decide) (by decide)
  · exact fits_cons (fits_loneMark ')' _ gap_nil (by decide)) (fits_nil rest)

def Addend.Legible : Addend → Prop
  | .text _ => True
  | .value e => Word e ∧ isName e = true

theorem fits_addendChunks (gap rest : Text) (a : Addend) (skipped : Gap gap 0)
    (legible : Addend.Legible a) : Fits (addendChunks gap a) rest := by
  cases a with
  | text t => exact fits_cons (fits_quoted t _ skipped) (fits_nil rest)
  | value e =>
    rw [addendChunks, fits_append, fits_append]
    refine ⟨⟨?_, fits_thunkChunks [] e _ gap_nil legible.1⟩, ?_⟩
    · refine fits_cons (fits_word textHelperName _ skipped (by decide) ?_) ?_
      · exact endsWord_of_ascii '(' _ (by decide) (by decide)
      · exact fits_cons (fits_loneMark '(' _ gap_nil (by decide)) (fits_nil _)
    · refine fits_cons (fits_loneMark ',' _ gap_nil (by decide)) ?_
      refine fits_cons (fits_quoted e _ gap_space) ?_
      exact fits_cons (fits_loneMark ')' _ gap_nil (by decide)) (fits_nil rest)

theorem fits_moreChunks (more : List Addend) (rest : Text)
    (legible : ∀ a ∈ more, Addend.Legible a) : Fits (moreChunks more) rest := by
  induction more with
  | nil => exact fits_nil rest
  | cons a more ih =>
    have chunks : moreChunks (a :: more) =
        .spaced (.mark "+") :: (addendChunks [CodeUnit.ofChar ' '] a ++ moreChunks more) := rfl
    rw [chunks]
    refine fits_cons ?_ ((fits_append _ _ _).2 ⟨?_, ?_⟩)
    · rw [spelled_append, spelled_addendChunks]
      exact fits_spacedMark '+' _ gap_space (.inr rfl)
    · exact fits_addendChunks _ _ a gap_space (legible a List.mem_cons_self)
    · exact ih fun b inside => legible b (List.mem_cons_of_mem a inside)

theorem fits_pushChunks (gap : Text) (breaks : Nat) (first : Addend) (more : List Addend)
    (rest : Text) (skipped : Gap gap breaks) (legible : ∀ a ∈ first :: more, Addend.Legible a) :
    Fits (pushChunks gap breaks first more) rest := by
  rw [pushChunks, fits_append, fits_append, fits_append]
  refine ⟨⟨⟨?_, ?_⟩, ?_⟩, ?_⟩
  · refine fits_cons (fits_word outputName _ skipped (by decide) ?_) ?_
    · exact endsWord_of_ascii '.' _ (by decide) (by decide)
    refine fits_cons (fits_dot _ gap_nil) ?_
    refine fits_cons (fits_word "push" _ gap_nil (by decide) ?_) ?_
    · exact endsWord_of_ascii '(' _ (by decide) (by decide)
    · exact fits_cons (fits_loneMark '(' _ gap_nil (by decide)) (fits_nil _)
  · exact fits_addendChunks _ _ first gap_nil (legible first List.mem_cons_self)
  · exact fits_moreChunks more _ fun a inside => legible a (List.mem_cons_of_mem first inside)
  · refine fits_cons (fits_loneMark ')' _ gap_nil (by decide)) ?_
    exact fits_cons (fits_loneMark ';' _ gap_nil (by decide)) (fits_nil rest)

theorem fits_listChunks (gap : Text) (breaks : Nat) (e indent rest : Text)
    (skipped : Gap gap breaks) (word : Word e) : Fits (listChunks gap breaks e indent) rest := by
  rw [listChunks, fits_append, fits_append]
  refine ⟨⟨?_, fits_thunkChunks _ e _ gap_space word⟩, ?_⟩
  · refine fits_cons (fits_word listHelperName _ skipped (by decide) ?_) ?_
    · exact endsWord_of_ascii '(' _ (by decide) (by decide)
    refine fits_cons (fits_loneMark '(' _ gap_nil (by decide)) ?_
    refine fits_cons (fits_word outputName _ gap_nil (by decide) ?_) ?_
    · exact endsWord_of_ascii ',' _ (by decide) (by decide)
    · exact fits_cons (fits_loneMark ',' _ gap_nil (by decide)) (fits_nil _)
  · refine fits_cons (fits_loneMark ',' _ gap_nil (by decide)) ?_
    refine fits_cons (fits_quoted indent _ gap_space) ?_
    refine fits_cons (fits_loneMark ',' _ gap_nil (by decide)) ?_
    refine fits_cons (fits_quoted e _ gap_space) ?_
    refine fits_cons (fits_loneMark ')' _ gap_nil (by decide)) ?_
    exact fits_cons (fits_loneMark ';' _ gap_nil (by decide)) (fits_nil rest)

theorem fits_footerChunks (gap : Text) (breaks : Nat) (skipped : Gap gap breaks) :
    Fits (footerChunks gap breaks) [] := by
  refine fits_cons (fits_word "return" _ skipped (by decide) ?_) ?_
  · exact endsWord_of_ascii ' ' _ (by decide) (by decide)
  refine fits_cons (fits_word outputName _ gap_space (by decide) ?_) ?_
  · exact endsWord_of_ascii ';' _ (by decide) (by decide)
  refine fits_cons (fits_loneMark ';' _ gap_nil (by decide)) ?_
  refine fits_cons (fits_loneMark '\x7d' _ gap_space (by decide)) ?_
  exact fits_cons (fits_loneMark ')' _ gap_nil (by decide)) (fits_nil [])

theorem fits_headerChunks (rest : Text) : Fits headerChunks rest := by
  refine fits_cons (fits_loneMark '(' _ gap_nil (by decide)) ?_
  refine fits_cons (fits_word "function" _ gap_nil (by decide) ?_) ?_
  · exact endsWord_of_ascii ' ' _ (by decide) (by decide)
  refine fits_cons (fits_loneMark '(' _ gap_space (by decide)) ?_
  refine fits_cons (fits_loneMark ')' _ gap_nil (by decide)) ?_
  refine fits_cons (fits_loneMark '\x7b' _ gap_space (by decide)) ?_
  refine fits_cons (fits_word "const" _ gap_space (by decide) ?_) ?_
  · exact endsWord_of_ascii ' ' _ (by decide) (by decide)
  refine fits_cons (fits_word outputName _ gap_space (by decide) ?_) ?_
  · exact endsWord_of_ascii ' ' _ (by decide) (by decide)
  refine fits_cons (fits_spacedMark '=' _ gap_space (.inl rfl)) ?_
  refine fits_cons (fits_loneMark '[' _ gap_space (by decide)) ?_
  refine fits_cons (fits_loneMark ']' _ gap_nil (by decide)) ?_
  exact fits_cons (fits_loneMark ';' _ gap_nil (by decide)) (fits_nil rest)

theorem legible_fieldAddends (indent : Text) (segments : List Segment) (trailing : Text)
    (h : (Instruction.fields indent segments trailing).Legible) :
    ∀ a ∈ fieldAddends indent segments trailing, Addend.Legible a := by
  have plain (t : Text) (a : Addend) (inside : a ∈ Addend.ofText t) : Addend.Legible a := by
    unfold Addend.ofText at inside
    split at inside
    · simp at inside
    · rw [List.mem_singleton.1 inside]
      trivial
  intro a inside
  unfold fieldAddends at inside
  rcases List.mem_append.1 inside with inside | last
  · rcases List.mem_append.1 inside with lead | inside
    · exact plain _ a lead
    · obtain ⟨s, segment, inside⟩ := List.mem_flatMap.1 inside
      rcases List.mem_append.1 inside with lead | field
      · exact plain _ a lead
      · obtain ⟨e, found, rfl⟩ := List.mem_map.1 field
        exact h s segment e (Option.mem_toList.1 found)
  · exact plain _ a last

theorem legible_lineAddends {i : Instruction} {first : Addend} {more : List Addend}
    (h : lineAddends i = some (first, more)) (legible : i.Legible) :
    ∀ a ∈ first :: more, Addend.Legible a := by
  cases i with
  | literal t =>
    obtain ⟨rfl, rfl⟩ := Prod.mk.inj (Option.some.inj h)
    simp [Addend.Legible]
  | fields indent segments trailing =>
    have all := legible_fieldAddends indent segments trailing legible
    cases addends : fieldAddends indent segments trailing with
    | nil =>
      simp only [lineAddends, addends, Option.some.injEq, Prod.mk.injEq] at h
      obtain ⟨rfl, rfl⟩ := h
      simp [Addend.Legible]
    | cons a rest =>
      simp only [lineAddends, addends, Option.some.injEq, Prod.mk.injEq] at h
      obtain ⟨rfl, rfl⟩ := h
      rwa [addends] at all
  | list | statement | marker => simp [lineAddends] at h

theorem fits_instructionChunks (gap : Text) (breaks : Nat) (i : Instruction) (rest : Text)
    (skipped : Gap gap breaks) (legible : i.Legible)
    (emits : ∀ boundary name, i ≠ .marker boundary name) :
    Fits (instructionChunks gap breaks i) rest := by
  rcases sum_or_list legible emits with ⟨first, more, found, chunks⟩ | ⟨e, indent, rfl⟩
  · rw [chunks]
    exact fits_pushChunks gap breaks first more rest skipped (legible_lineAddends found legible)
  · exact fits_listChunks gap breaks e indent rest skipped legible.1

theorem gap_marker {gap : Text} {breaks : Nat} (boundary : Boundary) (name : Text)
    (skipped : Gap gap breaks) (free : ∀ c ∈ name, c.isLineEnd = false) :
    Gap (gap ++ (Instruction.marker boundary name).code ++ [0x0A]) (breaks + 1) := by
  have comment := skipped.comment (CodeUnit.ofChar ' ' :: (boundary.word ++ (" " : Text) ++ name))
    fun c inside => by
      have word : ∀ d ∈ (boundary.word : Text), d.isLineEnd = false := by
        cases boundary <;> decide
      rcases List.mem_cons.1 inside with rfl | inside
      · decide
      rcases List.mem_append.1 inside with inside | inside
      · rcases List.mem_append.1 inside with inside | inside
        · exact word c inside
        · have blank : ∀ d ∈ (" " : Text), d.isLineEnd = false := by decide
          exact blank c inside
      · exact free c inside
  have code : gap ++ (Instruction.marker boundary name).code ++ [0x0A] = gap ++
      CodeUnit.ofChar '/' :: CodeUnit.ofChar '/' ::
        (CodeUnit.ofChar ' ' :: (boundary.word ++ (" " : Text) ++ name) ++ [0x0A]) := by
    rw [List.append_assoc]
    rfl
  rw [code]
  exact comment

theorem fits_bodyChunks (gap : Text) (breaks : Nat) (instructions : List Instruction)
    (skipped : Gap gap breaks) (h : ∀ i ∈ instructions, i.Legible) :
    Fits (bodyChunks gap breaks instructions) [] := by
  induction instructions generalizing gap breaks with
  | nil => exact fits_footerChunks gap breaks skipped
  | cons i rest ih =>
    have legible := h i List.mem_cons_self
    have others (gap : Text) (breaks : Nat) (skipped : Gap gap breaks) :=
      ih gap breaks skipped fun j inside => h j (List.mem_cons_of_mem i inside)
    rcases i.marker_or with emits | ⟨boundary, name, rfl⟩
    · rw [bodyChunks_cons _ _ _ _ emits]
      exact (fits_append _ _ _).2 ⟨fits_instructionChunks gap breaks _ _ skipped legible emits,
        others _ _ gap_newline⟩
    · rw [bodyChunks]
      exact others _ _ (gap_marker boundary name skipped legible)

end Script

end LineTemplate

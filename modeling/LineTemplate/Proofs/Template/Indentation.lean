import LineTemplate.Proofs.Template.LineParts
import LineTemplate.Proofs.Template.Splitting
import LineTemplate.Proofs.Template.Yield

/-!
Lines under more indentation. Blanks in front of a line change neither its kind nor its tokens; a line
with spaces in front of it yields what the line itself yields at a deeper indentation, once the literal
text within each emitted line is put together.
-/

set_option autoImplicit false

namespace LineTemplate

/-- The segments and the trailing text of a line, with the literal text in front of each expression in
one piece. The first piece starts with `pending`. -/
def mergeSegments (pending : Text) : List Segment → Text → TokenizedLine
  | [], trailing => ⟨[], pending ++ trailing⟩
  | ⟨lead, none⟩ :: rest, trailing => mergeSegments (pending ++ lead) rest trailing
  | ⟨lead, some e⟩ :: rest, trailing =>
    let others := mergeSegments [] rest trailing
    ⟨⟨pending ++ lead, some e⟩ :: others.segments, others.trailing⟩

/-- A segment with text in front of it. -/
def Segment.after (s : Segment) (w : Text) : Segment := { s with lead := w ++ s.lead }

theorem mergeSegments_after (pending w : Text) (s : Segment) (rest : List Segment) (trailing : Text) :
    mergeSegments pending (s.after w :: rest) trailing =
      mergeSegments (pending ++ w) (s :: rest) trailing := by
  obtain ⟨lead, expression⟩ := s
  cases expression with
  | none => simp only [Segment.after, mergeSegments, List.append_assoc]
  | some e => simp only [Segment.after, mergeSegments, List.append_assoc]

namespace Instruction

/-- An instruction with the literal text of its line put together; the indentation becomes part of the
first piece. -/
def merged : Instruction → Instruction
  | .fields indent segments trailing =>
    let line := mergeSegments indent segments trailing
    .fields [] line.segments line.trailing
  | other => other

def isMarker : Instruction → Bool
  | .marker _ _ => true
  | _ => false

end Instruction

/-- What instructions emit: their lines put together, without the markers. -/
def emitted (instructions : List Instruction) : List Instruction :=
  (instructions.filter fun i => !i.isMarker).map Instruction.merged

theorem emitted_append (a b : List Instruction) : emitted (a ++ b) = emitted a ++ emitted b := by
  simp [emitted]

theorem emitted_flatMap {α : Type} (f : α → List Instruction) (xs : List α) :
    emitted (xs.flatMap f) = xs.flatMap fun x => emitted (f x) := by
  induction xs with
  | nil => rfl
  | cons x rest ih => rw [List.flatMap_cons, emitted_append, ih, List.flatMap_cons]

namespace Text

theorem isBlank_of_mem_spaces (w : Nat) : ∀ c ∈ spaces w, CodeUnit.isBlank c = true := by
  intro c inside
  rw [List.eq_of_mem_replicate inside]
  decide

theorem spaces_add (a b : Nat) : spaces (a + b) = spaces a ++ spaces b :=
  List.replicate_add a b _

theorem length_spaces (w : Nat) : (spaces w).length = w := List.length_replicate

theorem takeWhile_append_of_neg (p : CodeUnit → Bool) (t w : Text) (h : ∀ c ∈ w, p c = false) :
    (t ++ w).takeWhile p = t.takeWhile p ∧ (t ++ w).dropWhile p = t.dropWhile p ++ w := by
  induction t with
  | nil =>
    cases w with
    | nil => simp
    | cons c rest => simp [h c List.mem_cons_self]
  | cons c rest ih => by_cases keep : p c = true <;> simp [keep, ih]

theorem splitEnd_append_left (p : CodeUnit → Bool) (w t : Text) (h : ∀ c ∈ w, p c = false) :
    splitEnd p (w ++ t) = (w ++ (splitEnd p t).1, (splitEnd p t).2) := by
  obtain ⟨taken, left⟩ := takeWhile_append_of_neg p t.reverse w.reverse fun c inside =>
    h c (List.mem_reverse.1 inside)
  unfold splitEnd
  rw [List.reverse_append, taken, left, List.reverse_append, List.reverse_reverse]

end Text

namespace Line

def indented (w : Text) : Line → Line
  | .statement code => .statement code
  | .inclusion blanks run name trailing => .inclusion (w ++ blanks) run name trailing
  | .list blanks run expression trailing => .list (w ++ blanks) run expression trailing
  | .text content => .text (w ++ content)

theorem ofToken?_indented (w blanks run t : Text) :
    ofToken? (w ++ blanks) run t = (ofToken? blanks run t).map (indented w) := by
  unfold ofToken?
  split
  · split
    · rfl
    · split
      · rw [Option.map_map]
        rfl
      · split
        · rw [Option.map_map]
          rfl
        · rfl
  · rfl

theorem classify_append (w line : Text) (blank : ∀ c ∈ w, CodeUnit.isBlank c = true) :
    classify (w ++ line) = (classify line).indented w := by
  unfold classify
  rw [List.takeWhile_append_of_pos blank, List.dropWhile_append_of_pos blank]
  dsimp only
  split
  · rfl
  · split
    · rfl
    · rw [ofToken?_indented]
      cases ofToken? (line.takeWhile CodeUnit.isBlank)
          ((line.dropWhile CodeUnit.isBlank).takeWhile CodeUnit.isBackslash)
          ((line.dropWhile CodeUnit.isBlank).dropWhile CodeUnit.isBackslash) <;> rfl

theorem inclusion?_append (w line : Text) (blank : ∀ c ∈ w, CodeUnit.isBlank c = true) :
    inclusion? (w ++ line) =
      (inclusion? line).map fun (blanks, run, name) => (w ++ blanks, run, name) := by
  unfold inclusion?
  rw [classify_append w line blank]
  cases classify line with
  | statement | list | text => rfl
  | inclusion blanks run name trailing =>
    dsimp only [indented]
    split <;> rfl

end Line

namespace DelimiterStyle

theorem tokenHere?_space (style : DelimiterStyle) (t : Text) :
    style.tokenHere? (CodeUnit.ofChar ' ' :: t) = none := by
  cases style with
  | standard => cases t <;> rfl
  | alternate => rfl

theorem cut?_spaces (style : DelimiterStyle) (w : Nat) (t : Text) :
    style.cut? (Text.spaces w ++ t) =
      (style.cut? t).map fun cut => { cut with before := Text.spaces w ++ cut.before } := by
  induction w with
  | zero => exact Option.map_id'.symm
  | succ w ih =>
    change style.cut? (CodeUnit.ofChar ' ' :: (Text.spaces w ++ t)) = _
    rw [cut?, tokenHere?_space, ih, Option.map_map]
    rfl

end DelimiterStyle

theorem Segment.ofCut_spaces (style : DelimiterStyle) (w : Nat) (cut : TokenCut) :
    Segment.ofCut style { cut with before := Text.spaces w ++ cut.before } =
      (Segment.ofCut style cut).after (Text.spaces w) := by
  have run : Quoting.splitRun (Text.spaces w ++ cut.before) =
      (Text.spaces w ++ (Quoting.splitRun cut.before).1, (Quoting.splitRun cut.before).2) := by
    refine Text.splitEnd_append_left _ _ _ fun c inside => ?_
    rw [List.eq_of_mem_replicate inside]
    decide
  unfold Segment.ofCut
  rw [run]
  dsimp only
  split
  · simp only [after, List.append_assoc]
  · split
    · simp only [after, List.append_assoc]
    · simp only [after, List.append_assoc]

theorem TokenizedLine.ofText_eq (style : DelimiterStyle) (t : Text) :
    ofText style t = match style.cut? t with
      | none => ⟨[], t⟩
      | some cut =>
        ⟨Segment.ofCut style cut :: (ofText style cut.after).segments,
          (ofText style cut.after).trailing⟩ := by
  rw [ofText]
  split <;> simp_all

theorem TokenizedLine.ofText_spaces (style : DelimiterStyle) (w : Nat) (t : Text) :
    ofText style (Text.spaces w ++ t) = match ofText style t with
      | ⟨[], trailing⟩ => ⟨[], Text.spaces w ++ trailing⟩
      | ⟨s :: rest, trailing⟩ => ⟨s.after (Text.spaces w) :: rest, trailing⟩ := by
  rw [ofText_eq, ofText_eq style t, DelimiterStyle.cut?_spaces]
  cases style.cut? t with
  | none => rfl
  | some cut =>
    simp only [Option.map_some]
    rw [Segment.ofCut_spaces]

def Line.pushedIn (w : Nat) (line : Text) : Text := if line.isEmpty then [] else Text.spaces w ++ line

namespace Line

theorem classify_eq_text {line content : Text} (h : classify line = .text content) : line = content := by
  unfold classify at h
  dsimp only at h
  split at h
  · exact Line.text.inj h
  · split at h
    · simp at h
    · cases found : ofToken? (line.takeWhile CodeUnit.isBlank)
          ((line.dropWhile CodeUnit.isBlank).takeWhile CodeUnit.isBackslash)
          ((line.dropWhile CodeUnit.isBlank).dropWhile CodeUnit.isBackslash) with
      | none =>
        rw [found] at h
        exact Line.text.inj h
      | some token =>
        rw [found] at h
        obtain rfl : token = .text content := h
        rcases ofToken?_eq_some _ _ _ _ found with ⟨_, _, other, _⟩ | ⟨_, _, other, _⟩
        · simp at other
        · simp at other

theorem emitted_pushedIn (style : DelimiterStyle) (columns w : Nat) (line : Text) :
    emitted (instructions style columns (pushedIn w line)) =
      emitted (instructions style (columns + w) line) := by
  unfold pushedIn
  cases line with
  | nil =>
    have empty : TokenizedLine.ofText style [] = ⟨[], []⟩ := by
      rw [TokenizedLine.ofText_eq]
      rfl
    have kind : classify [] = .text [] := rfl
    simp [instructions, kind, empty, TokenizedLine.matched]
  | cons first others =>
    have kind_at := classify_append (Text.spaces w) (first :: others) (Text.isBlank_of_mem_spaces w)
    rw [List.isEmpty_cons, if_neg Bool.false_ne_true]
    unfold instructions
    rw [kind_at, Text.spaces_add]
    cases kind : classify (first :: others) with
    | statement code => rfl
    | text content =>
      have content_ne : content ≠ [] := by
        rintro rfl
        exact absurd (classify_eq_text kind) (List.cons_ne_nil _ _)
      dsimp only [indented]
      rw [TokenizedLine.ofText_spaces]
      cases found : TokenizedLine.ofText style content with
      | mk segments trailing =>
        cases segments with
        | nil => simp [TokenizedLine.matched, emitted, Instruction.merged, Instruction.isMarker,
            content_ne]
        | cons s rest => simp [TokenizedLine.matched, emitted, Instruction.merged,
            Instruction.isMarker, mergeSegments_after]
    | list blanks run expression trailing => simp only [indented, List.append_assoc]
    | inclusion blanks run name trailing => simp only [indented, List.append_assoc]

end Line

end LineTemplate

import LineTemplate.Proofs.Evaluation.Filtering
import LineTemplate.Proofs.Evaluation.Returning

/-!
The last line of a run. Options that do away with blanks leave no other unwanted line, but the last line of a
template that ends with a newline passes them. It is meant to be the empty line that stands for the newline;
a run that ends early may leave another one in its place.
-/

set_option autoImplicit false

namespace LineTemplate

open Script EvaluationOptions

def Unblanked (lines : List Text) : Prop := ∀ line : Text, line ∈ lines → line.isBlank = true → line = []

/-- Every line shows something; only the last one of a template that ends with a newline may be empty. -/
def AllShown (endsWithNewline : Bool) (lines : List Text) : Prop :=
  ∀ (i : Nat) (line : Text), lines[i]? = some line → line.isBlank = true →
    line = [] ∧ endsWithNewline = true ∧ i + 1 = lines.length

theorem unblanked_append {front rest : List Text} :
    Unblanked (front ++ rest) ↔ Unblanked front ∧ Unblanked rest :=
  List.forall_mem_append

theorem eq_nil_of_keepLine {o : EvaluationOptions} (clears : o.preserveBlankLines = false)
    {line kept : Text} (h : o.keepLine line = some kept) (blank : kept.isBlank = true) : kept = [] := by
  rcases o.keepLine_eq line with same | ⟨seen, empty | missing⟩
  · obtain rfl : line = kept := Option.some.inj (same.symm.trans h)
    by_contra filled
    rw [keepLine_of_blank o blank filled, clears, if_neg Bool.false_ne_true, keepLine_nil] at h
    split at h
    · exact filled (Option.some.inj h).symm
    · cases h
  · exact (Option.some.inj (empty.symm.trans h)).symm
  · cases missing.symm.trans h

theorem unblanked_keepLines_iff {o : EvaluationOptions} (clears : o.preserveBlankLines = false)
    (endsWithNewline : Bool) (lines : List Text) :
    Unblanked (o.keepLines endsWithNewline lines) ↔ Unblanked (exempt endsWithNewline lines) := by
  obtain ⟨body, -, filtered⟩ := keepLines_parts endsWithNewline lines
  have cleared : Unblanked (body.filterMap o.keepLine) := by
    intro kept inside blank
    obtain ⟨line, -, from_line⟩ := List.mem_filterMap.1 inside
    exact eq_nil_of_keepLine clears from_line blank
  rw [filtered, unblanked_append]
  exact and_iff_right cleared

theorem allShown_keepLines_iff {o : EvaluationOptions} (clears : o.preserveBlankLines = false)
    (drops : o.preserveEmptyLines = false) (endsWithNewline : Bool) (lines : List Text) :
    AllShown endsWithNewline (o.keepLines endsWithNewline lines) ↔
      Unblanked (exempt endsWithNewline lines) := by
  obtain ⟨body, -, filtered⟩ := keepLines_parts endsWithNewline lines
  have visible : ∀ line : Text, line ∈ body.filterMap o.keepLine → line.isBlank = false := by
    intro line inside
    rw [← keepLines_open, keepLines_visible clears drops] at inside
    simpa using (List.mem_filter.1 inside).2
  rw [filtered]
  generalize body.filterMap o.keepLine = front at visible
  constructor
  · intro shown line inside blank
    obtain ⟨i, at_i⟩ := List.getElem?_of_mem (List.mem_append_right front inside)
    exact (shown i line at_i blank).1
  · intro unblanked i line at_i blank
    by_cases early : i < front.length
    · rw [List.getElem?_append_left early] at at_i
      have seen := visible line (List.mem_of_getElem? at_i)
      cases seen.symm.trans blank
    · rw [List.getElem?_append_right (by omega)] at at_i
      have empty := unblanked line (List.mem_of_getElem? at_i) blank
      cases endsWithNewline with
      | false => simp [exempt] at at_i
      | true =>
        have single : (exempt true lines).length ≤ 1 := by
          unfold exempt
          cases lines.getLast? <;> simp
        have inside := (List.getElem?_eq_some_iff.1 at_i).1
        refine ⟨empty, rfl, ?_⟩
        rw [List.length_append]
        omega

/-- A run that returns texts is evaluated to what the options leave of them. If these clear lines of blanks,
one is left exactly if the last text is one and the template ends with a newline; every line shows something
under the same condition, if empty lines are dropped as well. -/
theorem evaluate_allShown_iff (engine : Engine) (frames : List Frame) (t : BoundTemplate)
    (overrides : Members Datum) (s : Store) :
    ∃ s₁, t.prepare frames overrides s = .ok () s₁ ∧ ∀ v s₂ slots (lines : List Text),
      t.run engine frames s₁ = .ok v s₂ → Run.kind? v s₂ = .ok (some (.array slots)) s₂ →
      slots.toList = lines.map (fun line => some (.text line)) →
      ∀ o : EvaluationOptions, o.returnAsLines = true → o.preserveBlankLines = false →
        ∃ kept s₃, t.evaluate engine frames o overrides s = .ok (.produced (.lines kept)) s₃ ∧
          (Unblanked kept ↔ Unblanked (exempt t.program.endsWithNewline lines)) ∧
          (o.preserveEmptyLines = false → (AllShown t.program.endsWithNewline kept ↔
            Unblanked (exempt t.program.endsWithNewline lines))) := by
  obtain ⟨⟨⟩, s₁, prepared⟩ := t.total_prepare frames overrides s
  refine ⟨s₁, prepared, fun v s₂ slots lines ran array texts o asLines clears => ?_⟩
  have content : slots.values = lines.map .text := by
    rw [Slots.values, texts, List.map_map]
    rfl
  rw [evaluate_of_attempt prepared (attempt_ok ran)]
  cases v with
  | ref a =>
    obtain ⟨s₃, produced⟩ :=
      produced_texts engine frames t o (Run.kindAt_of_kind? array) content
    rw [Output.ofLines, if_pos asLines] at produced
    exact ⟨_, s₃, produced, unblanked_keepLines_iff clears _ lines,
      fun drops => allShown_keepLines_iff clears drops _ lines⟩
  | _ => cases array

def StepAnswer.output? : StepAnswer → Option Output
  | .produced output => some output
  | _ => none

/-- A run that returns a line of blanks in place of the last one, for a template that ends with a newline. -/
theorem evaluate_last_blanks :
    let (answers, _) := Session.empty.performAll
      [.load ⟨"page", "line\n", .undefined, none, [],
          .playback ⟨[.push (.text "  ")], ⟨none, none, none⟩⟩⟩,
        .evaluate "page" (.record [("preserveBlankLines", .bool false),
          ("returnAsLines", .bool true)]) [],
        .evaluate "page" (.record [("preserveBlankLines", .bool false),
          ("preserveEmptyLines", .bool false), ("returnAsLines", .bool true)]) []]
    answers.map StepAnswer.output? = [none, some (.lines ["  "]), some (.lines ["  "])] ∧
      ¬Unblanked ["  "] ∧ ¬AllShown true ["  "] := by
  refine ⟨by decide +kernel, fun unblanked => ?_, fun shown => ?_⟩
  · exact absurd (unblanked "  " (by decide) (by decide)) (by decide)
  · exact absurd (shown 0 "  " (by decide) (by decide)).1 (by decide)

end LineTemplate

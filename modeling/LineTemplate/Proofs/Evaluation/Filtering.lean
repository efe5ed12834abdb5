import LineTemplate.Evaluation.Output

/-!
The options of evaluation as filters on lines. Each line goes through a filter by itself, so two filters in
a row can be compared line by line: they act as the one that keeps what both keep, unless the first drops
empty lines and the second makes new ones out of blanks. The last line of a template that ends with a newline
passes every filter.
-/

set_option autoImplicit false

namespace LineTemplate

/-- Lines that are left of others: they stay in order, each is the same as before or empty in place of
blanks, and only lines of blanks are missing. -/
inductive Thins : List Text → List Text → Prop
  | nil : Thins [] []
  | keep {kept lines : List Text} (line : Text) (rest : Thins kept lines) :
      Thins (line :: kept) (line :: lines)
  | clear {kept lines : List Text} {line : Text} (blank : line.isBlank = true) (rest : Thins kept lines) :
      Thins ([] :: kept) (line :: lines)
  | drop {kept lines : List Text} {line : Text} (blank : line.isBlank = true) (rest : Thins kept lines) :
      Thins kept (line :: lines)

theorem Text.isEmpty_of_visible {line : Text} (visible : line.isBlank = false) : line.isEmpty = false := by
  cases line with
  | nil => cases visible
  | cons c rest => rfl

namespace EvaluationOptions

theorem keepLine_nil (o : EvaluationOptions) :
    o.keepLine [] = if o.preserveEmptyLines then some [] else none := by
  unfold keepLine
  cases o.preserveEmptyLines <;> simp

theorem keepLine_of_visible (o : EvaluationOptions) {line : Text} (visible : line.isBlank = false) :
    o.keepLine line = some line := by
  simp [keepLine, visible, Text.isEmpty_of_visible visible]

theorem keepLine_of_blank (o : EvaluationOptions) {line : Text} (blank : line.isBlank = true)
    (nonempty : line ≠ []) :
    o.keepLine line = if o.preserveBlankLines then some line else o.keepLine [] := by
  cases keeps : o.preserveBlankLines with
  | true => simp [keepLine, keeps, nonempty]
  | false => simp [keepLine, keeps, blank]

theorem keepLine_eq (o : EvaluationOptions) (line : Text) :
    o.keepLine line = some line ∨
      line.isBlank = true ∧ (o.keepLine line = some [] ∨ o.keepLine line = none) := by
  cases seen : line.isBlank with
  | false => exact .inl (o.keepLine_of_visible seen)
  | true =>
    have empty : o.keepLine [] = some [] ∨ o.keepLine [] = none := by
      rw [keepLine_nil]
      split
      · exact .inl rfl
      · exact .inr rfl
    by_cases bare : line = []
    · exact .inr ⟨rfl, bare ▸ empty⟩
    · rw [o.keepLine_of_blank seen bare]
      split
      · exact .inl rfl
      · exact .inr ⟨rfl, empty⟩

/-- The filter that keeps what two filters keep. -/
def meet (o o' : EvaluationOptions) : EvaluationOptions :=
  ⟨o'.returnAsLines, o.preserveBlankLines && o'.preserveBlankLines,
    o.preserveEmptyLines && o'.preserveEmptyLines⟩

/-- The first filter drops empty lines, and the second makes new ones of the blanks that the first keeps. -/
def Refills (o o' : EvaluationOptions) : Prop :=
  o.preserveBlankLines = true ∧ o.preserveEmptyLines = false ∧
    o'.preserveBlankLines = false ∧ o'.preserveEmptyLines = true

theorem keepLine_keepLine {o o' : EvaluationOptions} (h : ¬Refills o o') (line : Text) :
    (o.keepLine line).bind o'.keepLine = (o.meet o').keepLine line := by
  have empty : (o.keepLine []).bind o'.keepLine = (o.meet o').keepLine [] := by
    rw [keepLine_nil, keepLine_nil]
    cases keeps : o.preserveEmptyLines with
    | false => simp [meet, keeps]
    | true => simp [meet, keeps, keepLine_nil]
  cases seen : line.isBlank with
  | false =>
    rw [keepLine_of_visible o seen, keepLine_of_visible _ seen]
    exact o'.keepLine_of_visible seen
  | true =>
    by_cases bare : line = []
    · rw [bare, empty]
    · rw [keepLine_of_blank o seen bare, keepLine_of_blank _ seen bare, ← empty]
      cases keeps : o.preserveBlankLines with
      | false => simp [meet, keeps]
      | true =>
        have later := o'.keepLine_of_blank seen bare
        cases keeps' : o'.preserveBlankLines with
        | true => simp [meet, keeps, keeps', later]
        | false =>
          -- The blanks become an empty line, which the first filter must not have dropped elsewhere.
          have dropped : (o.keepLine []).bind o'.keepLine = o'.keepLine [] := by
            rw [keepLine_nil, keepLine_nil]
            cases drops : o.preserveEmptyLines with
            | true => exact o'.keepLine_nil
            | false =>
              cases drops' : o'.preserveEmptyLines with
              | false => rfl
              | true => exact absurd ⟨keeps, drops, keeps', drops'⟩ h
          simp [meet, keeps', later, dropped]

end EvaluationOptions

open EvaluationOptions

theorem keepLines_open (o : EvaluationOptions) (lines : List Text) :
    o.keepLines false lines = lines.filterMap o.keepLine := rfl

theorem keepLines_concat (o : EvaluationOptions) (body : List Text) (last : Text) :
    o.keepLines true (body ++ [last]) = body.filterMap o.keepLine ++ [last] := by
  simp [keepLines]

/-- The lines that no filter changes: the last one, of a template that ends with a newline. -/
def exempt (endsWithNewline : Bool) (lines : List Text) : List Text :=
  if endsWithNewline then lines.getLast?.toList else []

theorem keepLines_parts (endsWithNewline : Bool) (lines : List Text) :
    ∃ body, lines = body ++ exempt endsWithNewline lines ∧ ∀ o : EvaluationOptions,
      o.keepLines endsWithNewline lines = body.filterMap o.keepLine ++ exempt endsWithNewline lines := by
  cases endsWithNewline with
  | false => exact ⟨lines, (List.append_nil lines).symm, fun o => (List.append_nil _).symm⟩
  | true =>
    rcases List.eq_nil_or_concat lines with rfl | ⟨body, last, rfl⟩
    · exact ⟨[], rfl, fun _ => rfl⟩
    · have last_line : exempt true (body ++ [last]) = [last] := by simp [exempt]
      rw [List.concat_eq_append, last_line]
      exact ⟨body, rfl, fun o => keepLines_concat o body last⟩

theorem keepLines_all {o : EvaluationOptions} (blank : o.preserveBlankLines = true)
    (empty : o.preserveEmptyLines = true) (endsWithNewline : Bool) (lines : List Text) :
    o.keepLines endsWithNewline lines = lines := by
  obtain ⟨body, parts, filtered⟩ := keepLines_parts endsWithNewline lines
  rw [filtered, keepLine_all blank empty, List.filterMap_some, ← parts]

theorem keepLines_visible {o : EvaluationOptions} (blank : o.preserveBlankLines = false)
    (empty : o.preserveEmptyLines = false) (lines : List Text) :
    o.keepLines false lines = lines.filter fun line => !line.isBlank := by
  have kept : o.keepLine = Option.guard fun line => !line.isBlank := by
    funext line
    cases seen : line.isBlank with
    | true => simp [keepLine, blank, empty, Option.guard, seen]
    | false => simp [o.keepLine_of_visible seen, Option.guard, seen]
  rw [keepLines_open, kept, List.filterMap_eq_filter]

theorem keepLines_keepLines {o o' : EvaluationOptions} (h : ¬Refills o o') (endsWithNewline : Bool)
    (lines : List Text) : o'.keepLines endsWithNewline (o.keepLines endsWithNewline lines) =
      (o.meet o').keepLines endsWithNewline lines := by
  have each : (fun line => (o.keepLine line).bind o'.keepLine) = (o.meet o').keepLine :=
    funext (keepLine_keepLine h)
  cases endsWithNewline with
  | false => rw [keepLines_open, keepLines_open, keepLines_open, List.filterMap_filterMap, each]
  | true =>
    rcases List.eq_nil_or_concat lines with rfl | ⟨body, last, rfl⟩
    · rfl
    · rw [List.concat_eq_append, keepLines_concat, keepLines_concat, keepLines_concat,
        List.filterMap_filterMap, each]

/-- The blanks that the first filter keeps are an empty line after the second; nothing is left by their meet. -/
example : keepLines ⟨true, false, true⟩ false (keepLines ⟨true, true, false⟩ false [" "]) = [[]] ∧
    keepLines (meet ⟨true, true, false⟩ ⟨true, false, true⟩) false [" "] = [] := by
  decide

theorem filterMap_thins (o : EvaluationOptions) (lines : List Text) :
    Thins (lines.filterMap o.keepLine) lines := by
  induction lines with
  | nil => exact .nil
  | cons line rest ih =>
    rcases o.keepLine_eq line with same | ⟨blank, empty | missing⟩
    · rw [List.filterMap_cons_some same]
      exact .keep line ih
    · rw [List.filterMap_cons_some empty]
      exact .clear blank ih
    · rw [List.filterMap_cons_none missing]
      exact .drop blank ih

/-- Filters are idempotent. Dropping the empty lines after blanks were emptied drops both, and the filter
that drops both absorbs every other one on either side; the one that keeps both changes nothing. Every filter
leaves the lines in order, those that show something as they are, and changes a line at most by emptying it of
blanks; the last line of a template that ends with a newline stays the last, as it was. -/
theorem keepLines_laws (endsWithNewline : Bool) (lines : List Text) :
    (∀ o : EvaluationOptions, o.keepLines endsWithNewline (o.keepLines endsWithNewline lines) =
      o.keepLines endsWithNewline lines) ∧
    (∀ first second both, keepLines ⟨second, true, false⟩ endsWithNewline
        (keepLines ⟨first, false, true⟩ endsWithNewline lines) =
      keepLines ⟨both, false, false⟩ endsWithNewline lines) ∧
    (∀ (o : EvaluationOptions) asLines,
      keepLines ⟨asLines, false, false⟩ endsWithNewline (o.keepLines endsWithNewline lines) =
        keepLines ⟨asLines, false, false⟩ endsWithNewline lines ∧
      o.keepLines endsWithNewline (keepLines ⟨asLines, false, false⟩ endsWithNewline lines) =
        keepLines ⟨asLines, false, false⟩ endsWithNewline lines) ∧
    (∀ asLines, keepLines ⟨asLines, true, true⟩ endsWithNewline lines = lines) ∧
    ∃ body, lines = body ++ exempt endsWithNewline lines ∧ ∀ o : EvaluationOptions, ∃ kept,
      o.keepLines endsWithNewline lines = kept ++ exempt endsWithNewline lines ∧ Thins kept body ∧
      (o.preserveBlankLines = false → o.preserveEmptyLines = false →
        kept = body.filter fun line => !line.isBlank) := by
  refine ⟨fun o => ?_, fun first second both => ?_, fun o asLines => ⟨?_, ?_⟩, fun asLines => ?_, ?_⟩
  · have settled : ¬Refills o o := fun ⟨keeps, _, clears, _⟩ => by simp [keeps] at clears
    rw [keepLines_keepLines settled]
    simp [meet]
  · have settled : ¬Refills ⟨first, false, true⟩ ⟨second, true, false⟩ := fun ⟨keeps, _⟩ => by cases keeps
    rw [keepLines_keepLines settled]
    rfl
  · have settled : ¬Refills o ⟨asLines, false, false⟩ := fun ⟨_, _, _, keeps⟩ => by cases keeps
    rw [keepLines_keepLines settled]
    simp [meet]
  · have settled : ¬Refills ⟨asLines, false, false⟩ o := fun ⟨keeps, _⟩ => by cases keeps
    rw [keepLines_keepLines settled]
    rfl
  · exact keepLines_all rfl rfl endsWithNewline lines
  · obtain ⟨body, parts, filtered⟩ := keepLines_parts endsWithNewline lines
    exact ⟨body, parts, fun o => ⟨_, filtered o, filterMap_thins o body,
      fun blank empty => keepLines_visible blank empty body⟩⟩

end LineTemplate

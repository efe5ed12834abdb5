import LineTemplate.Proofs.Evaluation.Data
import LineTemplate.Proofs.Evaluation.Filtering

/-!
The lines of a program without statements.
-/

set_option autoImplicit false

namespace LineTemplate

open Script

/-- A template without statements can be loaded if its expressions are plain names. In a scope that gives
every field a value with a text and every list an array of such values, an evaluation yields the lines that
are read off the instructions from left to right. Lines and their number stay below the limits of texts and
of arrays. -/
theorem evaluate_lines {columns : Nat} {style : DelimiterStyle} {included : Members Text}
    {template : Text} {p : Program} (expanded : expand columns style included template = .ok p)
    (plain : ∀ i ∈ p.instructions, i.Plain) (depth scope : Nat) (s : Store) :
    ∃ bound s₁ s₂, Run.load (.nested (depth + 3)) p scope .script s = .ok (.loaded bound) s₁ ∧
      Run.prepareScope scope s₁ = .ok () s₂ ∧
      ∀ {σ : Type} (d : Contents σ) {holds : σ → Own → Store → Prop} (w : σ),
        HasContents d (.nested (depth + 1)) scope holds → (∀ i ∈ p.instructions, d.Covers i) →
        holds w ⟨[], [s.scopes.size]⟩ s₂ →
        (∀ line ∈ (d.lines w p.instructions).1, line.length ≤ Text.maxLength) →
        (d.lines w p.instructions).1.length ≤ Items.arrayLimit →
        ∀ active, ∃ o s₃, EvaluationOptions.parse (.record [("returnAsLines", .bool true)]) = .ok o ∧
          bound.evaluate (.nested (depth + 3)) active o [] s₁ =
            .ok (.produced (.lines (d.lines w p.instructions).1)) s₃ := by
  obtain ⟨bound, s₁, s₂, loaded, prepared, run⟩ :=
    load_evaluate depth scope s plain (expand_legible expanded plain)
  refine ⟨bound, s₁, s₂, loaded, prepared, fun d _ w has covers h fits room active => ?_⟩
  have parsed : EvaluationOptions.parse (.record [("returnAsLines", .bool true)]) =
      .ok ⟨true, true, true⟩ := by with_unfolding_all rfl
  have evaluated := run (w, []) (realizes_of_hasContents has) ⟨h, trivial⟩ active ⟨true, true, true⟩
  have space : ([] : List Text).length + (d.lines w p.instructions).1.length ≤ Items.arrayLimit := by
    rw [List.length_nil, Nat.zero_add]
    exact room
  obtain ⟨em, interpreted, lines⟩ := Contents.interpret_eq plain covers fits space
  rw [interpreted] at evaluated
  obtain ⟨s₃, evaluated⟩ := evaluated
  rw [keepLines_all rfl rfl, lines, List.nil_append] at evaluated
  exact ⟨_, s₃, parsed, evaluated⟩

/-- Quotes and marks of comments in the text, and an included template with a list whose last item is
empty. -/
theorem evaluate_lines_included :
    let included : Members Text := [("inner", "- $(x)\n$\x7bxs\x7d")]
    let template : Text := "say \"$(x)\" // $(n)\n  $<inner>\n\n"
    let array : Obj := .ofKind (.array (.ofList [.text "b", .text []]))
    let scope : Obj := { Obj.ofKind .plain with
      members := [("x", .text "a"), ("n", .bigint 7), ("xs", .ref 12)] }
    let s := (Store.empty.addObject array).addObject scope
    ∃ p bound s₁ o s₂, expand 1 .standard included template = .ok p ∧
      Run.load (.nested 3) p 13 .script s = .ok (.loaded bound) s₁ ∧
      EvaluationOptions.parse (.record [("returnAsLines", .bool true)]) = .ok o ∧
      bound.evaluate (.nested 3) [] o [] s₁ =
        .ok (.produced (.lines [" say \"a\" // 7", "   - a", "   b", "", "", ""])) s₂ := by
  intro included template array scope s
  obtain ⟨p, expanded, instructions⟩ : ∃ p, expand 1 .standard included template = .ok p ∧
      p.instructions = [.fields " " [⟨"say \"", some "x"⟩, ⟨"\" // ", some "n"⟩] [],
        .marker .opening "inner", .fields "   " [⟨"- ", some "x"⟩] [], .list "xs" "   ",
        .marker .closing "inner", .literal [], .literal []] :=
    ⟨_, by with_unfolding_all rfl, by with_unfolding_all rfl⟩
  have plain : ∀ i ∈ p.instructions, i.Plain := by
    rw [instructions]
    decide
  have covers : ∀ i ∈ p.instructions, ((s.contents 13).without providedNames).Covers i := by
    rw [instructions]
    exact fun i inside => Contents.covers_of_covered _ ((by decide : ∀ i ∈ _, _ = true) i inside)
  have lines : (((s.contents 13).without providedNames).lines () p.instructions).1 =
      [" say \"a\" // 7", "   - a", "   b", "", "", ""] := by
    rw [instructions]
    decide
  obtain ⟨bound, s₁, s₂, loaded, prepared, run⟩ := evaluate_lines expanded plain 0 13 s
  obtain ⟨has, grown, more⟩ := contents_of_load 0 (expand_legible expanded plain) loaded prepared rfl rfl
  rw [← more.lines covers] at lines
  obtain ⟨o, s₃, parsed, evaluated⟩ := run (s₂.contents 13) () has (fun i inside => more.covers (covers i inside))
    (grown _) (by rw [lines]; decide) (by rw [lines]; decide) []
  rw [lines] at evaluated
  exact ⟨p, bound, s₁, o, s₃, expanded, loaded, parsed, evaluated⟩

end LineTemplate

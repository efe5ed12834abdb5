import LineTemplate.Proofs.Evaluation.Data
import LineTemplate.Proofs.Evaluation.Filtering
import LineTemplate.Proofs.Template.Indentation

/-!
Templates without tokens. Each line of such a template is emitted as it is, and an empty line stands for
the newline at its end, so the output is the template itself.
-/

set_option autoImplicit false

namespace LineTemplate

open Script

/-- A text with spaces in front of each line that is not empty. -/
def Text.indentLines (columns : Nat) (t : Text) : Text :=
  join [newline] ((splitOn newline t).map (Line.pushedIn columns))

namespace Line

/-- Whether a line is text without any token, escaped or not. -/
def isVerbatim (style : DelimiterStyle) (line : Text) : Bool :=
  match classify line with
  | .text content => !(TokenizedLine.ofText style content).matched
  | _ => false

variable {style : DelimiterStyle} {line : Text}

theorem pushedIn_zero (line : Text) : pushedIn 0 line = line := by
  unfold pushedIn
  split
  · exact (List.isEmpty_iff.1 ‹_›).symm
  · rfl

theorem classify_of_isVerbatim (verbatim : isVerbatim style line = true) :
    classify line = .text line ∧ (TokenizedLine.ofText style line).matched = false := by
  unfold isVerbatim at verbatim
  split at verbatim
  · rename_i content kind
    obtain rfl := classify_eq_text kind
    rw [Bool.not_eq_true'] at verbatim
    exact ⟨kind, verbatim⟩
  · cases verbatim

theorem inclusion?_of_isVerbatim (verbatim : isVerbatim style line = true) : inclusion? line = none := by
  unfold inclusion?
  rw [(classify_of_isVerbatim verbatim).1]

theorem instructions_of_isVerbatim (columns : Nat) (verbatim : isVerbatim style line = true) :
    instructions style columns line = [.literal (pushedIn columns line)] := by
  obtain ⟨kind, unmatched⟩ := classify_of_isVerbatim verbatim
  unfold instructions
  rw [kind]
  dsimp only
  rw [unmatched, if_neg Bool.false_ne_true]
  rfl

end Line

theorem Text.indentLines_zero (t : Text) : indentLines 0 t = t := by
  have same : Line.pushedIn 0 = id := funext Line.pushedIn_zero
  unfold indentLines
  rw [same, List.map_id]
  exact join_splitOn newline t

theorem expand_of_isVerbatim {style : DelimiterStyle} {template : Text}
    (verbatim : ∀ line ∈ splitLines template, Line.isVerbatim style line = true) (columns : Nat)
    (included : Members Text) :
    ∃ p, expand columns style included template = .ok p ∧ p.instructions =
      ((Text.splitOn newline template).map (Line.pushedIn columns)).map Instruction.literal := by
  have all : List.Forall₂ (Line.Gives style columns) (splitLines template)
      (((splitLines template).map (Line.pushedIn columns)).map Instruction.literal) := by
    rw [List.map_map, List.forall₂_map_right_iff, List.forall₂_same]
    exact fun line inside => ⟨Line.inclusion?_of_isVerbatim (verbatim line inside),
      Line.instructions_of_isVerbatim columns (verbatim line inside)⟩
  obtain ⟨p, expanded, instructions, -⟩ := expand_own all
  have last : ((if template.getLast? = some newline then [[]] else []).map (Line.pushedIn columns)).map
      Instruction.literal = if template.getLast? = some newline then [.literal []] else [] := by
    split <;> rfl
  refine ⟨p, expanded, ?_⟩
  rw [instructions, splitOn_newline, List.map_append, List.map_append, last]
  rfl

theorem Contents.interpret_literals {σ : Type} (d : Contents σ) (w : σ × List Value) {lines out : List Text}
    {n : Nat} (room : out.length + lines.length ≤ Items.arrayLimit) :
    d.behaviour.interpret (lines.map Instruction.literal) ⟨w, out, n⟩ =
      .ok () ⟨w, out ++ lines, n + lines.length⟩ := by
  induction lines generalizing out n with
  | nil =>
    rw [List.append_nil]
    rfl
  | cons line rest ih =>
    rw [List.length_cons] at room
    have own : d.behaviour.emit (.literal line) ⟨w, out, n⟩ = .ok () ⟨w, out ++ [line], n⟩ :=
      Direct.emitLine_eq (by omega)
    have next : d.behaviour.interpret ((line :: rest).map Instruction.literal) ⟨w, out, n⟩ =
        d.behaviour.interpret (rest.map Instruction.literal) ⟨w, out ++ [line], n + 1⟩ := bind_ok own
    have space : (out ++ [line]).length + rest.length ≤ Items.arrayLimit := by
      rw [List.length_append, List.length_singleton]
      omega
    rw [next, ih space, List.append_assoc, List.length_cons]
    congr 2
    omega

theorem Text.length_le_length_join (sep : CodeUnit) (pieces : List Text) :
    pieces.length ≤ (join [sep] pieces).length + 1 := by
  induction pieces with
  | nil => exact Nat.zero_le _
  | cons first rest ih =>
    cases rest with
    | nil => exact Nat.le_add_left _ _
    | cons next rest =>
      rw [join_cons_cons, List.length_append, List.length_append, List.length_singleton, List.length_cons]
      omega

/-- A template without tokens evaluates to itself under the indentation, in every scope: there are spaces in
front of each line that is not empty, and nothing else is changed. The indentation, the code of the program
and the output are no longer than a text can be. -/
theorem evaluate_verbatim {given : Datum} {o : ExpansionOptions}
    (parsed : ExpansionOptions.parse given = .ok o) {template : Text}
    (verbatim : ∀ line ∈ splitLines template, Line.isVerbatim o.style line = true)
    (columns : o.columns ≤ Text.maxLength)
    (output : (template.indentLines o.columns).length ≤ Text.maxLength)
    (included : Members Text) (depth : Nat) {scope : Nat} {s : Store} {entries : Obj}
    (found : s.objects[scope]? = some entries)
    (push : s.kindAt Method.push.address = some (.function (.native (.method .push)))) :
    ∃ p, Program.ofTemplate given included template = .ok p ∧ (p.code.length ≤ Text.maxLength →
      ∃ bound s₁ options, Run.load (.nested (depth + 3)) p scope .script s = .ok (.loaded bound) s₁ ∧
        EvaluationOptions.parse .undefined = .ok options ∧
        ∀ active, ∃ s₂, bound.evaluate (.nested (depth + 3)) active options [] s₁ =
          .ok (.produced (.text (template.indentLines o.columns))) s₂) ∧
      (o.columns = 0 → template.indentLines o.columns = template) := by
  obtain ⟨p, expanded, instructions⟩ := expand_of_isVerbatim verbatim o.columns included
  have exported : Program.ofTemplate given included template = .ok p := by
    rw [Program.ofTemplate_eq parsed columns, expanded]
    rfl
  have plain : ∀ i ∈ p.instructions, i.Plain := by
    rw [instructions]
    intro i inside
    obtain ⟨line, -, rfl⟩ := List.mem_map.1 inside
    trivial
  have legible := expand_legible expanded plain
  obtain ⟨bound, s₁, s₂, loaded, prepared, run⟩ := load_evaluate depth scope s plain legible
  obtain ⟨has, grown, -⟩ := contents_of_load depth legible loaded prepared found push
  have defaults : EvaluationOptions.parse .undefined = .ok ⟨false, true, true⟩ := by with_unfolding_all rfl
  refine ⟨p, exported, fun _ => ⟨bound, s₁, _, loaded, defaults, fun active => ?_⟩, ?_⟩
  · have evaluated := run ((), []) (realizes_of_hasContents has) ⟨grown _, trivial⟩ active ⟨false, true, true⟩
    have few := Text.length_le_length_join newline
      ((Text.splitOn newline template).map (Line.pushedIn o.columns))
    have room : ([] : List Text).length +
        ((Text.splitOn newline template).map (Line.pushedIn o.columns)).length ≤ Items.arrayLimit := by
      unfold Text.indentLines Text.maxLength at output
      unfold Items.arrayLimit
      rw [List.length_nil]
      omega
    rw [instructions, Contents.interpret_literals _ _ room] at evaluated
    obtain ⟨s₃, evaluated⟩ := evaluated
    rw [keepLines_all rfl rfl] at evaluated
    exact ⟨s₃, evaluated⟩
  · intro none
    rw [none]
    exact template.indentLines_zero

/-- Quotes, backslashes, line separators and a dollar sign in the text, and more than one newline at its
end. -/
theorem evaluate_verbatim_separators :
    let template : Text := "say \"$\" \\\\ 'b'\r\n\n \t\n\u2028x\n\n"
    let output : Text := "  say \"$\" \\\\ 'b'\r\n\n   \t\n  \u2028x\n\n"
    let o : ExpansionOptions := ⟨2, false⟩
    let s := Store.empty.addObject (.ofKind .plain)
    ExpansionOptions.parse o.toDatum = .ok o ∧
      (∀ line ∈ splitLines template, Line.isVerbatim o.style line = true) ∧ o.columns = 2 ∧
      template.indentLines 2 = output ∧ output.length ≤ Text.maxLength ∧
      ∃ p bound s₁ options s₂, Program.ofTemplate o.toDatum [] template = .ok p ∧
        p.code.length ≤ Text.maxLength ∧ Run.load (.nested 3) p 12 .script s = .ok (.loaded bound) s₁ ∧
        EvaluationOptions.parse .undefined = .ok options ∧
        bound.evaluate (.nested 3) [] options [] s₁ = .ok (.produced (.text output)) s₂ := by
  have parsed : ExpansionOptions.parse (ExpansionOptions.toDatum ⟨2, false⟩) = .ok ⟨2, false⟩ := by
    with_unfolding_all rfl
  intro template output o s
  have verbatim : ∀ line ∈ splitLines template, Line.isVerbatim o.style line = true :=
    List.all_eq_true.1 (by with_unfolding_all rfl)
  have two : o.columns = 2 := by decide +kernel
  have indented : template.indentLines 2 = output := by decide
  have short : output.length ≤ Text.maxLength := by decide +kernel
  obtain ⟨p, exported, run, -⟩ := evaluate_verbatim parsed verbatim (by rw [two]; decide +kernel)
    (by rw [two, indented]; exact short) [] 0 (show s.objects[12]? = some (.ofKind .plain) from rfl) rfl
  have code : p.code.length ≤ Text.maxLength := by
    have all : (Program.ofTemplate o.toDatum [] template).toOption.all
      fun p => decide (p.code.length ≤ Text.maxLength) := by decide +kernel
    rw [exported] at all
    exact of_decide_eq_true all
  obtain ⟨bound, s₁, options, loaded, defaults, evaluated⟩ := run code
  obtain ⟨s₂, evaluated⟩ := evaluated []
  rw [two, indented] at evaluated
  exact ⟨parsed, verbatim, two, indented, short, p, bound, s₁, options, s₂, exported, code, loaded, defaults,
    evaluated⟩

/-- With more columns than a text can hold even the empty template, which has no line to put them before, is
refused. -/
theorem not_verbatim_wide :
    let o : ExpansionOptions := ⟨1000000000, false⟩
    ExpansionOptions.parse o.toDatum = .ok o ∧ o.columns = 1000000000 ∧
      (∀ line ∈ splitLines [], Line.isVerbatim o.style line = true) ∧ Text.indentLines o.columns [] = [] ∧
      Program.ofTemplate o.toDatum [] [] = .error (.plain "RangeError" "Invalid string length") := by
  refine ⟨?_, ?_, ?_, rfl, ?_⟩
  · with_unfolding_all rfl
  · decide +kernel
  · decide +kernel
  · with_unfolding_all rfl

end LineTemplate

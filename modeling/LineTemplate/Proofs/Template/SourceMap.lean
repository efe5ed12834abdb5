import LineTemplate.Proofs.Template.Assembly
import LineTemplate.Proofs.Template.CodeLines
import LineTemplate.Template.Trail

/-!
The source map. Each instruction of a program can be traced to a line: the chain of locations follows
the inclusions down from the template that nobody includes, and the last line of the chain yields the
instruction at the indentation that the inclusions add up to. The same instruction stands on the line of
the generated code with its number.
-/

set_option autoImplicit false

namespace LineTemplate

/-- Where an instruction of a template comes from: a line of the template yields it by itself, or it
comes from the template that a line includes, indented by the blanks in front of the token as well. -/
inductive Originates (style : DelimiterStyle) (included : Members Text) :
    Text → Text → Nat → List SourceLocation → Instruction → Prop
  | here {name template line : Text} {columns n : Nat} {instruction : Instruction}
      (position : (splitLines template)[n]? = some line)
      (yielded : instruction ∈ Line.instructions style columns line) :
      Originates style included name template columns [⟨name, (n + 1 : Nat)⟩] instruction
  | inside {name template line blanks run inner source : Text} {columns n : Nat}
      {chain : List SourceLocation} {instruction : Instruction}
      (position : (splitLines template)[n]? = some line)
      (kind : Line.inclusion? line = some (blanks, run, inner))
      (found : included.get? inner = some source)
      (rest : Originates style included inner source (columns + blanks.length) chain instruction) :
      Originates style included name template columns (⟨name, (n + 1 : Nat)⟩ :: chain) instruction

theorem Originates.chain_ne_nil {style : DelimiterStyle} {included : Members Text}
    {name template : Text} {columns : Nat} {chain : List SourceLocation} {instruction : Instruction}
    (h : Originates style included name template columns chain instruction) : chain ≠ [] := by
  cases h <;> simp

theorem Originates.notMem_texts {style : DelimiterStyle} {included : Members Text}
    {name template : Text} {columns : Nat} {chain : List SourceLocation} {instruction : Instruction}
    {c : CodeUnit} (h : Originates style included name template columns chain instruction)
    (foreign : ¬c.Plain) (free : ∀ line ∈ splitLines template, c ∉ line)
    (free_included : ∀ inner source, included.get? inner = some source →
      ∀ line ∈ splitLines source, c ∉ line) : ∀ t ∈ instruction.texts, c ∉ t := by
  induction h with
  | here position yielded =>
    exact Line.notMem_texts foreign style _ _ (free _ (List.mem_of_getElem? position)) _ yielded
  | inside position kind found rest ih => exact ih (free_included _ _ found)

theorem Originates.lineEnd_of_marker {style : DelimiterStyle} {included : Members Text}
    {name template : Text} {columns : Nat} {chain : List SourceLocation} {instruction : Instruction}
    (h : Originates style included name template columns chain instruction) {boundary : Boundary}
    {inner : Text} (marker : instruction = .marker boundary inner) : ∀ c ∈ inner, c.isLineEnd = false := by
  induction h with
  | here position yielded =>
    rw [marker] at yielded
    exact Line.lineEnd_of_marker yielded
  | inside position kind found rest ih => exact ih marker

theorem elementAt?_natCast {α : Type} (xs : List α) (n : Nat) : elementAt? xs (n : Int) = xs[n]? := by
  unfold elementAt?
  rw [if_neg (by omega), Int.toNat_natCast]

theorem traceInstruction_of_none (program : Program) (index codeLine : Int) (indent : Text)
    (h : elementAt? program.sourceMap index = none) :
    (traceInstruction program index codeLine indent).location = [] := by
  rw [traceInstruction]
  simp only [h]

theorem traceInstruction_of_line (program : Program) (index codeLine number : Int) (indent : Text)
    (h : elementAt? program.sourceMap index = some (.line number)) :
    (traceInstruction program index codeLine indent).location = [⟨program.name, number⟩] := by
  rw [traceInstruction]
  simp only [h]

theorem traceInstruction_of_included (program : Program) (index codeLine inclusion : Int)
    (indent name : Text) (record : Inclusion Program)
    (h : elementAt? program.sourceMap index = some (.included name inclusion))
    (found : elementAt? program.inclusions inclusion = some record)
    (resolved : (traceInstruction record.program (index - record.firstIndex) codeLine
      (indent ++ ("  " : Text))).location ≠ []) :
    (traceInstruction program index codeLine indent).location =
      ⟨program.name, record.atLine⟩ :: (traceInstruction record.program
        (index - record.firstIndex) codeLine (indent ++ ("  " : Text))).location := by
  rw [traceInstruction]
  simp only [h]
  split
  · rename_i missing
    simp [found] at missing
  · rename_i other same
    obtain rfl : record = other := by simpa [found] using same
    have some : ¬(traceInstruction record.program (index - record.firstIndex) codeLine
        (indent ++ ("  " : Text))).location.isEmpty = true := by
      rwa [List.isEmpty_iff]
    rw [if_neg some]

theorem traceInstruction_of_block {program nested : Program} {name : Text} {i k first r : Nat}
    {number : Int} (codeLine : Int) (indent : Text)
    (origin : program.sourceMap[i]? = some (.included name k))
    (record : program.inclusions[k]? = some ⟨name, nested, number, first⟩) (index : i = first + r)
    (resolved : (traceInstruction nested r codeLine (indent ++ ("  " : Text))).location ≠ []) :
    (traceInstruction program i codeLine indent).location = ⟨program.name, number⟩ ::
      (traceInstruction nested r codeLine (indent ++ ("  " : Text))).location := by
  have nested_index : (i : Int) - (first : Nat) = (r : Nat) := by omega
  have trace := traceInstruction_of_included program i codeLine _ indent _ _
    ((elementAt?_natCast _ _).trans origin) ((elementAt?_natCast _ _).trans record)
    (by rw [nested_index]; exact resolved)
  rwa [nested_index] at trace

/-- The last instruction of a program whose template ends with a newline. -/
def Program.IsTerminator (program : Program) (index : Nat) (instruction : Instruction) : Prop :=
  program.endsWithNewline = true ∧ index + 1 = program.instructions.length ∧ instruction = .literal []

/-- What the trace of every instruction of a program says. -/
def Program.Traced (program : Program) (style : DelimiterStyle) (included : Members Text)
    (template : Text) (columns : Nat) : Prop :=
  ∀ (i : Nat) (instruction : Instruction) (codeLine : Int) (indent : Text),
    program.instructions[i]? = some instruction →
      Originates style included program.name template columns
        (traceInstruction program i codeLine indent).location instruction ∨
      program.IsTerminator i instruction ∧
        (traceInstruction program i codeLine indent).location =
          [⟨program.name, program.sourceLines.length⟩]

theorem Program.spliced_getElem? (program : Program) (i : Nat) (instruction : Instruction)
    (h : program.spliced[i]? = some instruction) :
    program.instructions[i]? = some instruction ∧ ¬program.IsTerminator i instruction := by
  unfold spliced at h
  split at h
  · rename_i ends
    have inside := (List.getElem?_eq_some_iff.1 h).1
    rw [List.length_dropLast] at inside
    rw [List.getElem?_dropLast, if_pos inside] at h
    refine ⟨h, ?_⟩
    rintro ⟨-, last, -⟩
    omega
  · rename_i ends
    exact ⟨h, fun terminator => ends terminator.1⟩

namespace Expansion

theorem expandTo_name (depth : Nat) (context : ExpansionContext) (template : Text)
    (program : Program) (h : expandTo depth context template = .ok program) :
    program.name = context.name := by
  obtain ⟨_, ys, -, -, rfl⟩ := exists_yields h
  rfl

theorem expandTo_traced (depth : Nat) (context : ExpansionContext) (template : Text)
    (program : Program) (h : expandTo depth context template = .ok program) :
    program.Traced context.style context.included template context.columns := by
  induction depth generalizing context template program with
  | zero => exact absurd h (expandTo_zero_ne_ok _ _ _)
  | succ depth ih =>
    obtain ⟨ys, all, rfl⟩ := (expandTo_succ_eq_ok_iff _ _ _ _).1 h
    intro i instruction codeLine indent at_i
    cases Program.ofYields_mapped at_i with
    | line position origin yielded =>
      obtain ⟨line, source, yields⟩ := forall₂_getElem?_right all _ _ position
      rw [traceInstruction_of_line _ _ _ _ _ ((elementAt?_natCast _ _).trans origin)]
      exact .inl (.here source (yields.ownInstructions_eq ▸ yielded))
    | @included n k first r lead blanks name nested position origin record index spliced =>
      obtain ⟨line, source, yields⟩ := forall₂_getElem?_right all _ _ position
      cases yields with
      | included kind found fresh expanded =>
        -- The includer takes over no terminator, so the trace goes on to a line that yields.
        obtain ⟨at_r, not_last⟩ := Program.spliced_getElem? _ _ _ spliced
        have below := (ih _ _ _ expanded _ _ codeLine (indent ++ ("  " : Text)) at_r).resolve_right
          fun last => not_last last.1
        rw [expandTo_name _ _ _ _ expanded] at below
        rw [traceInstruction_of_block codeLine indent origin record index below.chain_ne_nil]
        exact .inl (.inside source kind found below)
    | terminator ends last empty origin =>
      exact .inr ⟨⟨ends, last, empty⟩,
        traceInstruction_of_line _ _ _ _ _ ((elementAt?_natCast _ _).trans origin)⟩

end Expansion

section Expand

variable {columns : Nat} {style : DelimiterStyle} {included : Members Text} {template : Text}
  {program : Program}

theorem expand_name (h : expand columns style included template = .ok program) :
    program.name = topLevelName :=
  Expansion.expandTo_name _ _ _ _ h

theorem expand_traced (h : expand columns style included template = .ok program) :
    program.Traced style included template columns :=
  Expansion.expandTo_traced _ _ _ _ h

theorem expand_sourceMap_length (h : expand columns style included template = .ok program) :
    program.sourceMap.length = program.instructions.length := by
  obtain ⟨ys, -, rfl⟩ := (Expansion.expandTo_succ_eq_ok_iff _ _ _ _).1 h
  exact Program.ofYields_sourceMap_length _ _ ys

theorem expand_splitOn_code (h : expand columns style included template = .ok program) :
    Text.splitOn newline program.code = program.codeLines := by
  refine program.splitOn_code fun instruction member => ?_
  obtain ⟨i, at_i⟩ := List.getElem?_of_mem member
  rcases expand_traced h i instruction 0 [] at_i with origin | ⟨⟨-, -, rfl⟩, -⟩
  · exact origin.notMem_texts (by decide) (newline_notMem_of_mem_splitLines template)
      fun _ source _ => newline_notMem_of_mem_splitLines source
  · simp [Instruction.texts]

theorem expand_lineEnd_of_marker (h : expand columns style included template = .ok program)
    {boundary : Boundary} {name : Text} (inside : .marker boundary name ∈ program.instructions) :
    ∀ c ∈ name, c.isLineEnd = false := by
  obtain ⟨i, at_i⟩ := List.getElem?_of_mem inside
  rcases expand_traced h i _ 0 [] at_i with origin | ⟨⟨-, -, same⟩, -⟩
  · exact origin.lineEnd_of_marker rfl
  · cases same

/-- Every instruction of an expanded program traces to the line that yields it, whatever the report is
indented by and whichever code line it names; it is the line of the generated code two further on; and
an index that belongs to no instruction traces to nothing. -/
theorem expand_traceInstruction (h : expand columns style included template = .ok program) :
    (∀ (i : Nat) (instruction : Instruction) (codeLine : Int) (indent : Text),
      program.instructions[i]? = some instruction →
        (traceInstruction program i codeLine indent).location ≠ [] ∧
        (Originates style included topLevelName template columns
            (traceInstruction program i codeLine indent).location instruction ∨
          program.IsTerminator i instruction ∧ template.getLast? = some newline ∧
            (traceInstruction program i codeLine indent).location =
              [⟨topLevelName, (splitLines template).length⟩]) ∧
        (Text.splitOn newline program.code)[i + 1]? = some instruction.code ∧
        Instruction.atCodeLine (i + 2) = i) ∧
    ∀ (index codeLine : Int) (indent : Text),
      index < 0 ∨ (program.instructions.length : Int) ≤ index →
        (traceInstruction program index codeLine indent).location = [] := by
  refine ⟨fun i instruction codeLine indent at_i => ?_, fun index codeLine indent outside => ?_⟩
  · have origin := expand_traced h i instruction codeLine indent at_i
    have piece := program.codeLines_getElem? i instruction at_i
    rw [← expand_splitOn_code h] at piece
    have code_line : Instruction.atCodeLine (i + 2) = i := by
      unfold Instruction.atCodeLine
      omega
    rw [expand_name h] at origin
    rcases origin with origin | ⟨last, location⟩
    · exact ⟨origin.chain_ne_nil, .inl origin, piece, code_line⟩
    · obtain ⟨ys, -, rfl⟩ := (Expansion.expandTo_succ_eq_ok_iff _ _ _ _).1 h
      have ends : template.getLast? = some newline := by
        have flag := last.1
        rw [Program.ofYields_endsWithNewline, beq_iff_eq] at flag
        exact flag
      rw [location]
      exact ⟨List.cons_ne_nil _ _, .inr ⟨last, ends, rfl⟩, piece, code_line⟩
  · refine traceInstruction_of_none program index codeLine indent ?_
    unfold elementAt?
    split
    · rfl
    · rw [List.getElem?_eq_none_iff, expand_sourceMap_length h]
      omega

end Expand

/-- An instruction two inclusions deep. -/
theorem expand_traceInstruction_nested :
    let included : Members Text := [("inner", "\t$<innermost>"), ("innermost", "$\x7bxs\x7d\n")]
    let template : Text := "@a\n $<inner>\n"
    ∃ program, expand 2 .standard included template = .ok program ∧
      Originates .standard included topLevelName template 2
        (traceInstruction program 3 5 []).location (.list "xs" (Text.spaces 4)) ∧
      (Text.splitOn newline program.code)[4]? = some (Instruction.list "xs" (Text.spaces 4)).code ∧
      (traceInstruction program 7 9 []).location = [] := by
  intro included template
  have expanded : expand 2 .standard included template = .ok _ := rfl
  obtain ⟨inside, outside⟩ := expand_traceInstruction expanded
  obtain ⟨-, origin, piece, -⟩ := inside 3 (.list "xs" (Text.spaces 4)) 5 [] rfl
  refine ⟨_, expanded, ?_, piece, outside 7 9 [] (.inr (by decide))⟩
  rcases origin with origin | ⟨⟨-, last, -⟩, -⟩
  · exact origin
  · exact absurd last (by decide)

end LineTemplate

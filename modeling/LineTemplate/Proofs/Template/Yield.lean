import Mathlib.Data.List.Forall2
import LineTemplate.Template.Expansion

/-!
What lines yield. A line yields instructions of its own or, when it includes a template, the program of
that template; a program is what the lines of its template yield, one after the other. Expansion at a
depth is described here without places and without errors: the program of a template is the assembly of
yields, one for each source line.
-/

set_option autoImplicit false

namespace LineTemplate

/-- The instructions that a line yields by itself when it is indented by some columns. An inclusion
yields the line of its halved backslashes, if it has any, and the two markers. -/
def Line.instructions (style : DelimiterStyle) (columns : Nat) (line : Text) : List Instruction :=
  let indent := Text.spaces columns
  match Line.classify line with
  | .statement code => [.statement code]
  | .text content =>
    let tokenized := TokenizedLine.ofText style content
    if tokenized.matched then [.fields indent tokenized.segments tokenized.trailing]
    else [.literal (if content.isEmpty then [] else indent ++ content)]
  | .list blanks run expression trailing =>
    let quoting := Quoting.ofRun run
    let lead := indent ++ blanks ++ quoting.literal
    if quoting.escaped then [.literal (lead ++ Line.listToken expression ++ trailing)]
    else if expression.isEmpty then [.literal lead]
    else [.list expression lead]
  | .inclusion blanks run name trailing =>
    let quoting := Quoting.ofRun run
    if quoting.escaped then
      [.literal (indent ++ blanks ++ quoting.literal ++ Line.inclusionToken name ++ trailing)]
    else
      (if quoting.literal.isEmpty then [] else [.literal (indent ++ blanks ++ quoting.literal)]) ++
        [.marker .opening name, .marker .closing name]

def Line.inclusion? (line : Text) : Option (Text × Text × Text) :=
  match Line.classify line with
  | .inclusion blanks run name _ =>
    if (Quoting.ofRun run).escaped then none else some (blanks, run, name)
  | _ => none

theorem Line.inclusion?_eq_some_iff (line blanks run name : Text) :
    Line.inclusion? line = some (blanks, run, name) ↔
      (∃ trailing, Line.classify line = .inclusion blanks run name trailing) ∧
        (Quoting.ofRun run).escaped = false := by
  unfold Line.inclusion?
  cases Line.classify line with
  | statement | text | list => simp
  | inclusion blanks' run' name' trailing =>
    by_cases escaped : (Quoting.ofRun run').escaped = true
    · simp only [escaped, if_true, reduceCtorEq, false_iff, not_and, Bool.not_eq_false]
      rintro ⟨_, same⟩
      cases same
      exact escaped
    · simp only [escaped, if_false, Bool.false_eq_true, Option.some.injEq, Prod.mk.injEq]
      constructor
      · rintro ⟨rfl, rfl, rfl⟩
        exact ⟨⟨trailing, rfl⟩, by simpa using escaped⟩
      · rintro ⟨⟨_, same⟩, _⟩
        cases same
        exact ⟨rfl, rfl, rfl⟩

def ExpansionContext.enter (context : ExpansionContext) (blanks name : Text) : ExpansionContext :=
  { context with
    columns := context.columns + blanks.length
    chain := context.chain ++ [name]
    name := name }

/-- What a line contributes to a program. -/
inductive LineYield where
  | own (instruction : Instruction)
  /-- The line of the halved backslashes, which may be missing, and the program of a template. -/
  | included (lead indent name : Text) (nested : Program)

namespace LineYield

def before (lead indent : Text) : List Instruction :=
  if lead.isEmpty then [] else [.literal (indent ++ lead)]

def instructions : LineYield → List Instruction
  | .own instruction => [instruction]
  | .included lead indent name nested =>
    before lead indent ++ .marker .opening name :: nested.spliced ++ [.marker .closing name]

/-- The part of a program that a line contributes at a place. -/
def part (place : ProgramPlace) : LineYield → ProgramPart
  | .own instruction => .one instruction place.line
  | .included lead indent name nested => Expansion.inclusionPart place lead indent name nested

def ownInstructions : LineYield → List Instruction
  | .own instruction => [instruction]
  | .included lead indent name _ =>
    before lead indent ++ [.marker .opening name, .marker .closing name]

theorem part_instructions (place : ProgramPlace) (y : LineYield) :
    (y.part place).instructions = y.instructions := by
  cases y with
  | own instruction => rfl
  | included lead indent name nested =>
    unfold part instructions before Expansion.inclusionPart
    cases lead <;> rfl

end LineYield

namespace ProgramPlace

def after (place : ProgramPlace) (part : ProgramPart) : ProgramPlace :=
  ⟨place.line + 1, place.instruction + part.instructions.length,
    place.inclusion + part.inclusions.length⟩

end ProgramPlace

/-- The part of a program that consecutive lines contribute from a place on. -/
def assemble : ProgramPlace → List LineYield → ProgramPart
  | _, [] => .empty
  | place, y :: rest => y.part place ++ assemble (place.after (y.part place)) rest

theorem assemble_instructions (place : ProgramPlace) (ys : List LineYield) :
    (assemble place ys).instructions = ys.flatMap LineYield.instructions := by
  induction ys generalizing place with
  | nil => rfl
  | cons y rest ih =>
    change (y.part place).instructions ++ (assemble _ rest).instructions = _
    rw [ih, LineYield.part_instructions, List.flatMap_cons]

def Program.ofYields (name template : Text) (ys : List LineYield) : Program :=
  .ofPart name template (assemble ⟨1, 0, 0⟩ ys)

namespace Program

theorem ofYields_instructions (name template : Text) (ys : List LineYield) :
    (ofYields name template ys).instructions = ys.flatMap LineYield.instructions ++
      if template.getLast? = some 0x0A then [.literal []] else [] := by
  unfold ofYields ofPart
  by_cases ends : template.getLast? = some 0x0A
  · simp only [ends, beq_self_eq_true, if_true]
    change (assemble _ ys).instructions ++ [_] = _
    rw [assemble_instructions]
  · simp only [beq_eq_false_iff_ne.2 ends, ends, if_false, Bool.false_eq_true]
    rw [assemble_instructions, List.append_nil]

theorem ofYields_spliced (name template : Text) (ys : List LineYield) :
    (ofYields name template ys).spliced = ys.flatMap LineYield.instructions := by
  unfold spliced
  rw [ofYields_instructions]
  by_cases ends : template.getLast? = some 0x0A
  · have flag : (ofYields name template ys).endsWithNewline = true := by
      simp [ofYields, ofPart, ends]
    rw [if_pos flag, if_pos ends, List.dropLast_concat]
  · have flag : (ofYields name template ys).endsWithNewline = false := by
      simp [ofYields, ofPart, ends]
    rw [flag, if_neg ends, List.append_nil]
    rfl

end Program

theorem forall₂_getElem?_right {α β : Type} {R : α → β → Prop} {xs : List α} {ys : List β}
    (h : List.Forall₂ R xs ys) (n : Nat) (y : β) (hy : ys[n]? = some y) :
    ∃ x, xs[n]? = some x ∧ R x y := by
  induction h generalizing n with
  | nil => simp at hy
  | cons first _ ih =>
    cases n with
    | zero =>
      obtain rfl : _ = y := by simpa using hy
      exact ⟨_, rfl, first⟩
    | succ n => simpa using ih n (by simpa using hy)

theorem forall₂_exists_of_mem {α β : Type} {R : α → β → Prop} {xs : List α} {ys : List β}
    (h : List.Forall₂ R xs ys) {y : β} (member : y ∈ ys) : ∃ x ∈ xs, R x y := by
  obtain ⟨n, at_n⟩ := List.getElem?_of_mem member
  obtain ⟨x, position, related⟩ := forall₂_getElem?_right h n y at_n
  exact ⟨x, List.mem_of_getElem? position, related⟩

namespace Expansion

variable {context : ExpansionContext}
  {expandNested : ExpansionContext → Text → Except ExpansionError Program}

/-- The yields of a line, given the programs of included templates. -/
inductive Yields (context : ExpansionContext)
    (expandNested : ExpansionContext → Text → Except ExpansionError Program) :
    Text → LineYield → Prop
  | own {line : Text} {instruction : Instruction} (plain : Line.inclusion? line = none)
      (alone : Line.instructions context.style context.columns line = [instruction]) :
      Yields context expandNested line (.own instruction)
  | included {line blanks run name source : Text} {nested : Program}
      (kind : Line.inclusion? line = some (blanks, run, name))
      (found : context.included.get? name = some source) (fresh : name ∉ context.chain)
      (expanded : expandNested (context.enter blanks name) source = .ok nested) :
      Yields context expandNested line
        (.included (Quoting.ofRun run).literal (Text.spaces context.columns ++ blanks) name nested)

theorem linePart_of_plain (place : ProgramPlace) (line : Text) (h : Line.inclusion? line = none) :
    ∃ instruction, Line.instructions context.style context.columns line = [instruction] ∧
      linePart context expandNested place line = .ok (.one instruction place.line) := by
  unfold Line.inclusion? at h
  unfold Line.instructions linePart
  cases kind : Line.classify line with
  | statement code => exact ⟨_, rfl, rfl⟩
  | text content =>
    dsimp only
    split
    · exact ⟨_, rfl, rfl⟩
    · exact ⟨_, rfl, rfl⟩
  | list blanks run expression trailing =>
    dsimp only
    split
    · exact ⟨_, rfl, rfl⟩
    · split
      · exact ⟨_, rfl, rfl⟩
      · exact ⟨_, rfl, rfl⟩
  | inclusion blanks run name trailing =>
    simp only [kind, ite_eq_left_iff, reduceCtorEq, imp_false, Decidable.not_not] at h
    simp only [h, if_true]
    exact ⟨_, rfl, rfl⟩

theorem linePart_of_inclusion (place : ProgramPlace) (line blanks run name : Text)
    (h : Line.inclusion? line = some (blanks, run, name)) :
    linePart context expandNested place line =
      (resolve context expandNested place.line blanks name).map fun nested =>
        inclusionPart place (Quoting.ofRun run).literal (Text.spaces context.columns ++ blanks) name
          nested := by
  obtain ⟨⟨trailing, kind⟩, active⟩ := (Line.inclusion?_eq_some_iff line blanks run name).1 h
  unfold linePart
  simp only [kind, active, if_false, Bool.false_eq_true]
  cases resolve context expandNested place.line blanks name <;> rfl

theorem resolve_eq_ok_iff (number : Nat) (blanks name : Text) (nested : Program) :
    resolve context expandNested number blanks name = .ok nested ↔
      ∃ source, context.included.get? name = some source ∧ name ∉ context.chain ∧
        expandNested (context.enter blanks name) source = .ok nested := by
  unfold resolve
  cases found : context.included.get? name with
  | none => simp
  | some source =>
    by_cases known : name ∈ context.chain
    · simp [known]
    · simp [known, ExpansionContext.enter]

theorem Yields.ownInstructions_eq {line : Text} {y : LineYield}
    (h : Yields context expandNested line y) :
    y.ownInstructions = Line.instructions context.style context.columns line := by
  cases h with
  | own _ alone => exact alone.symm
  | included kind =>
    obtain ⟨⟨trailing, kind⟩, active⟩ := (Line.inclusion?_eq_some_iff _ _ _ _).1 kind
    unfold Line.instructions
    simp only [kind, active, if_false, Bool.false_eq_true]
    rfl

theorem linePart_eq_ok_iff (place : ProgramPlace) (line : Text) (part : ProgramPart) :
    linePart context expandNested place line = .ok part ↔
      ∃ y, Yields context expandNested line y ∧ part = y.part place := by
  cases kind : Line.inclusion? line with
  | none =>
    obtain ⟨instruction, alone, same⟩ := @linePart_of_plain context
      expandNested place line kind
    rw [same]
    constructor
    · intro h
      exact ⟨.own instruction, .own kind alone, (Except.ok.inj h).symm⟩
    · rintro ⟨y, yields, rfl⟩
      cases yields with
      | own _ other =>
        obtain rfl : instruction = _ := by simpa [alone] using other
        rfl
      | included other => simp [kind] at other
  | some parts =>
    obtain ⟨blanks, run, name⟩ := parts
    rw [linePart_of_inclusion place line blanks run name kind]
    constructor
    · intro h
      cases resolved : resolve context expandNested place.line blanks name with
      | error e => simp [resolved, Except.map] at h
      | ok nested =>
        obtain ⟨source, found, fresh, expanded⟩ := (resolve_eq_ok_iff _ _ _ _).1 resolved
        simp only [resolved, Except.map, Except.ok.injEq] at h
        exact ⟨_, .included kind found fresh expanded, h.symm⟩
    · rintro ⟨y, yields, rfl⟩
      cases yields with
      | own plain => simp [kind] at plain
      | included other found fresh expanded =>
        obtain ⟨rfl, rfl, rfl⟩ : blanks = _ ∧ run = _ ∧ name = _ := by simpa [kind] using other
        rw [(resolve_eq_ok_iff _ _ _ _).2 ⟨_, found, fresh, expanded⟩]
        rfl

theorem linesPart_eq_ok_iff (place : ProgramPlace) (lines : List Text) (part : ProgramPart) :
    linesPart context expandNested place lines = .ok part ↔
      ∃ ys, List.Forall₂ (Yields context expandNested) lines ys ∧ part = assemble place ys := by
  induction lines generalizing place part with
  | nil =>
    simp only [linesPart, List.forall₂_nil_left_iff, exists_eq_left, assemble, Except.ok.injEq]
    exact eq_comm
  | cons line rest ih =>
    constructor
    · intro h
      cases first : linePart context expandNested place line with
      | error e => simp [linesPart, first, bind, Except.bind] at h
      | ok head =>
        obtain ⟨y, yields, rfl⟩ := (linePart_eq_ok_iff place line head).1 first
        cases others : linesPart context expandNested (place.after (y.part place)) rest with
        | error e =>
          unfold ProgramPlace.after at others
          simp [linesPart, first, others, bind, Except.bind] at h
        | ok tail =>
          obtain ⟨ys, all, rfl⟩ := (ih _ tail).1 others
          unfold ProgramPlace.after at others
          simp only [linesPart, first, others, bind, Except.bind, Except.ok.injEq] at h
          exact ⟨y :: ys, .cons yields all, h.symm⟩
    · rintro ⟨ys, all, rfl⟩
      cases all with
      | @cons _ y _ ys yields all =>
        have first := (linePart_eq_ok_iff place line _).2 ⟨y, yields, rfl⟩
        have others := (ih (place.after (y.part place)) _).2 ⟨ys, all, rfl⟩
        unfold ProgramPlace.after at others
        simp only [linesPart, first, others, bind, Except.bind]
        rfl

/-- An expansion succeeds exactly when every source line has a yield. -/
theorem expandTo_succ_eq_ok_iff (depth : Nat) (context : ExpansionContext) (template : Text)
    (program : Program) : expandTo (depth + 1) context template = .ok program ↔
      ∃ ys, List.Forall₂ (Yields context (expandTo depth)) (splitLines template) ys ∧
        program = .ofYields context.name template ys := by
  unfold expandTo
  constructor
  · intro h
    cases lines : linesPart context (expandTo depth) ⟨1, 0, 0⟩ (splitLines template) with
    | error e => simp [lines, bind, Except.bind] at h
    | ok part =>
      obtain ⟨ys, all, rfl⟩ := (linesPart_eq_ok_iff _ _ part).1 lines
      simp only [lines, bind, Except.bind, Except.ok.injEq] at h
      exact ⟨ys, all, h.symm⟩
  · rintro ⟨ys, all, rfl⟩
    rw [(linesPart_eq_ok_iff _ _ _).2 ⟨ys, all, rfl⟩]
    rfl

theorem expandTo_zero_ne_ok (context : ExpansionContext) (template : Text) (program : Program) :
    expandTo 0 context template ≠ .ok program := by
  simp [expandTo]

theorem exists_yields {depth : Nat} {context : ExpansionContext} {template : Text} {program : Program}
    (h : expandTo depth context template = .ok program) :
    ∃ below ys, depth = below + 1 ∧
      List.Forall₂ (Yields context (expandTo below)) (splitLines template) ys ∧
      program = .ofYields context.name template ys := by
  cases depth with
  | zero => exact absurd h (expandTo_zero_ne_ok _ _ _)
  | succ below =>
    obtain ⟨ys, all, same⟩ := (expandTo_succ_eq_ok_iff _ _ _ _).1 h
    exact ⟨below, ys, rfl, all, same⟩

end Expansion

def Line.Gives (style : DelimiterStyle) (columns : Nat) (line : Text) (i : Instruction) : Prop :=
  Line.inclusion? line = none ∧ Line.instructions style columns line = [i]

theorem expand_own {columns : Nat} {style : DelimiterStyle} {included : Members Text} {template : Text}
    {instructions : List Instruction}
    (own : List.Forall₂ (Line.Gives style columns) (splitLines template) instructions) :
    ∃ p, expand columns style included template = .ok p ∧
      p.instructions = instructions ++ (if template.getLast? = some 0x0A then [.literal []] else []) ∧
      p.endsWithNewline = (template.getLast? == some 0x0A) := by
  have all : List.Forall₂ (Expansion.Yields ⟨columns, style, included, [], topLevelName⟩
      (Expansion.expandTo included.length)) (splitLines template) (instructions.map LineYield.own) := by
    rw [List.forall₂_map_right_iff]
    exact own.imp fun line i ⟨plain, alone⟩ => .own plain alone
  refine ⟨_, (Expansion.expandTo_succ_eq_ok_iff _ _ _ _).2 ⟨_, all, rfl⟩, ?_, rfl⟩
  have each : (instructions.map LineYield.own).flatMap LineYield.instructions = instructions := by
    rw [List.flatMap_map]
    exact List.flatMap_singleton' instructions
  rw [Program.ofYields_instructions, each]

end LineTemplate

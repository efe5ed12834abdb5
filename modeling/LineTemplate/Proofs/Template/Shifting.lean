import Mathlib.Algebra.GroupWithZero.Nat
import LineTemplate.Evaluation.Binding
import LineTemplate.Proofs.Template.Assembly
import LineTemplate.Proofs.Template.Indentation
import LineTemplate.Proofs.Template.Outcome

/-!
Programs under more indentation. Each instruction belongs to a line, of the template or of one that is
included at some depth, and goes as many columns to the right as the whole program does, however its
indentation was put together. Only what stands for an empty line stays where it is, as does the
terminator; where instructions come from does not depend on columns.
-/

set_option autoImplicit false

namespace LineTemplate

/-- The instruction at this index is the terminator, or it comes from an empty line: of the template itself,
or of the template whose instructions were taken over there. -/
inductive Program.EmptyAt : Program → Nat → Prop
  | terminator {p : Program} {i : Nat} (ends : p.endsWithNewline = true)
      (last : i + 1 = p.instructions.length) : EmptyAt p i
  | line {p : Program} {i k : Nat} (origin : p.sourceMap[i]? = some (.line (k + 1 : Nat)))
      (empty : p.sourceLines[k]? = some []) : EmptyAt p i
  | included {p : Program} {i k r : Nat} {name : Text} {inclusion : Inclusion Program}
      (origin : p.sourceMap[i]? = some (.included name k)) (record : p.inclusions[k]? = some inclusion)
      (index : (i : Int) = inclusion.firstIndex + r) (inside : EmptyAt inclusion.program r) : EmptyAt p i

/-- An instruction and the same one `n` columns further to the right. A literal moves with its text, unless
it is to be empty in any column. -/
inductive Instruction.Shifted (n : Nat) (empty : Prop) : Instruction → Instruction → Prop
  | statement (code : Text) : Shifted n empty (.statement code) (.statement code)
  | marker (boundary : Boundary) (name : Text) :
      Shifted n empty (.marker boundary name) (.marker boundary name)
  | fields (indent : Text) (segments : List Segment) (trailing : Text) :
      Shifted n empty (.fields indent segments trailing)
        (.fields (Text.spaces n ++ indent) segments trailing)
  | list (expression indent : Text) :
      Shifted n empty (.list expression indent) (.list expression (Text.spaces n ++ indent))
  | literal (text : Text) (moves : ¬empty) :
      Shifted n empty (.literal text) (.literal (Text.spaces n ++ text))
  | blank (stays : empty) : Shifted n empty (.literal []) (.literal [])

/-- Instructions that correspond index by index. -/
structure ShiftedAt (n : Nat) (empty : Nat → Prop) (as bs : List Instruction) : Prop where
  length : as.length = bs.length
  at_index (i : Nat) (a b : Instruction) (at_i : as[i]? = some a) (at_i' : bs[i]? = some b) :
    a.Shifted n (empty i) b

mutual

/-- A program and the same one `n` columns further to the right, at every level of nesting. -/
inductive Program.Shifted (n : Nat) : Program → Program → Prop
  | intro {p q : Program} (name : p.name = q.name) (sourceLines : p.sourceLines = q.sourceLines)
      (sourceMap : p.sourceMap = q.sourceMap) (endsWithNewline : p.endsWithNewline = q.endsWithNewline)
      (inclusions : List.Forall₂ (Inclusion.Shifted n) p.inclusions q.inclusions)
      (instructions : ShiftedAt n p.EmptyAt p.instructions q.instructions) : Program.Shifted n p q

inductive Inclusion.Shifted (n : Nat) : Inclusion Program → Inclusion Program → Prop
  | intro {name : Text} {p q : Program} {atLine firstIndex : Int} (program : Program.Shifted n p q) :
      Inclusion.Shifted n ⟨name, p, atLine, firstIndex⟩ ⟨name, q, atLine, firstIndex⟩

end

section

variable {n : Nat}

theorem Instruction.Shifted.congr {empty empty' : Prop} (same : empty ↔ empty') {a b : Instruction}
    (h : a.Shifted n empty b) : a.Shifted n empty' b := by
  rw [← propext same]
  exact h

namespace ShiftedAt

variable {empty empty' : Nat → Prop} {as bs cs ds : List Instruction}

theorem nil : ShiftedAt n empty [] [] := ⟨rfl, fun _ _ _ at_i => by cases at_i⟩

theorem singleton {a b : Instruction} (h : a.Shifted n (empty 0) b) : ShiftedAt n empty [a] [b] := by
  refine ⟨rfl, fun i x y at_i at_i' => ?_⟩
  cases i with
  | zero =>
    cases at_i
    cases at_i'
    exact h
  | succ i => cases at_i

theorem append (first : ShiftedAt n empty as bs)
    (rest : ShiftedAt n (fun i => empty (as.length + i)) cs ds) :
    ShiftedAt n empty (as ++ cs) (bs ++ ds) := by
  refine ⟨by rw [List.length_append, List.length_append, first.length, rest.length], ?_⟩
  intro i a b at_i at_i'
  have same := first.length
  by_cases early : i < as.length
  · rw [List.getElem?_append_left early] at at_i
    rw [List.getElem?_append_left (by omega)] at at_i'
    exact first.at_index i a b at_i at_i'
  · rw [List.getElem?_append_right (by omega)] at at_i
    rw [List.getElem?_append_right (by omega), ← same] at at_i'
    have later := rest.at_index _ a b at_i at_i'
    rwa [Nat.add_sub_cancel' (by omega)] at later

theorem congr (h : ShiftedAt n empty as bs) (same : ∀ i < as.length, (empty i ↔ empty' i)) :
    ShiftedAt n empty' as bs :=
  ⟨h.length, fun i a b at_i at_i' =>
    (h.at_index i a b at_i at_i').congr (same i (List.getElem?_eq_some_iff.1 at_i).1)⟩

theorem dropLast (h : ShiftedAt n empty as bs) : ShiftedAt n empty as.dropLast bs.dropLast := by
  refine ⟨by rw [List.length_dropLast, List.length_dropLast, h.length], fun i a b at_i at_i' => ?_⟩
  rw [List.getElem?_dropLast] at at_i at_i'
  split at at_i
  · rw [if_pos (by rwa [← h.length])] at at_i'
    exact h.at_index i a b at_i at_i'
  · cases at_i

end ShiftedAt

theorem Line.instructions_shifted (style : DelimiterStyle) (columns : Nat) (line : Text) :
    ShiftedAt n (fun _ => line = []) (instructions style columns line)
      (instructions style (n + columns) line) := by
  have full {kind : Line} (found : classify line = kind) (token : ∀ content, kind ≠ .text content) :
      line ≠ [] := by
    rintro rfl
    exact token [] found.symm
  unfold instructions
  rw [Text.spaces_add]
  cases kind : classify line with
  | statement code => exact .singleton (.statement code)
  | text content =>
    obtain rfl : line = content := classify_eq_text kind
    dsimp only
    split
    · exact .singleton (.fields _ _ _)
    · refine .singleton ?_
      split
      · rename_i empty
        exact .blank (List.isEmpty_iff.1 empty)
      · rename_i filled
        rw [List.append_assoc]
        exact .literal _ fun empty => filled (List.isEmpty_iff.2 empty)
  | list blanks run expression trailing =>
    have moves := full kind fun _ => nofun
    simp only [List.append_assoc]
    split
    · exact .singleton (.literal _ moves)
    · split
      · exact .singleton (.literal _ moves)
      · exact .singleton (.list _ _)
  | inclusion blanks run name trailing =>
    have moves := full kind fun _ => nofun
    simp only [List.append_assoc]
    split
    · exact .singleton (.literal _ moves)
    · refine .append ?_ (.append (.singleton (.marker _ _)) (.singleton (.marker _ _)))
      split
      · exact .nil
      · exact .singleton (.literal _ moves)

theorem Program.Shifted.spliced {p q : Program} (h : p.Shifted n q) :
    ShiftedAt n p.EmptyAt p.spliced q.spliced := by
  obtain ⟨-, -, -, ends, -, instructions⟩ := h
  unfold Program.spliced
  rw [← ends]
  split
  · exact instructions.dropLast
  · exact instructions

end

namespace Program.EmptyAt

variable {p : Program} {i : Nat}

theorem iff_of_line {k : Nat} (inner : p.endsWithNewline = true → i + 1 < p.instructions.length)
    (origin : p.sourceMap[i]? = some (.line (k + 1 : Nat))) :
    p.EmptyAt i ↔ p.sourceLines[k]? = some [] := by
  refine ⟨fun h => ?_, .line origin⟩
  cases h with
  | terminator ends last => exact absurd (inner ends) (by omega)
  | @line _ _ k' origin' empty =>
    have same := Origin.line.inj (Option.some.inj (origin.symm.trans origin'))
    obtain rfl : k = k' := by omega
    exact empty
  | included origin' => cases origin.symm.trans origin'

theorem iff_of_included {k r : Nat} {name : Text} {inclusion : Inclusion Program}
    (inner : p.endsWithNewline = true → i + 1 < p.instructions.length)
    (origin : p.sourceMap[i]? = some (.included name k)) (record : p.inclusions[k]? = some inclusion)
    (index : (i : Int) = inclusion.firstIndex + r) : p.EmptyAt i ↔ inclusion.program.EmptyAt r := by
  refine ⟨fun h => ?_, .included origin record index⟩
  cases h with
  | terminator ends last => exact absurd (inner ends) (by omega)
  | line origin' => cases origin.symm.trans origin'
  | @included _ _ k' r' _ _ origin' record' index' inside =>
    have same := (Origin.included.inj (Option.some.inj (origin.symm.trans origin'))).2
    obtain rfl : k = k' := by omega
    cases record.symm.trans record'
    obtain rfl : r = r' := by omega
    exact inside

end Program.EmptyAt

/-- What a line yields, and what it yields `n` columns further to the right. -/
inductive LineYield.Shifted (n : Nat) (line : Text) : LineYield → LineYield → Prop
  | own {a b : Instruction} (h : a.Shifted n (line = []) b) : Shifted n line (.own a) (.own b)
  | included {lead indent name : Text} {p q : Program} (full : line ≠ []) (h : p.Shifted n q) :
      Shifted n line (.included lead indent name p) (.included lead (Text.spaces n ++ indent) name q)

inductive YieldsShifted (n : Nat) : List Text → List LineYield → List LineYield → Prop
  | nil : YieldsShifted n [] [] []
  | cons {line : Text} {lines : List Text} {y y' : LineYield} {ys ys' : List LineYield}
      (first : y.Shifted n line y') (rest : YieldsShifted n lines ys ys') :
      YieldsShifted n (line :: lines) (y :: ys) (y' :: ys')

structure ProgramPart.Alike (n : Nat) (a b : ProgramPart) : Prop where
  length : a.instructions.length = b.instructions.length
  origins : a.origins = b.origins
  inclusions : List.Forall₂ (Inclusion.Shifted n) a.inclusions b.inclusions

theorem ProgramPart.Alike.append {n : Nat} {a b c d : ProgramPart} (first : a.Alike n b)
    (rest : c.Alike n d) : (a ++ c).Alike n (b ++ d) := by
  refine ⟨?_, congrArg₂ (· ++ ·) first.origins rest.origins,
    List.rel_append first.inclusions rest.inclusions⟩
  change (a.instructions ++ c.instructions).length = (b.instructions ++ d.instructions).length
  rw [List.length_append, List.length_append, first.length, rest.length]

section

variable {n : Nat} {line : Text} {lines : List Text} {y y' : LineYield} {ys ys' : List LineYield}

namespace LineYield

theorem opening_length (lead indent indent' name : Text) :
    (opening lead indent name).length = (opening lead indent' name).length := by
  unfold opening before
  split <;> rfl

theorem opening_shifted (lead indent name : Text) {empty : Nat → Prop}
    (moves : ∀ m < (opening lead indent name).length, ¬empty m) :
    ShiftedAt n empty (opening lead indent name) (opening lead (Text.spaces n ++ indent) name) := by
  unfold opening before at moves ⊢
  refine .append ?_ (.singleton (.marker _ _))
  split
  · exact .nil
  · rw [List.append_assoc]
    exact .singleton (.literal _ (moves 0 (by simp)))

theorem Shifted.part (h : y.Shifted n line y') (place : ProgramPlace) :
    (y.part place).Alike n (y'.part place) := by
  cases h with
  | own => exact ⟨rfl, rfl, .nil⟩
  | @included lead indent name p q full h =>
    have opens := opening_length lead indent (Text.spaces n ++ indent) name
    have body := h.spliced.length
    rw [part_included, part_included, opens]
    refine ⟨?_, ?_, .cons (.intro h) .nil⟩
    · simp only [List.length_append, opens, body]
    · simp only [List.map_const', opens, body]

end LineYield

theorem YieldsShifted.assemble (h : YieldsShifted n lines ys ys') (place : ProgramPlace) :
    (assemble place ys).Alike n (assemble place ys') := by
  induction h generalizing place with
  | nil => exact ⟨rfl, rfl, .nil⟩
  | @cons line lines y y' ys ys' first rest ih =>
    have after : place.after (y.part place) = place.after (y'.part place) := by
      unfold ProgramPlace.after
      rw [(first.part place).length, (first.part place).inclusions.length_eq]
    have tail := ih (place.after (y.part place))
    nth_rewrite 2 [after] at tail
    exact (first.part place).append tail

end

section

variable (name template : Text) (xs : List LineYield) (y : LineYield) (zs : List LineYield)

namespace Program

theorem inner_of_line {m : Nat} (inside : m < y.instructions.length)
    (ends : (ofYields name template (xs ++ y :: zs)).endsWithNewline = true) :
    (xs.flatMap LineYield.instructions).length + m + 1 <
      (ofYields name template (xs ++ y :: zs)).instructions.length := by
  rw [ofYields_endsWithNewline, beq_iff_eq] at ends
  rw [ofYields_instructions, if_pos ends, List.flatMap_append, List.flatMap_cons]
  simp only [List.length_append, List.length_singleton]
  omega

theorem emptyAt_of_line {m : Nat} (inside : m < y.instructions.length)
    (origin : (y.part (.behind xs)).origins[m]? = some (.line (xs.length + 1 : Nat))) :
    (ofYields name template (xs ++ y :: zs)).EmptyAt ((xs.flatMap LineYield.instructions).length + m) ↔
      (splitLines template)[xs.length]? = some [] :=
  EmptyAt.iff_of_line (inner_of_line name template xs y zs inside)
    ((origin_of_line name template xs y zs inside).trans origin)

theorem emptyAt_of_spliced (lead indent inner : Text) (nested : Program) {r : Nat}
    (inside : r < nested.spliced.length) :
    (ofYields name template (xs ++ .included lead indent inner nested :: zs)).EmptyAt
        ((xs.flatMap LineYield.instructions).length + ((LineYield.opening lead indent inner).length + r)) ↔
      nested.EmptyAt r := by
  have inside_line : (LineYield.opening lead indent inner).length + r <
      (LineYield.included lead indent inner nested).instructions.length := by
    rw [LineYield.instructions_included, List.length_append, List.length_append]
    omega
  refine EmptyAt.iff_of_included (inner_of_line name template xs _ zs inside_line)
    ((origin_of_line name template xs _ zs inside_line).trans
      (LineYield.origin_of_spliced _ _ _ _ _ inside))
    (inclusion_of_line name template xs zs lead indent inner nested) ?_
  change _ = (((xs.flatMap LineYield.instructions).length + _ : Nat) : Int) + _
  omega

end Program

variable {n : Nat} {name template xs zs} {line : Text} {lines : List Text} {y y' : LineYield}
  {ys ys' : List LineYield}

theorem LineYield.Shifted.shiftedAt (h : y.Shifted n line y')
    (position : (splitLines template)[xs.length]? = some line) :
    ShiftedAt n (fun m => (Program.ofYields name template (xs ++ y :: zs)).EmptyAt
      ((xs.flatMap instructions).length + m)) y.instructions y'.instructions := by
  have from_line {m : Nat} (inside : m < y.instructions.length)
      (origin : (y.part (.behind xs)).origins[m]? = some (.line (xs.length + 1 : Nat))) :
      line = [] ↔ (Program.ofYields name template (xs ++ y :: zs)).EmptyAt
        ((xs.flatMap instructions).length + m) := by
    rw [Program.emptyAt_of_line name template xs y zs inside origin, position, Option.some.injEq]
  cases h with
  | own h => exact .singleton (h.congr (from_line Nat.one_pos rfl))
  | @included lead indent name' p q full h =>
    rw [instructions_included, instructions_included]
    -- What stands in front of the block comes from the line of the token, which is not empty.
    refine .append (opening_shifted lead indent name' fun m opens empty => full ?_)
      (.append ?_ (.singleton (.marker _ _)))
    · refine (from_line ?_ (origin_of_opening _ _ _ _ _ opens)).2 empty
      rw [instructions_included, List.length_append]
      omega
    · exact h.spliced.congr fun r inside =>
        (Program.emptyAt_of_spliced name template xs zs lead indent name' p inside).symm

theorem YieldsShifted.shiftedAt {ls : List Text} (h : YieldsShifted n lines ys ys')
    (whole : splitLines template = ls ++ lines) (before : ls.length = xs.length) :
    ShiftedAt n (fun i => (Program.ofYields name template (xs ++ ys)).EmptyAt
        ((xs.flatMap LineYield.instructions).length + i))
      (ys.flatMap LineYield.instructions) (ys'.flatMap LineYield.instructions) := by
  -- The lines that are done stay in front, so that an index is one of the whole program.
  induction h generalizing ls xs with
  | nil => exact .nil
  | @cons line lines y y' ys ys' first rest ih =>
    have position : (splitLines template)[xs.length]? = some line := by
      rw [whole, ← before]
      exact List.getElem?_append_right (Nat.le_refl _) |>.trans (by rw [Nat.sub_self]; rfl)
    have later := @ih (xs ++ [y]) (ls ++ [line]) (by rw [whole, List.append_cons]) (by simp [before])
    rw [← List.append_cons, List.flatMap_append, List.flatMap_singleton, List.length_append] at later
    rw [List.flatMap_cons, List.flatMap_cons]
    refine (first.shiftedAt position).append (later.congr fun i _ => ?_)
    rw [Nat.add_assoc]

theorem YieldsShifted.program (h : YieldsShifted n (splitLines template) ys ys') :
    (Program.ofYields name template ys).Shifted n (Program.ofYields name template ys') := by
  have alike := h.assemble ⟨1, 0, 0⟩
  refine .intro rfl rfl ?_ rfl ?_ ?_
  · rw [Program.ofYields_sourceMap, Program.ofYields_sourceMap, alike.origins]
  · rw [Program.ofYields_inclusions, Program.ofYields_inclusions]
    exact alike.inclusions
  · have lines := @YieldsShifted.shiftedAt name template [] n _ _ _ [] h rfl rfl
    rw [Program.ofYields_instructions, Program.ofYields_instructions]
    refine .append (lines.congr fun i _ => ?_) ?_
    · rw [List.flatMap_nil, List.length_nil, Nat.zero_add]
      rfl
    · split
      · rename_i ends
        refine .singleton (.blank (.terminator (beq_iff_eq.2 ends) ?_))
        rw [Program.ofYields_instructions, if_pos ends, List.length_append]
        rfl
      · exact .nil

end

def ExpansionContext.shift (n : Nat) (context : ExpansionContext) : ExpansionContext :=
  { context with columns := n + context.columns }

theorem ExpansionContext.shift_enter (n : Nat) (context : ExpansionContext) (blanks name : Text) :
    (context.shift n).enter blanks name = (context.enter blanks name).shift n := by
  unfold shift enter
  rw [ExpansionContext.mk.injEq]
  exact ⟨Nat.add_assoc _ _ _, rfl, rfl, rfl, rfl⟩

namespace Expansion

variable {n : Nat} {context : ExpansionContext}
  {expandNested : ExpansionContext → Text → Except ExpansionError Program}

def Shifts (n : Nat) (expandNested : ExpansionContext → Text → Except ExpansionError Program) : Prop :=
  ∀ (context : ExpansionContext) (template : Text) (p q : Program),
    expandNested context template = .ok p → expandNested (context.shift n) template = .ok q →
      p.Shifted n q

theorem Yields.shifted (nested : Shifts n expandNested) {line : Text} {y y' : LineYield}
    (h : Yields context expandNested line y) (h' : Yields (context.shift n) expandNested line y') :
    y.Shifted n line y' := by
  cases h with
  | own plain alone =>
    cases h' with
    | own plain' alone' =>
      have moved := @Line.instructions_shifted n context.style context.columns line
      rw [alone, show Line.instructions context.style (n + context.columns) line = _ from alone'] at moved
      exact .own (moved.at_index 0 _ _ rfl rfl)
    | included kind' => cases plain.symm.trans kind'
  | included kind found fresh expanded =>
    cases h' with
    | own plain' => cases kind.symm.trans plain'
    | included kind' found' fresh' expanded' =>
      cases kind.symm.trans kind'
      cases found.symm.trans found'
      have full : line ≠ [] := by
        rintro rfl
        cases kind
      change LineYield.Shifted n line _ (.included _ (Text.spaces (n + context.columns) ++ _) _ _)
      rw [Text.spaces_add, List.append_assoc]
      rw [ExpansionContext.shift_enter] at expanded'
      exact .included full (nested _ _ _ _ expanded expanded')

theorem Yields.shifted_all (nested : Shifts n expandNested) {lines : List Text} {ys ys' : List LineYield}
    (all : List.Forall₂ (Yields context expandNested) lines ys)
    (all' : List.Forall₂ (Yields (context.shift n) expandNested) lines ys') :
    YieldsShifted n lines ys ys' := by
  induction all generalizing ys' with
  | nil =>
    cases all'
    exact .nil
  | cons first rest ih =>
    cases all' with
    | cons first' rest' => exact .cons (first.shifted nested first') (ih rest')

theorem expandTo_shifts (n depth : Nat) : Shifts n (expandTo depth) := by
  induction depth with
  | zero => exact fun context template p q h => absurd h (expandTo_zero_ne_ok _ _ _)
  | succ depth ih =>
    intro context template p q h h'
    obtain ⟨ys, all, rfl⟩ := (expandTo_succ_eq_ok_iff _ _ _ _).1 h
    obtain ⟨ys', all', rfl⟩ := (expandTo_succ_eq_ok_iff _ _ _ _).1 h'
    exact (Yields.shifted_all ih all all').program

end Expansion

/-- The outcomes of one template, the second with `n` more columns: one error, or programs. -/
inductive ShiftedOutcome {ε : Type} (n : Nat) : Except ε Program → Except ε Program → Prop
  | error (e : ε) : ShiftedOutcome n (.error e) (.error e)
  | ok {p q : Program} (h : p.Shifted n q) : ShiftedOutcome n (.ok p) (.ok q)

namespace ShiftedOutcome

variable {ε δ : Type} {n : Nat} {a b : Except ε Program}

theorem of_map_eq (same : (b.map fun _ => ()) = a.map fun _ => ())
    (programs : ∀ p q, a = .ok p → b = .ok q → p.Shifted n q) : ShiftedOutcome n a b := by
  cases a with
  | error e =>
    cases b with
    | error e' =>
      cases same
      exact .error e
    | ok q => cases same
  | ok p =>
    cases b with
    | error e' => cases same
    | ok q => exact .ok (programs p q rfl rfl)

theorem mapError (h : ShiftedOutcome n a b) (f : ε → δ) : ShiftedOutcome n (a.mapError f) (b.mapError f) := by
  cases h with
  | error e => exact .error (f e)
  | ok h => exact .ok h

end ShiftedOutcome

theorem expand_shifted (n : Nat) (style : DelimiterStyle) (included : Members Text) (template : Text) :
    ShiftedOutcome n (expand 0 style included template) (expand n style included template) := by
  refine .of_map_eq (map_expand_eq 0 style included template n style) fun p q program program' => ?_
  exact Expansion.expandTo_shifts n (included.length + 1) _ template p q program program'

/-- Indentation moves a whole program: to expand a template with some columns fails as it does with none, and
gives otherwise, at every level of nesting, the same lines, origins and records of inclusions and the same
instructions these columns further to the right. Statements and markers have no column; the terminator stays
empty, and so does what comes from an empty line. The columns and all templates together are no longer than
a text can be. -/
theorem ofTemplate_shifted {flush given : Datum} {o₀ o : ExpansionOptions}
    (parsed₀ : ExpansionOptions.parse flush = .ok o₀) (parsed : ExpansionOptions.parse given = .ok o)
    (none : o₀.columns = 0) (alike : o.useAltDelimiters = o₀.useAltDelimiters) {included : Members Text}
    {template : Text}
    (fits : o.columns + template.length + (included.map fun m => m.2.length).sum ≤ Text.maxLength) :
    ShiftedOutcome o.columns (Program.ofTemplate flush included template)
      (Program.ofTemplate given included template) := by
  have style : o.style = o₀.style := by rw [ExpansionOptions.style, alike]; rfl
  rw [Program.ofTemplate_eq parsed₀ (none ▸ Nat.zero_le _), Program.ofTemplate_eq parsed (by omega), none, style]
  exact (expand_shifted o.columns o₀.style included template).mapError _

/-- A list without an expression is empty in the first column and moves; an empty line does not, whichever
template it is in, nor does the terminator. -/
theorem ofTemplate_shifted_empty :
    let flush : ExpansionOptions := ⟨0, false⟩
    let o : ExpansionOptions := ⟨2, false⟩
    let included : Members Text := [("inner", "\n$\x7b\x7d\n")]
    ExpansionOptions.parse .undefined = .ok flush ∧ ExpansionOptions.parse o.toDatum = .ok o ∧
      flush.columns = 0 ∧ o.columns = 2 ∧
      2 + ("$<inner>\n" : Text).length + (included.map fun m => m.2.length).sum ≤ Text.maxLength ∧
      ShiftedOutcome 2 (Program.ofTemplate .undefined included "$<inner>\n")
        (Program.ofTemplate o.toDatum included "$<inner>\n") ∧
      (Program.ofTemplate .undefined included "$<inner>\n").toOption.map Program.instructions =
        some [.marker .opening "inner", .literal [], .literal [], .marker .closing "inner", .literal []] ∧
      (Program.ofTemplate o.toDatum included "$<inner>\n").toOption.map Program.instructions =
        some [.marker .opening "inner", .literal [], .literal "  ", .marker .closing "inner", .literal []] := by
  have parsed₀ : ExpansionOptions.parse .undefined = .ok ⟨0, false⟩ := by with_unfolding_all rfl
  have parsed : ExpansionOptions.parse (ExpansionOptions.toDatum ⟨2, false⟩) = .ok ⟨2, false⟩ := by
    with_unfolding_all rfl
  intro flush o included
  have none : flush.columns = 0 := by decide +kernel
  have two : o.columns = 2 := by decide +kernel
  have fits : 2 + ("$<inner>\n" : Text).length + (included.map fun m => m.2.length).sum ≤ Text.maxLength := by
    decide +kernel
  have shifted := ofTemplate_shifted parsed₀ parsed none rfl (by rw [two]; exact fits)
  rw [two] at shifted
  exact ⟨parsed₀, parsed, none, two, fits, shifted, by decide +kernel, by decide +kernel⟩

/-- With more columns than a text can hold even the empty template is refused. -/
theorem not_shifted_wide :
    let flush : ExpansionOptions := ⟨0, false⟩
    let o : ExpansionOptions := ⟨1000000000, false⟩
    ExpansionOptions.parse flush.toDatum = .ok flush ∧ ExpansionOptions.parse o.toDatum = .ok o ∧
      flush.columns = 0 ∧ o.columns = 1000000000 ∧
      (Program.ofTemplate flush.toDatum [] []).isOk = true ∧
      Program.ofTemplate o.toDatum [] [] = .error (.plain "RangeError" "Invalid string length") := by
  refine ⟨?_, ?_, ?_, ?_, ?_, ?_⟩
  · with_unfolding_all rfl
  · with_unfolding_all rfl
  · decide +kernel
  · decide +kernel
  · decide +kernel
  · with_unfolding_all rfl

end LineTemplate

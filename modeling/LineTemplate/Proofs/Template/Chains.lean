import LineTemplate.Proofs.Template.Indentation
import LineTemplate.Template.Trail

/-!
Traces of programs that may come from anywhere. A trace descends through the inclusion records that the
source maps point at, until it comes to a line, to an index that has no origin or to an inclusion that has
no record. It reports one line for each record and one for the end, each two blanks further in than the one
before; its chain of locations is as long as the report, or empty.
-/

set_option autoImplicit false

namespace LineTemplate

/-- An inclusion that a trace goes through: the template that includes, the template that its source map
names, and the line of the inclusion. -/
structure Passage where
  includer : Text
  name : Text
  atLine : Int

/-- Where a trace ends. -/
inductive Terminus where
  /-- At a line of a template. -/
  | line (template : Text) (number : Int) (source : Text)
  /-- At an index that has no entry in the source map. -/
  | noOrigin
  /-- At an entry for a template of which there is no inclusion record. -/
  | noRecord (name : Text)

namespace Passage

def location (p : Passage) : SourceLocation := ⟨p.includer, p.atLine⟩

def report (p : Passage) : Text :=
  ("in template '" : Text) ++ p.name ++ ("' included at line " : Text) ++ Number.textOfInt p.atLine ++
    (":" : Text)

end Passage

namespace Terminus

def location? : Terminus → Option SourceLocation
  | .line template number _ => some ⟨template, number⟩
  | .noOrigin | .noRecord _ => none

def report (codeLine : Int) : Terminus → Text
  | .line template number source =>
    ("[" : Text) ++ template ++ ("]:" : Text) ++ Number.textOfInt number ++ (": >>> " : Text) ++ source ++
      (" <<<" : Text)
  | .noOrigin =>
    ("Internal error: could not trace code line " : Text) ++ Number.textOfInt codeLine ++
      (" back to the template" : Text)
  | .noRecord name =>
    ("Internal error: no inclusion record for template '" : Text) ++ name ++ ("'" : Text)

end Terminus

/-- The source map of a program leads from an index through inclusions to an end. -/
inductive Descends : Program → Int → List Passage → Terminus → Prop
  | line {p : Program} {index number : Int} (origin : elementAt? p.sourceMap index = some (.line number)) :
      Descends p index []
        (.line p.name number ((elementAt? p.sourceLines (number - 1)).getD []))
  | noOrigin {p : Program} {index : Int} (missing : elementAt? p.sourceMap index = none) :
      Descends p index [] .noOrigin
  | noRecord {p : Program} {index inclusion : Int} {name : Text}
      (origin : elementAt? p.sourceMap index = some (.included name inclusion))
      (missing : elementAt? p.inclusions inclusion = none) : Descends p index [] (.noRecord name)
  | inside {p : Program} {index inclusion : Int} {name : Text} {record : Inclusion Program}
      {passages : List Passage} {terminus : Terminus}
      (origin : elementAt? p.sourceMap index = some (.included name inclusion))
      (found : elementAt? p.inclusions inclusion = some record)
      (rest : Descends record.program (index - record.firstIndex) passages terminus) :
      Descends p index (⟨p.name, name, record.atLine⟩ :: passages) terminus

theorem exists_descends (program : Program) (index : Int) :
    ∃ passages terminus, Descends program index passages terminus := by
  -- The code line and the indentation play no part; any will do for the recursion of the trace.
  induction program, index, ([] : Text) using traceInstruction.induct 0 with
  | case1 program index _ missing => exact ⟨_, _, .noOrigin missing⟩
  | case2 program index _ number origin => exact ⟨_, _, .line origin⟩
  | case3 program index _ name inclusion origin missing => exact ⟨_, _, .noRecord origin missing⟩
  | case4 program index _ name inclusion origin record found ih =>
    obtain ⟨passages, terminus, rest⟩ := ih
    exact ⟨_, _, .inside origin found rest⟩

theorem Descends.unique {program : Program} {index : Int} {passages passages' : List Passage}
    {terminus terminus' : Terminus} (h : Descends program index passages terminus)
    (h' : Descends program index passages' terminus') : passages = passages' ∧ terminus = terminus' := by
  induction h generalizing passages' with
  | line origin =>
    cases h' with
    | line origin' =>
      cases origin.symm.trans origin'
      exact ⟨rfl, rfl⟩
    | noOrigin missing => cases origin.symm.trans missing
    | noRecord origin' | inside origin' => cases origin.symm.trans origin'
  | noOrigin missing =>
    cases h' with
    | noOrigin => exact ⟨rfl, rfl⟩
    | line origin | noRecord origin | inside origin => cases missing.symm.trans origin
  | noRecord origin missing =>
    cases h' with
    | noRecord origin' =>
      cases origin.symm.trans origin'
      exact ⟨rfl, rfl⟩
    | noOrigin missing' => cases origin.symm.trans missing'
    | line origin' => cases origin.symm.trans origin'
    | inside origin' found =>
      cases origin.symm.trans origin'
      cases missing.symm.trans found
  | inside origin found rest ih =>
    cases h' with
    | noOrigin missing => cases origin.symm.trans missing
    | line origin' => cases origin.symm.trans origin'
    | noRecord origin' missing =>
      cases origin.symm.trans origin'
      cases found.symm.trans missing
    | inside origin' found' rest' =>
      cases origin.symm.trans origin'
      cases found.symm.trans found'
      obtain ⟨rfl, rfl⟩ := ih rest'
      exact ⟨rfl, rfl⟩

def stepped (indent : Text) : List Text → List Text
  | [] => []
  | line :: rest => (indent ++ line) :: stepped (indent ++ Text.spaces 2) rest

theorem length_stepped (indent : Text) (lines : List Text) :
    (stepped indent lines).length = lines.length := by
  induction lines generalizing indent with
  | nil => rfl
  | cons line rest ih => rw [stepped, List.length_cons, ih, List.length_cons]

theorem getElem?_stepped (indent : Text) (lines : List Text) (j : Nat) :
    (stepped indent lines)[j]? = lines[j]?.map fun line => indent ++ Text.spaces (2 * j) ++ line := by
  induction lines generalizing indent j with
  | nil => rfl
  | cons line rest ih =>
    cases j with
    | zero =>
      change some (indent ++ line) = some (indent ++ [] ++ line)
      rw [List.append_nil]
    | succ j =>
      have further : indent ++ Text.spaces 2 ++ Text.spaces (2 * j) =
          indent ++ Text.spaces (2 * (j + 1)) := by
        rw [List.append_assoc, ← Text.spaces_add, Nat.mul_succ, Nat.add_comm]
      rw [stepped, List.getElem?_cons_succ, ih, further, List.getElem?_cons_succ]

/-- The locations of a descent: all of them, or none if it does not come to a line. -/
def chainOf (passages : List Passage) (terminus : Terminus) : List SourceLocation :=
  match terminus.location? with
  | none => []
  | some last => passages.map Passage.location ++ [last]

theorem chainOf_cons (passage : Passage) (passages : List Passage) (terminus : Terminus) :
    chainOf (passage :: passages) terminus =
      if (chainOf passages terminus).isEmpty then []
      else passage.location :: chainOf passages terminus := by
  unfold chainOf
  cases terminus.location? with
  | none => rfl
  | some last => simp

theorem Descends.traceInstruction_eq {program : Program} {index : Int} {passages : List Passage}
    {terminus : Terminus} (h : Descends program index passages terminus) (codeLine : Int) (indent : Text) :
    traceInstruction program index codeLine indent =
      ⟨stepped indent (passages.map Passage.report ++ [terminus.report codeLine]),
        chainOf passages terminus⟩ := by
  induction h generalizing indent with
  | line origin =>
    rw [traceInstruction]
    simp only [origin, List.map_nil, List.nil_append, stepped, Terminus.report, List.append_assoc]
    rfl
  | noOrigin missing =>
    rw [traceInstruction]
    simp only [missing, List.map_nil, List.nil_append, stepped, Terminus.report, List.append_assoc]
    rfl
  | @noRecord p index inclusion name origin missing =>
    rw [traceInstruction]
    simp only [origin]
    split
    · simp only [List.map_nil, List.nil_append, stepped, Terminus.report, List.append_assoc]
      rfl
    · rename_i record found
      cases missing.symm.trans found
  | @inside p index inclusion name record passages terminus origin found rest ih =>
    rw [traceInstruction]
    simp only [origin]
    split
    · rename_i missing
      cases found.symm.trans missing
    · rename_i record' found'
      cases found.symm.trans found'
      rw [ih, chainOf_cons]
      simp only [List.map_cons, List.cons_append, stepped, Passage.report, List.append_assoc]
      rfl

/-- Whatever the records of a program say, a trace adds a line to the report for each inclusion on its way
and one for its end, each two blanks further in. Its chain has a location for each of these lines, the last
one that of the line which the report ends with, or it is empty; and it is empty exactly when the source map
or the inclusions had no entry where the trace ends, which the last line reports. -/
theorem traceInstruction_whole_or_empty (program : Program) (index codeLine : Int) (indent : Text) :
    ∃ passages terminus,
      (∀ passages' terminus', Descends program index passages' terminus' ↔
        passages' = passages ∧ terminus' = terminus) ∧
      (traceInstruction program index codeLine indent).lines.length = passages.length + 1 ∧
      (∀ j line, (traceInstruction program index codeLine indent).lines[j]? = some line →
        indent ++ Text.spaces (2 * j) <+: line) ∧
      (traceInstruction program index codeLine indent).lines.getLast? =
        some (indent ++ Text.spaces (2 * passages.length) ++ terminus.report codeLine) ∧
      ((∃ template number source, terminus = .line template number source ∧
          (traceInstruction program index codeLine indent).location =
            passages.map Passage.location ++ [⟨template, number⟩]) ∨
        ((terminus = .noOrigin ∨ ∃ name, terminus = .noRecord name) ∧
          (traceInstruction program index codeLine indent).location = [])) := by
  obtain ⟨passages, terminus, descends⟩ := exists_descends program index
  have trace := descends.traceInstruction_eq codeLine indent
  have count : (stepped indent (passages.map Passage.report ++ [terminus.report codeLine])).length =
      passages.length + 1 := by
    rw [length_stepped, List.length_append, List.length_map, List.length_singleton]
  refine ⟨passages, terminus, fun passages' terminus' => ⟨fun other => other.unique descends, ?_⟩, ?_⟩
  · rintro ⟨rfl, rfl⟩
    exact descends
  rw [trace]
  refine ⟨count, fun j line at_j => ?_, ?_, ?_⟩
  · rw [getElem?_stepped] at at_j
    obtain ⟨content, -, rfl⟩ := Option.map_eq_some_iff.1 at_j
    exact List.prefix_append _ _
  · have last : (passages.map Passage.report ++ [terminus.report codeLine])[passages.length]? =
        some (terminus.report codeLine) := by
      rw [List.getElem?_append_right (Nat.le_of_eq (List.length_map _)), List.length_map, Nat.sub_self]
      rfl
    rw [List.getLast?_eq_getElem?, count, Nat.add_sub_cancel, getElem?_stepped, last, Option.map_some]
  · cases terminus with
    | line template number source => exact .inl ⟨template, number, source, rfl, rfl⟩
    | noOrigin => exact .inr ⟨.inl rfl, rfl⟩
    | noRecord name => exact .inr ⟨.inr ⟨name, rfl⟩, rfl⟩

end LineTemplate

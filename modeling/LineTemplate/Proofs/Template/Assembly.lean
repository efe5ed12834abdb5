import LineTemplate.Proofs.Template.Splitting
import LineTemplate.Proofs.Template.Yield

/-!
Assembled parts. What consecutive lines contribute falls apart at any of the lines: the part of the lines
before it, the part of the line itself, and the part of the lines after it. An instruction of a program is
one that a line yields by itself, one of the template that the line includes, or the terminator, and the
source map tells which.
-/

set_option autoImplicit false

namespace LineTemplate

namespace LineYield

def opening (lead indent name : Text) : List Instruction :=
  before lead indent ++ [.marker .opening name]

theorem part_included (place : ProgramPlace) (lead indent name : Text) (nested : Program) :
    part place (.included lead indent name nested) =
      ⟨opening lead indent name ++ nested.spliced ++ [.marker .closing name],
        ((opening lead indent name).map fun _ => .line place.line) ++
          (nested.spliced.map fun _ => .included name place.inclusion) ++ [.line place.line],
        [⟨name, nested, place.line,
          (place.instruction + (opening lead indent name).length : Nat)⟩]⟩ := by
  unfold part opening before Expansion.inclusionPart
  cases lead <;> rfl

theorem part_origins_length (place : ProgramPlace) (y : LineYield) :
    (y.part place).origins.length = (y.part place).instructions.length := by
  cases y with
  | own instruction => rfl
  | included lead indent name nested => simp [part_included]

end LineYield

theorem assemble_origins_length (place : ProgramPlace) (ys : List LineYield) :
    (assemble place ys).origins.length = (assemble place ys).instructions.length := by
  induction ys generalizing place with
  | nil => rfl
  | cons y rest ih =>
    change ((y.part place).origins ++ (assemble _ rest).origins).length =
      ((y.part place).instructions ++ (assemble _ rest).instructions).length
    rw [List.length_append, List.length_append, ih, LineYield.part_origins_length]

theorem ProgramPart.append_assoc (a b c : ProgramPart) : a ++ b ++ c = a ++ (b ++ c) := by
  change ProgramPart.mk _ _ _ = ProgramPart.mk _ _ _
  rw [ProgramPart.mk.injEq]
  exact ⟨List.append_assoc _ _ _, List.append_assoc _ _ _, List.append_assoc _ _ _⟩

namespace ProgramPlace

def past (place : ProgramPlace) (ys : List LineYield) : ProgramPlace :=
  ⟨place.line + ys.length, place.instruction + (assemble place ys).instructions.length,
    place.inclusion + (assemble place ys).inclusions.length⟩

theorem past_cons (place : ProgramPlace) (y : LineYield) (rest : List LineYield) :
    place.past (y :: rest) = (place.after (y.part place)).past rest := by
  have instructions : (assemble place (y :: rest)).instructions.length =
      (y.part place).instructions.length +
        (assemble (place.after (y.part place)) rest).instructions.length := List.length_append
  have inclusions : (assemble place (y :: rest)).inclusions.length =
      (y.part place).inclusions.length +
        (assemble (place.after (y.part place)) rest).inclusions.length := List.length_append
  unfold past
  rw [ProgramPlace.mk.injEq, instructions, inclusions, List.length_cons]
  refine ⟨?_, ?_, ?_⟩
  · change _ = place.line + 1 + rest.length
    omega
  · exact (Nat.add_assoc _ _ _).symm
  · exact (Nat.add_assoc _ _ _).symm

end ProgramPlace

theorem assemble_append (place : ProgramPlace) (xs ys : List LineYield) :
    assemble place (xs ++ ys) = assemble place xs ++ assemble (place.past xs) ys := by
  induction xs generalizing place with
  | nil => rfl
  | cons x rest ih =>
    change x.part place ++ assemble _ (rest ++ ys) = x.part place ++ assemble _ rest ++ _
    rw [ih, ProgramPart.append_assoc, ProgramPlace.past_cons]

theorem exists_line_of_getElem? (place : ProgramPlace) {ys : List LineYield} {j : Nat}
    {instruction : Instruction} (h : (assemble place ys).instructions[j]? = some instruction) :
    ∃ xs y zs m, ys = xs ++ y :: zs ∧ j = (assemble place xs).instructions.length + m ∧
      y.instructions[m]? = some instruction := by
  induction ys generalizing place j with
  | nil => simp [assemble, ProgramPart.empty] at h
  | cons y rest ih =>
    change ((y.part place).instructions ++ (assemble _ rest).instructions)[j]? = _ at h
    by_cases head : j < (y.part place).instructions.length
    · rw [List.getElem?_append_left head, LineYield.part_instructions] at h
      exact ⟨[], y, rest, j, rfl, (Nat.zero_add j).symm, h⟩
    · rw [List.getElem?_append_right (by omega)] at h
      obtain ⟨xs, y', zs, m, rfl, index, at_m⟩ := ih _ h
      refine ⟨y :: xs, y', zs, m, rfl, ?_, at_m⟩
      have length : (assemble place (y :: xs)).instructions.length =
          (y.part place).instructions.length +
            (assemble (place.after (y.part place)) xs).instructions.length := List.length_append
      omega

namespace LineYield

variable (place : ProgramPlace) (lead indent name : Text) (nested : Program)

theorem origin_of_opening {m : Nat} (inside : m < (opening lead indent name).length) :
    (part place (.included lead indent name nested)).origins[m]? = some (.line place.line) := by
  rw [part_included]
  simp [List.append_assoc, List.getElem?_append, inside]

theorem origin_of_spliced {m : Nat} (inside : m < nested.spliced.length) :
    (part place (.included lead indent name nested)).origins[(opening lead indent name).length + m]? =
      some (.included name place.inclusion) := by
  rw [part_included]
  simp [List.append_assoc, List.getElem?_append, inside]

theorem instructions_included :
    instructions (.included lead indent name nested) =
      opening lead indent name ++ (nested.spliced ++ [.marker .closing name]) := by
  simp [instructions, opening]

theorem own_or_spliced (place : ProgramPlace) {y : LineYield} {m : Nat} {instruction : Instruction}
    (h : y.instructions[m]? = some instruction) :
    (instruction ∈ y.ownInstructions ∧ (y.part place).origins[m]? = some (.line place.line)) ∨
      ∃ lead indent name nested r, y = .included lead indent name nested ∧
        m = (opening lead indent name).length + r ∧ nested.spliced[r]? = some instruction := by
  have inside := (List.getElem?_eq_some_iff.1 h).1
  cases y with
  | own own =>
    obtain rfl : m = 0 := by
      simp only [instructions, List.length_singleton] at inside
      omega
    exact .inl ⟨List.mem_of_getElem? h, rfl⟩
  | included lead indent name nested =>
    rw [instructions_included] at h inside
    by_cases opens : m < (opening lead indent name).length
    · rw [List.getElem?_append_left opens] at h
      refine .inl ⟨?_, origin_of_opening place _ _ _ _ opens⟩
      rcases List.mem_append.1 (List.mem_of_getElem? h) with lead_line | marker
      · exact List.mem_append_left _ lead_line
      · exact List.mem_append_right _ (List.mem_singleton.1 marker ▸ List.mem_cons_self)
    · obtain ⟨r, rfl⟩ : ∃ r, m = (opening lead indent name).length + r :=
        ⟨m - (opening lead indent name).length, by omega⟩
      rw [List.getElem?_append_right (by omega), Nat.add_sub_cancel_left] at h
      by_cases body : r < nested.spliced.length
      · rw [List.getElem?_append_left body] at h
        exact .inr ⟨lead, indent, name, nested, r, rfl, rfl, h⟩
      · -- Behind the block there is only the closing marker.
        have last : r = nested.spliced.length := by
          simp only [List.length_append, List.length_singleton] at inside
          omega
        subst last
        rw [List.getElem?_concat_length] at h
        obtain rfl := Option.some.inj h
        refine .inl ⟨List.mem_append_right _ (List.mem_cons_of_mem _ List.mem_cons_self), ?_⟩
        rw [part_included]
        simp [List.append_assoc]

end LineYield

def ProgramPlace.behind (xs : List LineYield) : ProgramPlace :=
  ⟨xs.length + 1, (xs.flatMap LineYield.instructions).length, (assemble ⟨1, 0, 0⟩ xs).inclusions.length⟩

theorem assemble_behind (xs ys : List LineYield) :
    assemble ⟨1, 0, 0⟩ (xs ++ ys) = assemble ⟨1, 0, 0⟩ xs ++ assemble (.behind xs) ys := by
  have place : (⟨1, 0, 0⟩ : ProgramPlace).past xs = .behind xs := by
    unfold ProgramPlace.past ProgramPlace.behind
    rw [ProgramPlace.mk.injEq, assemble_instructions]
    exact ⟨Nat.add_comm _ _, Nat.zero_add _, Nat.zero_add _⟩
  rw [assemble_append, place]

namespace Program

theorem ofYields_endsWithNewline (name template : Text) (ys : List LineYield) :
    (ofYields name template ys).endsWithNewline = (template.getLast? == some 0x0A) := rfl

theorem ofYields_sourceMap (name template : Text) (ys : List LineYield) :
    (ofYields name template ys).sourceMap = (assemble ⟨1, 0, 0⟩ ys).origins ++
      if template.getLast? = some 0x0A then [.line (splitLines template).length] else [] := by
  unfold ofYields ofPart
  by_cases ends : template.getLast? = some 0x0A
  · simp only [ends, beq_self_eq_true, if_true]
    rfl
  · simp only [beq_eq_false_iff_ne.2 ends, ends, if_false, Bool.false_eq_true, List.append_nil]

theorem ofYields_inclusions (name template : Text) (ys : List LineYield) :
    (ofYields name template ys).inclusions = (assemble ⟨1, 0, 0⟩ ys).inclusions := by
  unfold ofYields ofPart
  by_cases ends : template.getLast? = some 0x0A
  · simp only [ends, beq_self_eq_true, if_true]
    change (assemble ⟨1, 0, 0⟩ ys).inclusions ++ [] = _
    rw [List.append_nil]
  · simp only [beq_eq_false_iff_ne.2 ends, if_false, Bool.false_eq_true]

theorem ofYields_sourceMap_length (name template : Text) (ys : List LineYield) :
    (ofYields name template ys).sourceMap.length =
      (ofYields name template ys).instructions.length := by
  rw [ofYields_sourceMap, ofYields_instructions, List.length_append, List.length_append,
    assemble_origins_length, assemble_instructions]
  split <;> rfl

section

variable (name template : Text) (xs : List LineYield) (y : LineYield) (zs : List LineYield)

theorem origin_of_line {m : Nat} (inside : m < y.instructions.length) :
    (ofYields name template (xs ++ y :: zs)).sourceMap[(xs.flatMap LineYield.instructions).length + m]? =
      (y.part (.behind xs)).origins[m]? := by
  have whole : (assemble ⟨1, 0, 0⟩ (xs ++ y :: zs)).origins = (assemble ⟨1, 0, 0⟩ xs).origins ++
      ((y.part (.behind xs)).origins ++ (assemble _ zs).origins) :=
    congrArg ProgramPart.origins (assemble_behind xs (y :: zs))
  have length := LineYield.part_origins_length (.behind xs) y
  rw [LineYield.part_instructions] at length
  rw [ofYields_sourceMap, whole, ← assemble_instructions ⟨1, 0, 0⟩, ← assemble_origins_length,
    List.append_assoc, List.getElem?_append_right (by omega), Nat.add_sub_cancel_left, List.append_assoc,
    List.getElem?_append_left (by omega)]

theorem origin_of_terminator (ends : template.getLast? = some newline) :
    (ofYields name template xs).sourceMap[(xs.flatMap LineYield.instructions).length]? =
      some (.line (splitLines template).length) := by
  have ends' : template.getLast? = some 0x0A := ends
  rw [ofYields_sourceMap, if_pos ends', ← assemble_instructions ⟨1, 0, 0⟩, ← assemble_origins_length]
  exact List.getElem?_concat_length

theorem inclusion_of_line (lead indent inner : Text) (nested : Program) :
    (ofYields name template (xs ++ .included lead indent inner nested :: zs)).inclusions[
        (ProgramPlace.behind xs).inclusion]? =
      some ⟨inner, nested, (ProgramPlace.behind xs).line, ((ProgramPlace.behind xs).instruction +
        (LineYield.opening lead indent inner).length : Nat)⟩ := by
  have whole := congrArg ProgramPart.inclusions
    (assemble_behind xs (.included lead indent inner nested :: zs))
  have part := congrArg ProgramPart.inclusions
    (LineYield.part_included (.behind xs) lead indent inner nested)
  rw [ofYields_inclusions, whole]
  change (_ ++ ((LineYield.part _ _).inclusions ++ _))[_]? = _
  rw [part]
  exact (List.getElem?_append_right (Nat.le_refl _)).trans (by rw [Nat.sub_self]; rfl)

end

theorem exists_line_or_last {name template : Text} {ys : List LineYield} {i : Nat}
    {instruction : Instruction} (h : (ofYields name template ys).instructions[i]? = some instruction) :
    (∃ xs y zs m, ys = xs ++ y :: zs ∧ i = (xs.flatMap LineYield.instructions).length + m ∧
        y.instructions[m]? = some instruction) ∨
      template.getLast? = some newline ∧ i = (ys.flatMap LineYield.instructions).length ∧
        instruction = .literal [] := by
  rw [ofYields_instructions] at h
  by_cases inside : i < (ys.flatMap LineYield.instructions).length
  · rw [List.getElem?_append_left inside, ← assemble_instructions ⟨1, 0, 0⟩] at h
    obtain ⟨xs, y, zs, m, whole, index, at_m⟩ := exists_line_of_getElem? _ h
    rw [assemble_instructions] at index
    exact .inl ⟨xs, y, zs, m, whole, index, at_m⟩
  · rw [List.getElem?_append_right (by omega)] at h
    split at h
    · rename_i ends
      obtain ⟨index, -⟩ := List.getElem?_eq_some_iff.1 h
      rw [List.length_singleton] at index
      exact .inr ⟨ends, by omega, List.mem_singleton.1 (List.mem_of_getElem? h)⟩
    · simp at h

/-- What the source map says of an instruction at an index: it belongs to a line, or to an inclusion
whose record points at the first of its instructions, or it ends the last line. -/
inductive Mapped (p : Program) (ys : List LineYield) (i : Nat) (instruction : Instruction) : Prop
  | line {n : Nat} {y : LineYield} (position : ys[n]? = some y)
      (origin : p.sourceMap[i]? = some (.line (n + 1 : Nat)))
      (yielded : instruction ∈ y.ownInstructions)
  | included {n k first r : Nat} {lead indent inner : Text} {nested : Program}
      (position : ys[n]? = some (.included lead indent inner nested))
      (origin : p.sourceMap[i]? = some (.included inner k))
      (record : p.inclusions[k]? = some ⟨inner, nested, (n + 1 : Nat), first⟩) (index : i = first + r)
      (spliced : nested.spliced[r]? = some instruction)
  | terminator (ends : p.endsWithNewline = true) (last : i + 1 = p.instructions.length)
      (empty : instruction = .literal []) (origin : p.sourceMap[i]? = some (.line p.sourceLines.length))

theorem ofYields_mapped {name template : Text} {ys : List LineYield} {i : Nat} {instruction : Instruction}
    (h : (ofYields name template ys).instructions[i]? = some instruction) :
    Mapped (ofYields name template ys) ys i instruction := by
  rcases exists_line_or_last h with ⟨xs, y, zs, m, rfl, rfl, at_m⟩ | ⟨ends, rfl, rfl⟩
  · have position : (xs ++ y :: zs)[xs.length]? = some y := by simp
    have origin := origin_of_line name template xs y zs (List.getElem?_eq_some_iff.1 at_m).1
    rcases LineYield.own_or_spliced (.behind xs) at_m with
      ⟨yielded, here⟩ | ⟨lead, indent, inner, nested, r, rfl, rfl, spliced⟩
    · exact .line position (origin.trans here) yielded
    · have here := LineYield.origin_of_spliced (.behind xs) lead indent inner nested
        (List.getElem?_eq_some_iff.1 spliced).1
      exact .included position (origin.trans here)
        (inclusion_of_line name template xs zs lead indent inner nested) (Nat.add_assoc _ _ _).symm spliced
  · refine .terminator (beq_iff_eq.2 ends) ?_ rfl (origin_of_terminator name template ys ends)
    have ends' : template.getLast? = some 0x0A := ends
    rw [ofYields_instructions, if_pos ends', List.length_append]
    rfl

theorem take_spliced (program : Program) {n : Nat} (short : n ≤ program.spliced.length) :
    program.spliced.take n = program.instructions.take n := by
  unfold spliced at short ⊢
  split
  · rename_i ends
    rw [if_pos ends, List.length_dropLast] at short
    rw [List.dropLast_eq_take, List.take_take, Nat.min_eq_left short]
  · rfl

end Program

end LineTemplate

import LineTemplate.Proofs.Template.SourceMap

/-!
Source lines and instructions. The source map of a program goes through the lines of its template in order
and leaves none out, and the instructions of each included template stand in one block, in the order in
which the inclusions are recorded. The same holds of every program inside it.
-/

set_option autoImplicit false

namespace LineTemplate

/-- The line of a template that an origin leads to, in a program with these inclusions. -/
def Origin.lineIn (records : List (Inclusion Program)) : Origin → Option Int
  | .line number => some number
  | .included _ inclusion => (elementAt? records inclusion).map Inclusion.atLine

namespace Program

def ownLength (p : Program) : Nat :=
  if p.endsWithNewline then p.instructions.length - 1 else p.instructions.length

theorem length_spliced (p : Program) : p.spliced.length = p.ownLength := by
  unfold spliced ownLength
  split
  · exact List.length_dropLast
  · rfl

/-- What a program says of the template that it comes from. -/
structure Covers (p : Program) (template : Text) : Prop where
  text : Text.join [newline] p.sourceLines ++ (if p.endsWithNewline then [newline] else []) = template
  origins : p.sourceMap.length = p.instructions.length
  /-- The lines that the instructions come from never go back, and leave out no line. -/
  lines : ∃ numbers : List Nat,
    p.sourceMap.map (Origin.lineIn p.inclusions) = numbers.map (fun n : Nat => some (n : Int)) ∧
    numbers.Pairwise (· ≤ ·) ∧ ∀ n, n ∈ numbers ↔ 1 ≤ n ∧ n ≤ p.sourceLines.length
  /-- An inclusion has a block of instructions, which are those of the included program. -/
  blocks : ∀ (k : Nat) (record : Inclusion Program), p.inclusions[k]? = some record →
    ∃ first : Nat, record.firstIndex = first ∧ 1 ≤ record.program.ownLength ∧
      (∀ i : Nat, (∃ name, p.sourceMap[i]? = some (.included name k)) ↔
        first ≤ i ∧ i < first + record.program.ownLength) ∧
      ∀ i, first ≤ i → i < first + record.program.ownLength →
        ∃ instruction, p.instructions[i]? = some instruction ∧
          record.program.instructions[i - first]? = some instruction
  order : p.inclusions.Pairwise fun a b => a.firstIndex + (a.program.ownLength : Int) ≤ b.firstIndex

/-- A program, or one inside it at any depth. -/
inductive Within (p : Program) : Program → Prop
  | self : Within p p
  | inside {q : Program} {record : Inclusion Program} (outside : Within p q)
      (member : record ∈ q.inclusions) : Within p record.program

end Program

def lineNumbers : Nat → List LineYield → List Nat
  | _, [] => []
  | n, y :: rest => List.replicate y.instructions.length n ++ lineNumbers (n + 1) rest

theorem LineYield.length_instructions_pos (y : LineYield) : 0 < y.instructions.length := by
  cases y with
  | own instruction => exact Nat.one_pos
  | included lead indent name nested =>
    simp only [instructions, List.length_append, List.length_singleton]
    omega

theorem mem_lineNumbers_iff (n k : Nat) (ys : List LineYield) :
    k ∈ lineNumbers n ys ↔ n ≤ k ∧ k < n + ys.length := by
  induction ys generalizing n with
  | nil =>
    simp only [lineNumbers, List.not_mem_nil, List.length_nil, false_iff]
    omega
  | cons y rest ih =>
    have some_instruction := y.length_instructions_pos
    rw [lineNumbers, List.mem_append, List.mem_replicate, ih, List.length_cons]
    omega

theorem pairwise_lineNumbers (n : Nat) (ys : List LineYield) :
    (lineNumbers n ys).Pairwise (· ≤ ·) := by
  induction ys generalizing n with
  | nil => exact .nil
  | cons y rest ih =>
    refine List.pairwise_append.2 ⟨List.pairwise_replicate.2 (.inr (Nat.le_refl n)), ih _, ?_⟩
    intro a here b later
    have first := List.eq_of_mem_replicate here
    have bounds := (mem_lineNumbers_iff _ _ _).1 later
    omega

theorem LineYield.lineIn_of_mem_part {place : ProgramPlace} {y : LineYield} {o : Origin}
    (member : o ∈ (y.part place).origins) (front back : List (Inclusion Program))
    (length : front.length = place.inclusion) :
    o.lineIn (front ++ ((y.part place).inclusions ++ back)) = some (place.line : Int) := by
  cases y with
  | own instruction =>
    rw [List.mem_singleton.1 member]
    rfl
  | included lead indent name nested =>
    rw [part_included] at member ⊢
    simp only [List.mem_append, List.mem_map, List.mem_singleton] at member
    rcases member with (⟨_, _, rfl⟩ | ⟨_, _, rfl⟩) | rfl
    · rfl
    · rw [Origin.lineIn, elementAt?_natCast, ← length, List.getElem?_append_right (Nat.le_refl _),
        Nat.sub_self]
      rfl
    · rfl

theorem assemble_lineIn (place : ProgramPlace) (ys : List LineYield)
    (front back : List (Inclusion Program)) (length : front.length = place.inclusion) :
    (assemble place ys).origins.map (Origin.lineIn (front ++ ((assemble place ys).inclusions ++ back))) =
      (lineNumbers place.line ys).map fun n : Nat => some (n : Int) := by
  induction ys generalizing place front with
  | nil => rfl
  | cons y rest ih =>
    have here : (y.part place).origins.map (Origin.lineIn (front ++ ((y.part place).inclusions ++
        ((assemble (place.after (y.part place)) rest).inclusions ++ back)))) =
          List.replicate y.instructions.length (some (place.line : Int)) := by
      refine List.eq_replicate_iff.2 ⟨?_, fun l member => ?_⟩
      · rw [List.length_map, LineYield.part_origins_length, LineYield.part_instructions]
      · obtain ⟨o, inside, rfl⟩ := List.mem_map.1 member
        exact LineYield.lineIn_of_mem_part inside front _ length
    have later := ih (place.after (y.part place)) (front ++ (y.part place).inclusions) (by
      rw [List.length_append, length]
      rfl)
    change List.map (Origin.lineIn (front ++ ((y.part place).inclusions ++
      (assemble (place.after (y.part place)) rest).inclusions ++ back))) ((y.part place).origins ++ _) = _
    rw [List.append_assoc] at later
    rw [List.append_assoc, List.map_append, here, later, lineNumbers, List.map_append, List.map_replicate]
    rfl

theorem exists_line_of_inclusion (place : ProgramPlace) {ys : List LineYield} {k : Nat}
    {record : Inclusion Program} (h : (assemble place ys).inclusions[k]? = some record) :
    ∃ xs lead indent name nested zs, ys = xs ++ .included lead indent name nested :: zs ∧
      k = (assemble place xs).inclusions.length := by
  induction ys generalizing place k with
  | nil => simp [assemble, ProgramPart.empty] at h
  | cons y rest ih =>
    change ((y.part place).inclusions ++ (assemble _ rest).inclusions)[k]? = _ at h
    by_cases head : k < (y.part place).inclusions.length
    · cases y with
      | own instruction => simp [LineYield.part, ProgramPart.one] at head
      | included lead indent name nested =>
        rw [LineYield.part_included, List.length_singleton] at head
        exact ⟨[], lead, indent, name, nested, rest, rfl, by simp [assemble, ProgramPart.empty]; omega⟩
    · rw [List.getElem?_append_right (by omega)] at h
      obtain ⟨xs, lead, indent, name, nested, zs, rfl, index⟩ := ih _ h
      refine ⟨y :: xs, lead, indent, name, nested, zs, rfl, ?_⟩
      have length : (assemble place (y :: xs)).inclusions.length = (y.part place).inclusions.length +
          (assemble (place.after (y.part place)) xs).inclusions.length := List.length_append
      omega

theorem LineYield.block_of_mem_part {place : ProgramPlace} {y : LineYield} {record : Inclusion Program}
    (member : record ∈ (y.part place).inclusions) :
    place.instruction ≤ record.firstIndex ∧
      record.firstIndex + record.program.ownLength ≤ (place.after (y.part place)).instruction := by
  cases y with
  | own instruction => simp [part, ProgramPart.one] at member
  | included lead indent name nested =>
    rw [ProgramPlace.after, part_included] at *
    rw [List.mem_singleton.1 member]
    simp only [List.length_append, List.length_singleton, nested.length_spliced]
    omega

theorem assemble_firstIndex_ge {place : ProgramPlace} {ys : List LineYield} {record : Inclusion Program}
    (member : record ∈ (assemble place ys).inclusions) : place.instruction ≤ record.firstIndex := by
  induction ys generalizing place with
  | nil => simp [assemble, ProgramPart.empty] at member
  | cons y rest ih =>
    rcases List.mem_append.1 member with here | later
    · exact (LineYield.block_of_mem_part here).1
    · have := ih later
      simp only [ProgramPlace.after] at this
      omega

theorem pairwise_blocks (place : ProgramPlace) (ys : List LineYield) :
    (assemble place ys).inclusions.Pairwise fun a b =>
      a.firstIndex + (a.program.ownLength : Int) ≤ b.firstIndex := by
  induction ys generalizing place with
  | nil => exact .nil
  | cons y rest ih =>
    refine List.pairwise_append.2 ⟨?_, ih _, fun a here b later => ?_⟩
    · cases y with
      | own instruction => exact .nil
      | included lead indent name nested =>
        rw [LineYield.part_included]
        exact List.pairwise_singleton _ _
    · exact Int.le_trans (LineYield.block_of_mem_part here).2 (assemble_firstIndex_ge later)

namespace Program

variable {name template : Text} {ys : List LineYield}

theorem text_of_splitLines (template : Text) :
    Text.join [newline] (splitLines template) ++
      (if (template.getLast? == some 0x0A) = true then [newline] else []) = template := by
  by_cases ends : template.getLast? = some newline
  · have flag : (template.getLast? == some 0x0A) = true := beq_iff_eq.2 ends
    rw [if_pos flag]
    exact terminated_splitLines template ends
  · have open' : ¬template.getLast? = some 0x0A := ends
    have flag : ¬(template.getLast? == some 0x0A) = true := fun h => open' (beq_iff_eq.1 h)
    rw [if_neg flag, List.append_nil, splitLines, if_neg open']
    exact Text.join_splitOn newline template

theorem ofYields_lines (length : ys.length = (splitLines template).length) :
    ∃ numbers : List Nat,
      (ofYields name template ys).sourceMap.map (Origin.lineIn (ofYields name template ys).inclusions) =
        numbers.map (fun n : Nat => some (n : Int)) ∧
      numbers.Pairwise (· ≤ ·) ∧ ∀ n, n ∈ numbers ↔ 1 ≤ n ∧ n ≤ (splitLines template).length := by
  have some_line : 0 < (splitLines template).length := List.length_pos_iff.2 (splitLines_ne_nil template)
  have lines := assemble_lineIn ⟨1, 0, 0⟩ ys [] [] rfl
  rw [List.nil_append, List.append_nil] at lines
  rw [ofYields_sourceMap, ofYields_inclusions, List.map_append, lines]
  split
  · refine ⟨lineNumbers 1 ys ++ [(splitLines template).length], ?_, ?_, fun n => ?_⟩
    · rw [List.map_append]
      rfl
    · refine List.pairwise_append.2 ⟨pairwise_lineNumbers 1 ys, List.pairwise_singleton _ _, ?_⟩
      intro a inside b last
      have bounds := (mem_lineNumbers_iff 1 a ys).1 inside
      rw [List.mem_singleton.1 last]
      omega
    · rw [List.mem_append, mem_lineNumbers_iff, List.mem_singleton]
      omega
  · refine ⟨lineNumbers 1 ys, by simp, pairwise_lineNumbers 1 ys, fun n => ?_⟩
    rw [mem_lineNumbers_iff]
    omega

theorem ofYields_record {k : Nat} {record : Inclusion Program}
    (h : (ofYields name template ys).inclusions[k]? = some record) :
    ∃ xs lead indent inner nested zs, ys = xs ++ .included lead indent inner nested :: zs ∧
      k = (ProgramPlace.behind xs).inclusion ∧
      record = ⟨inner, nested, (ProgramPlace.behind xs).line, ((ProgramPlace.behind xs).instruction +
        (LineYield.opening lead indent inner).length : Nat)⟩ := by
  have known := h
  rw [ofYields_inclusions] at h
  obtain ⟨xs, lead, indent, inner, nested, zs, rfl, rfl⟩ := exists_line_of_inclusion _ h
  have same := inclusion_of_line name template xs zs lead indent inner nested
  exact ⟨xs, lead, indent, inner, nested, zs, rfl, rfl, Option.some.inj (known.symm.trans same)⟩

theorem ofYields_block {k : Nat} {record : Inclusion Program}
    (h : (ofYields name template ys).inclusions[k]? = some record) :
    ∃ first : Nat, record.firstIndex = first ∧
      ∀ i, first ≤ i → i < first + record.program.spliced.length →
        (ofYields name template ys).sourceMap[i]? = some (.included record.name k) := by
  obtain ⟨xs, lead, indent, inner, nested, zs, rfl, rfl, rfl⟩ := ofYields_record h
  refine ⟨_, rfl, fun i from_first before_end => ?_⟩
  dsimp only [ProgramPlace.behind] at from_first before_end ⊢
  obtain ⟨r, rfl⟩ : ∃ r, i = (xs.flatMap LineYield.instructions).length +
      ((LineYield.opening lead indent inner).length + r) := by
    refine ⟨i - (xs.flatMap LineYield.instructions).length -
      (LineYield.opening lead indent inner).length, by omega⟩
  rw [origin_of_line, LineYield.origin_of_spliced _ _ _ _ _ (by omega)]
  · rfl
  · rw [LineYield.instructions_included, List.length_append, List.length_append]
    omega

theorem mapped_of_included {i k : Nat} {inner : Text} {record : Inclusion Program}
    (origin : (ofYields name template ys).sourceMap[i]? = some (.included inner k))
    (found : (ofYields name template ys).inclusions[k]? = some record) :
    ∃ (first : Nat) (instruction : Instruction), record.firstIndex = first ∧ first ≤ i ∧
      (ofYields name template ys).instructions[i]? = some instruction ∧
      record.program.spliced[i - first]? = some instruction := by
  have inside := (List.getElem?_eq_some_iff.1 origin).1
  rw [ofYields_sourceMap_length] at inside
  have at_i := List.getElem?_eq_getElem inside
  cases ofYields_mapped at_i with
  | line position origin' => cases origin'.symm.trans origin
  | terminator ends last empty origin' => cases origin'.symm.trans origin
  | @included n k' first r lead indent inner' nested position origin' record' index spliced =>
    obtain rfl : k' = k := by
      have same := Option.some.inj (origin'.symm.trans origin)
      simp only [Origin.included.injEq] at same
      omega
    obtain rfl := Option.some.inj (record'.symm.trans found)
    refine ⟨first, _, rfl, by omega, at_i, ?_⟩
    rwa [show i - first = r by omega]

theorem ofYields_covers (length : ys.length = (splitLines template).length)
    (nested : ∀ lead indent inner q, LineYield.included lead indent inner q ∈ ys → 1 ≤ q.ownLength) :
    (ofYields name template ys).Covers template where
  text := text_of_splitLines template
  origins := ofYields_sourceMap_length name template ys
  lines := ofYields_lines length
  blocks k record h := by
    obtain ⟨first, index, origins⟩ := ofYields_block h
    rw [length_spliced] at origins
    have mapped (i : Nat) (inner : Text)
        (origin : (ofYields name template ys).sourceMap[i]? = some (.included inner k)) :
        first ≤ i ∧ ∃ instruction, (ofYields name template ys).instructions[i]? = some instruction ∧
          record.program.spliced[i - first]? = some instruction := by
      obtain ⟨first', instruction, index', reached, at_i, spliced⟩ := mapped_of_included origin h
      obtain rfl : first = first' := Int.ofNat.inj (index.symm.trans index')
      exact ⟨reached, instruction, at_i, spliced⟩
    refine ⟨first, index, ?_, fun i => ⟨?_, ?_⟩, fun i from_first before_end => ?_⟩
    · obtain ⟨xs, lead, indent, inner, q, zs, rfl, -, rfl⟩ := ofYields_record h
      exact nested lead indent inner q (List.mem_append_right xs List.mem_cons_self)
    · rintro ⟨inner, origin⟩
      obtain ⟨reached, _, -, spliced⟩ := mapped i inner origin
      have short := (List.getElem?_eq_some_iff.1 spliced).1
      rw [length_spliced] at short
      omega
    · rintro ⟨from_first, before_end⟩
      exact ⟨_, origins i from_first before_end⟩
    · obtain ⟨-, instruction, at_i, spliced⟩ := mapped i _ (origins i from_first before_end)
      exact ⟨instruction, at_i, (record.program.spliced_getElem? _ _ spliced).1⟩
  order := by
    rw [ofYields_inclusions]
    exact pairwise_blocks _ ys

end Program

namespace Expansion

theorem expandTo_ownLength_pos {depth : Nat} {context : ExpansionContext} {template : Text}
    {program : Program} (h : expandTo depth context template = .ok program) : 1 ≤ program.ownLength := by
  obtain ⟨_, ys, -, all, rfl⟩ := exists_yields h
  obtain ⟨line, first⟩ := List.exists_mem_of_ne_nil _ (splitLines_ne_nil template)
  obtain ⟨y, member, -⟩ := forall₂_exists_of_mem all.flip first
  rw [← Program.length_spliced, Program.ofYields_spliced]
  exact List.length_pos_of_mem
    (List.mem_flatMap.2 ⟨y, member, List.getElem_mem y.length_instructions_pos⟩)

theorem expandTo_covers {depth : Nat} {context : ExpansionContext} {template : Text}
    {program : Program} (h : expandTo depth context template = .ok program) :
    program.Covers template := by
  obtain ⟨_, ys, -, all, rfl⟩ := exists_yields h
  refine Program.ofYields_covers all.length_eq.symm fun lead indent inner q member => ?_
  obtain ⟨_, -, yields⟩ := forall₂_exists_of_mem all member
  cases yields with
  | included _ _ _ expanded => exact expandTo_ownLength_pos expanded

theorem expandTo_record {depth : Nat} {context : ExpansionContext} {template : Text}
    {program : Program} (h : expandTo depth context template = .ok program)
    {record : Inclusion Program} (member : record ∈ program.inclusions) :
    ∃ depth' inner source, context.included.get? record.name = some source ∧
      inner.included = context.included ∧ inner.name = record.name ∧
      expandTo depth' inner source = .ok record.program := by
  obtain ⟨below, ys, -, all, rfl⟩ := exists_yields h
  obtain ⟨k, at_k⟩ := List.getElem?_of_mem member
  obtain ⟨xs, lead, indent, inner, q, zs, rfl, -, rfl⟩ := Program.ofYields_record at_k
  obtain ⟨_, -, yields⟩ :=
    forall₂_exists_of_mem all (List.mem_append_right xs List.mem_cons_self)
  cases yields with
  | included _ found _ expanded => exact ⟨below, context.enter _ inner, _, found, rfl, rfl, expanded⟩

theorem expandTo_within {depth : Nat} {context : ExpansionContext} {template : Text}
    {program q : Program} (h : expandTo depth context template = .ok program)
    (within : program.Within q) :
    ∃ depth' inner source, inner.included = context.included ∧
      expandTo depth' inner source = .ok q := by
  induction within with
  | self => exact ⟨depth, context, template, rfl, h⟩
  | inside _ member ih =>
    obtain ⟨_, _, _, same, expanded⟩ := ih
    obtain ⟨depth', inner, source, -, same', -, expanded'⟩ := expandTo_record expanded member
    exact ⟨depth', inner, source, same'.trans same, expanded'⟩

end Expansion

/-- An expanded program, and every program inside it, loses no line of its template, repeats none and keeps
their order, and holds the instructions of each template that it includes in a block of their own. -/
theorem expand_covers {columns : Nat} {style : DelimiterStyle} {included : Members Text}
    {template : Text} {program : Program} (h : expand columns style included template = .ok program) :
    program.Covers template ∧
    ∀ q, program.Within q → ∀ record ∈ q.inclusions,
      ∃ source, included.get? record.name = some source ∧ record.program.name = record.name ∧
        record.program.Covers source := by
  refine ⟨Expansion.expandTo_covers h, fun q within record member => ?_⟩
  obtain ⟨_, inner, _, same, expanded⟩ := Expansion.expandTo_within h within
  obtain ⟨_, _, source, found, -, name, expanded'⟩ := Expansion.expandTo_record expanded member
  rw [same] at found
  exact ⟨source, found, (Expansion.expandTo_name _ _ _ _ expanded').trans name,
    Expansion.expandTo_covers expanded'⟩

/-- A template two inclusions down, behind a line of halved backslashes. -/
theorem expand_covers_nested :
    let included : Members Text := [("inner", "\\\\$<leaf>\n@b"), ("leaf", "@c\n@d\n")]
    let template : Text := "@a\n $<inner>\n$<leaf>\n"
    ∃ program, expand 1 .standard included template = .ok program ∧ program.Covers template ∧
      ∃ record ∈ program.inclusions, ∃ deeper ∈ record.program.inclusions,
        deeper.name = ("leaf" : Text) ∧ deeper.program.Covers "@c\n@d\n" := by
  intro included template
  obtain ⟨program, expanded, record, first, deeper, second, name⟩ :
      ∃ program, expand 1 .standard included template = .ok program ∧
        ∃ record, program.inclusions[0]? = some record ∧
          ∃ deeper, record.program.inclusions[0]? = some deeper ∧ deeper.name = ("leaf" : Text) :=
    ⟨_, rfl, _, rfl, _, rfl, rfl⟩
  obtain ⟨covers, inside⟩ := expand_covers expanded
  have member := List.mem_of_getElem? first
  have deeper_member := List.mem_of_getElem? second
  refine ⟨program, expanded, covers, record, member, deeper, deeper_member, name, ?_⟩
  obtain ⟨source, found, -, covers'⟩ := inside _ (.inside .self member) deeper deeper_member
  rw [name] at found
  obtain rfl : ("@c\n@d\n" : Text) = source := Option.some.inj found
  exact covers'

end LineTemplate

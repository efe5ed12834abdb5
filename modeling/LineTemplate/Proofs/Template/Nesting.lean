import LineTemplate.Proofs.Template.Indentation
import LineTemplate.Proofs.Template.SourceMap

/-!
Markers and the source map. The markers of a program open and close like parentheses, and the names that
are open at an instruction are the names that its trace goes through: both tell which templates it was
included by.
-/

set_option autoImplicit false

namespace LineTemplate

/-- What an instruction makes of the names that are open, innermost first. A closing marker has to name the
innermost of them. -/
def Instruction.nest : List Text → Instruction → Option (List Text)
  | stack, .marker .opening name => some (name :: stack)
  | top :: rest, .marker .closing name => if top = name then some rest else none
  | [], .marker .closing _ => none
  | stack, _ => some stack

/-- The names that are open after instructions, unless a closing marker does not match. -/
def openAfter (stack : List Text) (instructions : List Instruction) : Option (List Text) :=
  instructions.foldlM Instruction.nest stack

theorem openAfter_append (stack : List Text) (xs ys : List Instruction) :
    openAfter stack (xs ++ ys) = (openAfter stack xs).bind fun inner => openAfter inner ys :=
  List.foldlM_append

theorem Instruction.nest_of_not_isMarker (stack : List Text) {i : Instruction} (h : i.isMarker = false) :
    i.nest stack = some stack := by
  cases i with
  | marker => simp [isMarker] at h
  | literal | fields | list | statement => cases stack <;> rfl

theorem openAfter_of_not_isMarker (stack : List Text) {instructions : List Instruction}
    (h : ∀ i ∈ instructions, i.isMarker = false) : openAfter stack instructions = some stack := by
  induction instructions with
  | nil => rfl
  | cons i rest ih =>
    have first := Instruction.nest_of_not_isMarker stack (h i List.mem_cons_self)
    change (i.nest stack).bind (fun inner => openAfter inner rest) = _
    rw [first]
    exact ih fun j inside => h j (List.mem_cons_of_mem i inside)

theorem Instruction.nest_append {stack inner : List Text} {i : Instruction}
    (h : i.nest stack = some inner) (outer : List Text) :
    i.nest (stack ++ outer) = some (inner ++ outer) := by
  by_cases marker : i.isMarker = false
  · rw [nest_of_not_isMarker stack marker] at h
    cases h
    exact nest_of_not_isMarker _ marker
  · cases i with
    | literal | fields | list | statement => exact absurd rfl marker
    | marker boundary name =>
      cases boundary with
      | opening =>
        cases h
        rfl
      | closing =>
        cases stack with
        | nil => simp [nest] at h
        | cons top rest =>
          simp only [nest, List.cons_append] at h ⊢
          split at h
          · cases h
            rw [if_pos ‹_›]
          · cases h

theorem openAfter_under {stack inner : List Text} {instructions : List Instruction}
    (h : openAfter stack instructions = some inner) (outer : List Text) :
    openAfter (stack ++ outer) instructions = some (inner ++ outer) := by
  induction instructions generalizing stack with
  | nil =>
    cases h
    rfl
  | cons i rest ih =>
    obtain ⟨between, first, others⟩ := Option.bind_eq_some_iff.1 h
    change (i.nest (stack ++ outer)).bind (fun inner => openAfter inner rest) = _
    rw [Instruction.nest_append first outer]
    exact ih others

/-- Instructions that close every name that they open, and no other. -/
def Balanced (instructions : List Instruction) : Prop := openAfter [] instructions = some []

namespace Balanced

variable {xs ys : List Instruction}

theorem openAfter_eq (h : Balanced xs) (stack : List Text) : openAfter stack xs = some stack :=
  openAfter_under h stack

theorem append (h : Balanced xs) (h' : Balanced ys) : Balanced (xs ++ ys) := by
  unfold Balanced
  rw [openAfter_append, h.openAfter_eq]
  exact h'

theorem flatMap {α : Type} {f : α → List Instruction} {as : List α} (h : ∀ a ∈ as, Balanced (f a)) :
    Balanced (as.flatMap f) := by
  induction as with
  | nil => rfl
  | cons a rest ih =>
    rw [List.flatMap_cons]
    exact (h a List.mem_cons_self).append (ih fun b inside => h b (List.mem_cons_of_mem a inside))

theorem of_not_isMarker (h : ∀ i ∈ xs, i.isMarker = false) : Balanced xs :=
  openAfter_of_not_isMarker [] h

theorem enclosed (h : Balanced xs) (name : Text) :
    Balanced (.marker .opening name :: xs ++ [.marker .closing name]) := by
  have closes : Instruction.nest [name] (.marker .closing name) = some [] := if_pos rfl
  change openAfter [name] (xs ++ [.marker .closing name]) = some []
  rw [openAfter_append, h.openAfter_eq]
  change (Instruction.nest [name] (.marker .closing name)).bind (fun inner => openAfter inner []) = _
  rw [closes]
  rfl

end Balanced

theorem Line.isMarker_of_plain {style : DelimiterStyle} {columns : Nat} {line : Text}
    (plain : inclusion? line = none) : ∀ i ∈ instructions style columns line, i.isMarker = false := by
  unfold inclusion? at plain
  unfold instructions
  intro i inside
  cases kind : classify line with
  | statement code =>
    rw [kind] at inside
    rw [List.mem_singleton.1 inside]
    rfl
  | text content =>
    simp only [kind] at inside
    split at inside <;> rw [List.mem_singleton.1 inside] <;> rfl
  | list blanks run expression trailing =>
    simp only [kind] at inside
    split at inside
    · rw [List.mem_singleton.1 inside]
      rfl
    · split at inside <;> rw [List.mem_singleton.1 inside] <;> rfl
  | inclusion blanks run name trailing =>
    simp only [kind, ite_eq_left_iff, reduceCtorEq, imp_false, Decidable.not_not] at plain
    simp only [kind, plain, if_true] at inside
    rw [List.mem_singleton.1 inside]
    rfl

theorem LineYield.isMarker_of_mem_before {lead indent : Text} :
    ∀ i ∈ before lead indent, i.isMarker = false := by
  unfold before
  split
  · simp
  · intro i inside
    rw [List.mem_singleton.1 inside]
    rfl

theorem traceInstruction_head (program : Program) (index codeLine : Int) (indent : Text) :
    ∀ l ∈ (traceInstruction program index codeLine indent).location.head?, l.template = program.name := by
  intro l first
  rw [traceInstruction] at first
  split at first
  · simp at first
  · obtain rfl : _ = l := by simpa using first
    rfl
  · split at first
    · simp at first
    · dsimp only at first
      split at first
      · simp at first
      · obtain rfl : _ = l := by simpa using first
        rfl

/-- The templates that a trace goes through below the first, outermost first. -/
def Trace.inner (trace : Trace) : List Text := trace.location.tail.map SourceLocation.template

/-- The trace of an instruction in the block of an included template goes on in that template. -/
theorem traceInstruction_inner {p nested : Program} {name : Text} {i k first r : Nat} {number : Int}
    (codeLine : Int) (indent : Text) (origin : p.sourceMap[i]? = some (.included name k))
    (record : p.inclusions[k]? = some ⟨name, nested, number, first⟩) (index : i = first + r)
    (named : nested.name = name)
    (resolved : (traceInstruction nested r codeLine (indent ++ ("  " : Text))).location ≠ []) :
    (traceInstruction p i codeLine indent).inner =
      name :: (traceInstruction nested r codeLine (indent ++ ("  " : Text))).inner := by
  have trace := traceInstruction_of_block codeLine indent origin record index resolved
  have head := traceInstruction_head nested r codeLine (indent ++ ("  " : Text))
  rw [Trace.inner, Trace.inner, trace]
  cases location : (traceInstruction nested r codeLine (indent ++ ("  " : Text))).location with
  | nil => exact absurd location resolved
  | cons l rest =>
    have same : l.template = name := (head l (by simp [location])).trans named
    simp [same]

namespace Expansion

theorem expandTo_location_ne_nil {depth : Nat} {context : ExpansionContext} {template : Text}
    {program : Program} (h : expandTo depth context template = .ok program) {r : Nat}
    {instruction : Instruction} (codeLine : Int) (indent : Text)
    (spliced : program.spliced[r]? = some instruction) :
    (traceInstruction program r codeLine indent).location ≠ [] := by
  have at_r := (Program.spliced_getElem? _ _ _ spliced).1
  rcases expandTo_traced _ _ _ _ h r instruction codeLine indent at_r with origin | ⟨-, last⟩
  · exact origin.chain_ne_nil
  · simp [last]

theorem Yields.balanced_of_nested {depth : Nat} {context : ExpansionContext} {line : Text} {y : LineYield}
    (h : Yields context (expandTo depth) line y)
    (nested : ∀ context template program, expandTo depth context template = .ok program →
      Balanced program.spliced) : Balanced y.instructions := by
  cases h with
  | own plain alone =>
    have none := @Line.isMarker_of_plain context.style context.columns line plain
    rw [alone] at none
    exact .of_not_isMarker none
  | included kind found fresh expanded =>
    rw [LineYield.instructions, List.append_assoc]
    exact (Balanced.of_not_isMarker LineYield.isMarker_of_mem_before).append
      ((nested _ _ _ expanded).enclosed _)

theorem expandTo_spliced_balanced {depth : Nat} {context : ExpansionContext} {template : Text}
    {program : Program} (h : expandTo depth context template = .ok program) :
    Balanced program.spliced := by
  induction depth generalizing context template program with
  | zero => exact absurd h (expandTo_zero_ne_ok _ _ _)
  | succ depth ih =>
    obtain ⟨ys, all, rfl⟩ := (expandTo_succ_eq_ok_iff _ _ _ _).1 h
    rw [Program.ofYields_spliced]
    refine .flatMap fun y inside => ?_
    obtain ⟨line, -, yields⟩ := forall₂_exists_of_mem all inside
    exact yields.balanced_of_nested fun _ _ _ => ih

theorem Yields.balanced {depth : Nat} {context : ExpansionContext} {line : Text} {y : LineYield}
    (h : Yields context (expandTo depth) line y) : Balanced y.instructions :=
  h.balanced_of_nested fun _ _ _ => expandTo_spliced_balanced

end Expansion

theorem LineYield.openAfter_opening (lead indent name : Text) :
    openAfter [] (opening lead indent name) = some [name] := by
  rw [opening, openAfter_append, openAfter_of_not_isMarker [] isMarker_of_mem_before]
  rfl

theorem LineYield.balanced_take_opening {lead indent name : Text} {m : Nat}
    (inside : m < (opening lead indent name).length) : Balanced ((opening lead indent name).take m) := by
  rw [opening, List.length_append, List.length_singleton] at inside
  rw [opening, List.take_append_of_le_length (by omega)]
  exact .of_not_isMarker fun i member => isMarker_of_mem_before i (List.mem_of_mem_take member)

/-- Where an instruction of a program stands: in no block of an included template, or in the block of one,
whose name is then the outermost of those that are open. -/
inductive Stands (p : Program) (ys : List LineYield) (i : Nat) (instruction : Instruction) : Prop
  | outside {number : Int} (origin : p.sourceMap[i]? = some (.line number))
      (names : openAfter [] (p.instructions.take i) = some [])
  | inside {lead indent name : Text} {nested : Program} {k first r : Nat} {number : Int}
      (line : LineYield.included lead indent name nested ∈ ys)
      (origin : p.sourceMap[i]? = some (.included name k))
      (record : p.inclusions[k]? = some ⟨name, nested, number, first⟩) (index : i = first + r)
      (spliced : nested.spliced[r]? = some instruction)
      (names : ∀ inner, openAfter [] (nested.instructions.take r) = some inner →
        openAfter [] (p.instructions.take i) = some (inner ++ [name]))

section

variable {name template : Text} {ys : List LineYield} {instruction : Instruction}

theorem LineYield.stands {xs zs : List LineYield} {y : LineYield} {m : Nat}
    (before : Balanced (xs.flatMap instructions)) (at_m : y.instructions[m]? = some instruction)
    (plain : instruction.isMarker = false) :
    Stands (.ofYields name template (xs ++ y :: zs)) (xs ++ y :: zs)
      ((xs.flatMap instructions).length + m) instruction := by
  have inside_line := (List.getElem?_eq_some_iff.1 at_m).1
  have taken : (Program.ofYields name template (xs ++ y :: zs)).instructions.take
      ((xs.flatMap instructions).length + m) = xs.flatMap instructions ++ y.instructions.take m := by
    rw [Program.ofYields_instructions, List.flatMap_append, List.flatMap_cons, List.append_assoc,
      List.append_assoc, List.take_length_add_append, List.take_append_of_le_length (by omega)]
  have origin := Program.origin_of_line name template xs y zs inside_line
  cases y with
  | own own =>
    obtain rfl : m = 0 := by
      simp only [instructions, List.length_singleton] at inside_line
      omega
    refine .outside origin ?_
    rw [taken]
    exact before.append rfl
  | included lead indent inner nested =>
    rw [instructions_included] at at_m inside_line taken
    by_cases opens : m < (opening lead indent inner).length
    · rw [origin_of_opening _ _ _ _ _ opens] at origin
      refine .outside origin ?_
      rw [taken, List.take_append_of_le_length (by omega)]
      exact before.append (balanced_take_opening opens)
    · obtain ⟨r, rfl⟩ : ∃ r, m = (opening lead indent inner).length + r :=
        ⟨m - (opening lead indent inner).length, by omega⟩
      rw [List.getElem?_append_right (by omega), Nat.add_sub_cancel_left] at at_m
      by_cases body : r < nested.spliced.length
      · rw [List.getElem?_append_left body] at at_m
        rw [origin_of_spliced _ _ _ _ _ body] at origin
        refine .inside (List.mem_append_right xs List.mem_cons_self) origin
          (Program.inclusion_of_line name template xs zs lead indent inner nested)
          (Nat.add_assoc _ _ _).symm at_m fun names closed => ?_
        rw [taken, List.take_length_add_append, List.take_append_of_le_length (by omega),
          Program.take_spliced _ (by omega), openAfter_append, before, Option.bind_some,
          openAfter_append, openAfter_opening, Option.bind_some]
        exact openAfter_under closed [inner]
      · -- Behind the block there is only the closing marker.
        rw [List.getElem?_append_right (by omega)] at at_m
        have marker := List.mem_singleton.1 (List.mem_of_getElem? at_m)
        simp [marker, Instruction.isMarker] at plain

theorem Program.ofYields_stands {i : Nat} (balanced : ∀ y ∈ ys, Balanced y.instructions)
    (at_i : (ofYields name template ys).instructions[i]? = some instruction)
    (plain : instruction.isMarker = false) :
    Stands (ofYields name template ys) ys i instruction := by
  rcases exists_line_or_last at_i with ⟨xs, y, zs, m, rfl, rfl, at_m⟩ | ⟨ends, rfl, rfl⟩
  · exact LineYield.stands (.flatMap fun x member => balanced x (List.mem_append_left _ member)) at_m plain
  · refine .outside (origin_of_terminator name template ys ends) ?_
    rw [ofYields_instructions, List.take_left]
    exact Balanced.flatMap balanced

end

namespace Expansion

theorem expandTo_openAfter {depth : Nat} {context : ExpansionContext} {template : Text}
    {program : Program} (h : expandTo depth context template = .ok program) {i : Nat}
    {instruction : Instruction} (codeLine : Int) (indent : Text)
    (at_i : program.instructions[i]? = some instruction) (plain : instruction.isMarker = false) :
    openAfter [] (program.instructions.take i) =
      some (traceInstruction program i codeLine indent).inner.reverse := by
  induction depth generalizing context template program i indent with
  | zero => exact absurd h (expandTo_zero_ne_ok _ _ _)
  | succ depth ih =>
    obtain ⟨ys, all, rfl⟩ := (expandTo_succ_eq_ok_iff _ _ _ _).1 h
    have balanced (y : LineYield) (member : y ∈ ys) : Balanced y.instructions := by
      obtain ⟨_, -, yields⟩ := forall₂_exists_of_mem all member
      exact yields.balanced
    cases Program.ofYields_stands balanced at_i plain with
    | outside origin names =>
      rw [← elementAt?_natCast] at origin
      rw [Trace.inner, traceInstruction_of_line _ _ _ _ _ origin]
      exact names
    | @inside _ _ name nested k first r number line origin record index spliced names =>
      obtain ⟨_, -, yields⟩ := forall₂_exists_of_mem all line
      cases yields with
      | included kind found fresh expanded =>
        have at_r := (Program.spliced_getElem? _ _ _ spliced).1
        have resolved := expandTo_location_ne_nil expanded codeLine (indent ++ ("  " : Text)) spliced
        rw [names _ (ih expanded (indent ++ ("  " : Text)) at_r), traceInstruction_inner codeLine indent
          origin record index (expandTo_name _ _ _ _ expanded) resolved, List.reverse_cons]

end Expansion

/-- Markers and the source map of an expanded program tell the same story: every marker that closes names
the innermost template that is open, none stays open, and the templates that are open at an instruction are
those that its trace goes through. -/
theorem expand_openAfter {columns : Nat} {style : DelimiterStyle} {included : Members Text}
    {template : Text} {program : Program} (h : expand columns style included template = .ok program) :
    openAfter [] program.instructions = some [] ∧
    ∀ (i : Nat) (instruction : Instruction) (codeLine : Int) (indent : Text),
      program.instructions[i]? = some instruction → instruction.isMarker = false →
        ∃ names, openAfter [] (program.instructions.take i) = some names ∧
          names.reverse =
            (traceInstruction program i codeLine indent).location.tail.map SourceLocation.template := by
  refine ⟨?_, fun i instruction codeLine indent at_i plain => ?_⟩
  · have balanced := Expansion.expandTo_spliced_balanced h
    obtain ⟨ys, -, rfl⟩ := (Expansion.expandTo_succ_eq_ok_iff _ _ _ _).1 h
    rw [Program.ofYields_spliced] at balanced
    rw [Program.ofYields_instructions]
    refine balanced.append ?_
    split <;> rfl
  · refine ⟨_, Expansion.expandTo_openAfter h codeLine indent at_i plain, ?_⟩
    rw [List.reverse_reverse]
    rfl

/-- An inclusion on the first line of an included template, of a template that is included again later. -/
theorem expand_openAfter_twice :
    let included : Members Text := [("inner", "\\\\$<leaf>\n@b"), ("leaf", "@c\n")]
    ∃ program, expand 1 .standard included "@a\n $<inner>\n$<leaf>" = .ok program ∧
      openAfter [] program.instructions = some [] ∧
      openAfter [] (program.instructions.take 4) = some [("leaf" : Text), ("inner" : Text)] ∧
      (traceInstruction program 4 6 []).location.tail.map SourceLocation.template =
        ["inner", "leaf"] := by
  intro included
  have expanded : expand 1 .standard included "@a\n $<inner>\n$<leaf>" = .ok _ := rfl
  obtain ⟨balanced, at_index⟩ := expand_openAfter expanded
  obtain ⟨names, names_at, trace⟩ := at_index 4 (.statement "c") 6 [] rfl rfl
  obtain rfl : [("leaf" : Text), ("inner" : Text)] = names := Option.some.inj (Eq.trans (by rfl) names_at)
  exact ⟨_, expanded, balanced, names_at, trace.symm⟩

end LineTemplate

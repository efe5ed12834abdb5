import LineTemplate.Proofs.Template.Assembly
import LineTemplate.Proofs.Template.Outcome

/-!
Templates one behind the other. The program of a template whose lines come behind those of another one is
the program of the first without its terminator, followed by the program of the second; only the numbers by
which the second refers to lines, inclusions and instructions are larger. An error of either template is
the error of both together, with a larger line number if it is a line of the second template that offends.
-/

set_option autoImplicit false

namespace LineTemplate

attribute [ext] Program

/-- An origin in a program that has this many lines and inclusions more in front of it. -/
def Origin.relocated (lines inclusions : Nat) : Origin → Origin
  | .line number => .line (number + lines)
  | .included name inclusion => .included name (inclusion + inclusions)

/-- An inclusion in a program that has this many lines and instructions more in front of it. -/
def Inclusion.relocated {P : Type} (lines instructions : Nat) (i : Inclusion P) : Inclusion P :=
  { i with atLine := i.atLine + lines, firstIndex := i.firstIndex + instructions }

/-- An error in a template that has this many lines more in front of the line that offends. -/
def ExpansionError.relocated (lines : Nat) : ExpansionError → ExpansionError
  | .unresolved name includer line => .unresolved name includer (line + lines)
  | .cycle chain => .cycle chain

/-- Two programs as one. The first loses its last instruction, and the second comes behind the rest. -/
def Program.followedBy (a b : Program) : Program where
  name := a.name
  sourceLines := a.sourceLines ++ b.sourceLines
  instructions := a.instructions.dropLast ++ b.instructions
  sourceMap := a.sourceMap.dropLast ++
    b.sourceMap.map (Origin.relocated a.sourceLines.length a.inclusions.length)
  inclusions := a.inclusions ++
    b.inclusions.map (Inclusion.relocated a.sourceLines.length (a.instructions.length - 1))
  endsWithNewline := b.endsWithNewline

def ProgramPlace.relocated (place front : ProgramPlace) : ProgramPlace :=
  ⟨place.line + front.line, place.instruction + front.instruction, place.inclusion + front.inclusion⟩

def ProgramPart.relocated (part : ProgramPart) (front : ProgramPlace) : ProgramPart :=
  ⟨part.instructions, part.origins.map (Origin.relocated front.line front.inclusion),
    part.inclusions.map (Inclusion.relocated front.line front.instruction)⟩

theorem ProgramPart.relocated_append (a b : ProgramPart) (front : ProgramPlace) :
    (a ++ b).relocated front = a.relocated front ++ b.relocated front := by
  change ProgramPart.mk _ (List.map _ (_ ++ _)) (List.map _ (_ ++ _)) = ProgramPart.mk _ _ _
  rw [List.map_append, List.map_append]
  rfl

theorem LineYield.part_relocated (place front : ProgramPlace) (y : LineYield) :
    y.part (place.relocated front) = (y.part place).relocated front := by
  cases y with
  | own instruction => rfl
  | included lead indent name nested =>
    have before : place.instruction + front.instruction + (opening lead indent name).length =
        place.instruction + (opening lead indent name).length + front.instruction := by omega
    simp [part_included, ProgramPlace.relocated, ProgramPart.relocated, Origin.relocated,
      Inclusion.relocated, before]

theorem ProgramPlace.after_relocated (place front : ProgramPlace) (part : ProgramPart) :
    (place.relocated front).after (part.relocated front) = (place.after part).relocated front := by
  unfold after relocated ProgramPart.relocated
  rw [ProgramPlace.mk.injEq, List.length_map]
  exact ⟨by dsimp only; omega, by dsimp only; omega, by dsimp only; omega⟩

theorem assemble_relocated (place front : ProgramPlace) (ys : List LineYield) :
    assemble (place.relocated front) ys = (assemble place ys).relocated front := by
  induction ys generalizing place with
  | nil => rfl
  | cons y rest ih =>
    change y.part _ ++ assemble _ rest = ProgramPart.relocated (y.part place ++ assemble _ rest) front
    rw [ProgramPart.relocated_append, LineYield.part_relocated, ProgramPlace.after_relocated, ih]

namespace Program

theorem ofYields_sourceLines (name template : Text) (ys : List LineYield) :
    (ofYields name template ys).sourceLines = splitLines template := rfl

theorem ofYields_followedBy (name first second : Text) {ys zs : List LineYield} (some : second ≠ [])
    (length : ys.length = (splitLines (first ++ [newline])).length) :
    ofYields name (first ++ newline :: second) (ys ++ zs) =
      (ofYields name (first ++ [newline]) ys).followedBy (ofYields name second zs) := by
  have first_ends : (first ++ [newline]).getLast? = Option.some 0x0A := List.getLast?_concat
  have last := getLast?_append_newline first some
  have front : (⟨1, 0, 0⟩ : ProgramPlace).past ys = (⟨1, 0, 0⟩ : ProgramPlace).relocated
      ⟨ys.length, (assemble ⟨1, 0, 0⟩ ys).instructions.length, (assemble ⟨1, 0, 0⟩ ys).inclusions.length⟩ :=
    rfl
  have whole := assemble_append ⟨1, 0, 0⟩ ys zs
  rw [front, assemble_relocated] at whole
  have instructions : (ofYields name (first ++ [newline]) ys).instructions =
      (assemble ⟨1, 0, 0⟩ ys).instructions ++ [.literal []] := by
    rw [ofYields_instructions, if_pos first_ends, assemble_instructions]
  have origins : (ofYields name (first ++ [newline]) ys).sourceMap =
      (assemble ⟨1, 0, 0⟩ ys).origins ++ [.line (splitLines (first ++ [newline])).length] := by
    rw [ofYields_sourceMap, if_pos first_ends]
  have lines := splitLines_append_newline first second some
  apply Program.ext
  · rfl
  · exact lines
  · change _ = List.dropLast _ ++ _
    rw [instructions, List.dropLast_concat, ofYields_instructions, ofYields_instructions, last,
      List.flatMap_append, assemble_instructions, List.append_assoc]
  · change _ = List.dropLast _ ++ List.map (Origin.relocated (List.length _) _) _
    rw [origins, List.dropLast_concat, ofYields_sourceMap, ofYields_sourceMap, whole, last, lines,
      ofYields_sourceLines, ← length, ofYields_inclusions, List.length_append, ← length, List.map_append,
      ← List.append_assoc]
    congr 1
    split
    · simp [Origin.relocated, Int.add_comm]
    · rfl
  · change _ = _ ++ List.map (Inclusion.relocated (List.length _) (List.length _ - 1)) _
    rw [instructions, List.length_append, List.length_singleton, Nat.add_sub_cancel,
      ofYields_sourceLines, ← length, ofYields_inclusions, ofYields_inclusions, ofYields_inclusions, whole]
    rfl
  · change (_ == _) = (_ == _)
    rw [last]

end Program

section

variable {included : Members Text} {chain : List Text}

/-- The walk over a template stops at a line of its own, which names a template that is not available. -/
def StopsAtOwnLine (included : Members Text) (template : Text) : Prop :=
  ∃ (n : Nat) (line blanks run name : Text), (splitLines template)[n]? = some line ∧
    (∀ m < n, ∀ other, (splitLines template)[m]? = some other → Passes included [] other) ∧
    Line.inclusion? line = some (blanks, run, name) ∧ included.get? name = none

theorem Stops.renumbered {includer line : Text} {number : Nat} {e : ExpansionError}
    (h : Stops included chain includer number line e) (other : Nat) :
    (∃ blanks run name, Line.inclusion? line = some (blanks, run, name) ∧ included.get? name = none ∧
        e = .unresolved name includer number ∧
        Stops included chain includer other line (.unresolved name includer other)) ∨
      (∃ blanks run name source, Line.inclusion? line = some (blanks, run, name) ∧
        included.get? name = some source ∧ Stops included chain includer other line e) := by
  cases h with
  | unresolved kind missing => exact .inl ⟨_, _, _, kind, missing, rfl, .unresolved kind missing⟩
  | cycle kind found known => exact .inr ⟨_, _, _, _, kind, found, .cycle kind found known⟩
  | inside kind found fresh position earlier stops =>
    exact .inr ⟨_, _, _, _, kind, found, .inside kind found fresh position earlier stops⟩

variable {name first second : Text} {e : ExpansionError}

theorem StopsIn.append_newline (some : second ≠ [])
    (h : StopsIn included chain name (first ++ [newline]) e) :
    StopsIn included chain name (first ++ newline :: second) e := by
  obtain ⟨n, line, position, earlier, stops⟩ := h
  have inside := (List.getElem?_eq_some_iff.1 position).1
  have lines := splitLines_append_newline first second some
  refine ⟨n, line, ?_, fun m before other at_m => ?_, stops⟩
  · rw [lines, List.getElem?_append_left inside, position]
  · rw [lines, List.getElem?_append_left (by omega)] at at_m
    exact earlier m before other at_m

theorem StopsIn.behind (some : second ≠ []) (ends : Ends included [] (first ++ [newline]))
    (h : StopsIn included [] topLevelName second e) :
    (StopsAtOwnLine included second →
        StopsIn included [] topLevelName (first ++ newline :: second)
          (e.relocated (splitLines (first ++ [newline])).length)) ∧
      (¬StopsAtOwnLine included second →
        StopsIn included [] topLevelName (first ++ newline :: second) e) := by
  obtain ⟨n, line, position, earlier, stops⟩ := h
  have lines := splitLines_append_newline first second some
  have behind (e' : ExpansionError) (stops' : Stops included [] topLevelName
      ((splitLines (first ++ [newline])).length + n + 1) line e') :
      StopsIn included [] topLevelName (first ++ newline :: second) e' := by
    refine ⟨(splitLines (first ++ [newline])).length + n, line, ?_, fun m before other at_m => ?_, stops'⟩
    · rw [lines, List.getElem?_append_right (by omega), Nat.add_sub_cancel_left, position]
    · rw [lines] at at_m
      by_cases inside : m < (splitLines (first ++ [newline])).length
      · rw [List.getElem?_append_left inside] at at_m
        exact ends other (List.mem_of_getElem? at_m)
      · rw [List.getElem?_append_right (by omega)] at at_m
        exact earlier _ (by omega) other at_m
  rcases stops.renumbered ((splitLines (first ++ [newline])).length + n + 1) with
    ⟨blanks, run, inner, kind, missing, rfl, stops'⟩ | ⟨blanks, run, inner, source, kind, found, stops'⟩
  · have own : StopsAtOwnLine included second :=
      ⟨n, line, blanks, run, inner, position, earlier, kind, missing⟩
    refine ⟨fun _ => ?_, fun other => absurd own other⟩
    have number : n + 1 + (splitLines (first ++ [newline])).length =
        (splitLines (first ++ [newline])).length + n + 1 := by omega
    rw [ExpansionError.relocated, number]
    exact behind _ stops'
  · refine ⟨fun own => ?_, fun _ => behind _ stops'⟩
    obtain ⟨n', line', blanks', run', inner', position', earlier', kind', missing'⟩ := own
    obtain ⟨-, rfl⟩ := eq_of_stops_first position position' earlier earlier' stops
      (.unresolved kind' missing')
    obtain rfl := Line.inclusion?_name kind kind'
    simp [found] at missing'

end

/-- Expansion goes line by line. The program of lines behind others is that of the first lines without its
terminator, followed by that of the rest. The first lines fail as they do alone; when only the rest fails,
it does so as it does alone, with the number of the line moved down if it is a line of the rest itself that
offends. -/
theorem expand_append_newline {columns : Nat} {style : DelimiterStyle} {included : Members Text}
    {first second : Text} (some : second ≠ []) :
    (∀ a b, expand columns style included (first ++ [newline]) = .ok a →
      expand columns style included second = .ok b →
      a.instructions = a.instructions.dropLast ++ [.literal []] ∧
      expand columns style included (first ++ newline :: second) = .ok (a.followedBy b)) ∧
    (∀ e, expand columns style included (first ++ [newline]) = .error e →
      expand columns style included (first ++ newline :: second) = .error e) ∧
    ∀ a e, expand columns style included (first ++ [newline]) = .ok a →
      expand columns style included second = .error e →
      (StopsAtOwnLine included second →
        expand columns style included (first ++ newline :: second) =
          .error (e.relocated a.sourceLines.length)) ∧
      (¬StopsAtOwnLine included second →
        expand columns style included (first ++ newline :: second) = .error e) := by
  refine ⟨fun a b expanded expanded' => ?_, fun e failed => ?_, fun a e expanded failed => ?_⟩
  · obtain ⟨ys, all, rfl⟩ := (Expansion.expandTo_succ_eq_ok_iff _ _ _ _).1 expanded
    obtain ⟨zs, all', rfl⟩ := (Expansion.expandTo_succ_eq_ok_iff _ _ _ _).1 expanded'
    have ends : (first ++ [newline]).getLast? = Option.some 0x0A := List.getLast?_concat
    refine ⟨?_, (Expansion.expandTo_succ_eq_ok_iff _ _ _ _).2 ⟨ys ++ zs, ?_, ?_⟩⟩
    · rw [Program.ofYields_instructions, if_pos ends, List.dropLast_concat]
    · rw [splitLines_append_newline first second some]
      exact List.rel_append all all'
    · exact (Program.ofYields_followedBy _ first second some all.length_eq.symm).symm
  · rw [expand_eq_error_iff] at failed ⊢
    exact failed.append_newline some
  · have lines : a.sourceLines = splitLines (first ++ [newline]) := by
      obtain ⟨ys, -, rfl⟩ := (Expansion.expandTo_succ_eq_ok_iff _ _ _ _).1 expanded
      rfl
    have ends : Ends included [] (first ++ [newline]) := by
      rcases expand_follows columns style included (first ++ [newline]) with ⟨p, -, ends⟩ | ⟨e', same, -⟩
      · exact ends
      · simp [expanded] at same
    rw [expand_eq_error_iff] at failed
    rw [lines, expand_eq_error_iff, expand_eq_error_iff]
    exact failed.behind some ends

/-- Inclusions on both sides, and a line of the second template that names no template. -/
theorem expand_append_newline_included :
    let included : Members Text := [("inner", "x\n $<leaf>\n"), ("leaf", "$(y)")]
    let first : Text := "a\n  \\\\$<inner>"
    ∃ a b, expand 1 .standard included (first ++ [newline]) = .ok a ∧
      expand 1 .standard included "\n$<inner>\n" = .ok b ∧
      expand 1 .standard included (first ++ newline :: ("\n$<inner>\n" : Text)) = .ok (a.followedBy b) ∧
      expand 1 .standard included (first ++ newline :: ("b\n$<other>" : Text)) =
        .error (.unresolved "other" topLevelName 4) := by
  intro included first
  obtain ⟨a, expanded, lines⟩ : ∃ a, expand 1 .standard included (first ++ [newline]) = .ok a ∧
      a.sourceLines.length = 2 := ⟨_, by with_unfolding_all rfl, rfl⟩
  obtain ⟨b, expanded'⟩ : ∃ b, expand 1 .standard included "\n$<inner>\n" = .ok b :=
    ⟨_, by with_unfolding_all rfl⟩
  have failed : expand 1 .standard included "b\n$<other>" =
      .error (.unresolved "other" topLevelName 2) := by with_unfolding_all rfl
  obtain ⟨joined, -, -⟩ :=
    @expand_append_newline 1 .standard included first "\n$<inner>\n" (by decide)
  obtain ⟨-, -, moved⟩ :=
    @expand_append_newline 1 .standard included first "b\n$<other>" (by decide)
  have own : StopsAtOwnLine included "b\n$<other>" := by
    refine ⟨1, "$<other>", [], [], "other", rfl, fun m before line at_m => ?_, rfl, rfl⟩
    obtain rfl : m = 0 := by omega
    obtain rfl : ("b" : Text) = line := Option.some.inj at_m
    exact .plain rfl
  have stopped := (moved _ _ expanded failed).1 own
  rw [lines] at stopped
  exact ⟨a, b, expanded, expanded', (joined _ _ expanded expanded').2, stopped⟩

end LineTemplate

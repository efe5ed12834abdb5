import LineTemplate.Template.Expansion

/-!
Splitting and joining texts. Splitting at a unit undoes joining with it as long as no piece holds the
unit, and the lines of a template are the pieces between its newlines, a final newline aside.
-/

set_option autoImplicit false

namespace LineTemplate

namespace Text

theorem splitOn_eq (sep : CodeUnit) (t : Text) : splitOn sep t = List.splitOn sep t := by
  induction t with
  | nil => rfl
  | cons c rest ih =>
    rw [List.splitOn_cons_eq_if_modifyHead, splitOn, ih]
    cases pieces : List.splitOn sep rest with
    | nil => exact absurd pieces (List.splitOn_ne_nil sep rest)
    | cons piece others =>
      by_cases same : c = sep
      · simp [same]
      · simp [same]

theorem splitOn_join (sep : CodeUnit) (pieces : List Text) (some : pieces ≠ [])
    (free : ∀ piece ∈ pieces, sep ∉ piece) : splitOn sep (join [sep] pieces) = pieces := by
  rw [splitOn_eq]
  exact List.splitOn_intercalate sep free some

theorem join_splitOn (sep : CodeUnit) (t : Text) : join [sep] (splitOn sep t) = t := by
  rw [splitOn_eq]
  exact List.intercalate_splitOn sep

theorem mem_join_of_mem {sep piece : Text} {pieces : List Text} {c : CodeUnit} (member : piece ∈ pieces)
    (inside : c ∈ piece) : c ∈ join sep pieces := by
  induction pieces with
  | nil => exact absurd member List.not_mem_nil
  | cons first rest ih =>
    cases rest with
    | nil => simpa [List.mem_singleton.1 member] using inside
    | cons next rest =>
      rw [join_cons_cons, List.mem_append, List.mem_append]
      rcases List.mem_cons.1 member with rfl | later
      · exact .inl inside
      · exact .inr (.inr (ih later))

theorem subset_of_mem_splitOn {sep : CodeUnit} {t piece : Text} (h : piece ∈ splitOn sep t) :
    piece ⊆ t := by
  intro c inside
  rw [← join_splitOn sep t]
  exact mem_join_of_mem h inside

theorem splitOn_append_cons (sep : CodeUnit) (t u : Text) :
    splitOn sep (t ++ sep :: u) = splitOn sep t ++ splitOn sep u := by
  induction t with
  | nil =>
    cases pieces : splitOn sep u with
    | nil => exact absurd pieces (splitOn_ne_nil sep u)
    | cons piece others => simp [splitOn, pieces]
  | cons c rest ih =>
    rw [List.cons_append, splitOn, splitOn, ih]
    cases pieces : splitOn sep rest with
    | nil => exact absurd pieces (splitOn_ne_nil sep rest)
    | cons piece others =>
      simp only [List.cons_append]
      split <;> rfl

theorem length_splitOn (sep : CodeUnit) (t : Text) : (splitOn sep t).length = t.count sep + 1 := by
  induction t with
  | nil => rfl
  | cons c rest ih =>
    rw [splitOn, List.count_cons]
    cases pieces : splitOn sep rest with
    | nil => exact absurd pieces (splitOn_ne_nil sep rest)
    | cons piece others =>
      rw [pieces] at ih
      dsimp only
      by_cases same : c = sep
      · rw [if_pos same, List.length_cons, ih, if_pos (beq_iff_eq.2 same)]
      · rw [if_neg same, List.length_cons, if_neg (by simpa using same), Nat.add_zero, ← ih,
          List.length_cons]

theorem splitOn_of_notMem (sep : CodeUnit) (t : Text) (free : sep ∉ t) : splitOn sep t = [t] := by
  rw [splitOn_eq]
  exact List.splitOn_eq_singleton free

theorem notMem_of_mem_splitOn (sep : CodeUnit) (t piece : Text) (h : piece ∈ splitOn sep t) :
    sep ∉ piece := by
  induction t generalizing piece with
  | nil =>
    rw [splitOn, List.mem_singleton] at h
    simp [h]
  | cons c rest ih =>
    rw [splitOn] at h
    cases pieces : splitOn sep rest with
    | nil => exact absurd pieces (splitOn_ne_nil sep rest)
    | cons first others =>
      simp only [pieces] at h ih
      split at h
      · rcases List.mem_cons.1 h with rfl | old
        · exact List.not_mem_nil
        · exact ih piece old
      · rename_i other
        rcases List.mem_cons.1 h with rfl | old
        · intro inside
          rcases List.mem_cons.1 inside with same | old
          · exact other same.symm
          · exact ih first List.mem_cons_self old
        · exact ih piece (List.mem_cons_of_mem first old)

end Text

def newline : CodeUnit := 0x0A

theorem splitLines_ne_nil (template : Text) : splitLines template ≠ [] :=
  Text.splitOn_ne_nil _ _

theorem newline_notMem_of_mem_splitLines (template line : Text) (h : line ∈ splitLines template) :
    newline ∉ line :=
  Text.notMem_of_mem_splitOn newline _ line h

theorem subset_of_mem_splitLines {template line : Text} (h : line ∈ splitLines template) :
    line ⊆ template := by
  intro c inside
  have body := Text.subset_of_mem_splitOn h inside
  split at body
  · exact List.dropLast_subset _ body
  · exact body

/-- The template with these lines, the last of which ends with a newline as well. -/
def terminated (lines : List Text) : Text := Text.join [newline] lines ++ [newline]

theorem terminated_getLast? (lines : List Text) : (terminated lines).getLast? = some newline := by
  simp [terminated]

theorem splitLines_terminated (lines : List Text) (some : lines ≠ [])
    (free : ∀ line ∈ lines, newline ∉ line) : splitLines (terminated lines) = lines := by
  have ends : (terminated lines).getLast? = Option.some 0x0A := terminated_getLast? lines
  rw [splitLines, if_pos ends, terminated, List.dropLast_concat]
  exact Text.splitOn_join newline lines some free

theorem terminated_splitLines (template : Text) (ends : template.getLast? = some newline) :
    terminated (splitLines template) = template := by
  obtain ⟨body, rfl⟩ := List.getLast?_eq_some_iff.1 ends
  have ends' : (body ++ [newline]).getLast? = some 0x0A := ends
  rw [splitLines, if_pos ends', List.dropLast_concat, terminated]
  exact congrArg (· ++ [newline]) (Text.join_splitOn newline body)

/-- The pieces between the newlines of a template are its lines, with an empty piece behind a final
newline. -/
theorem splitOn_newline (template : Text) :
    Text.splitOn newline template =
      splitLines template ++ if template.getLast? = some newline then [[]] else [] := by
  by_cases ends : template.getLast? = some newline
  · have ends' : template.getLast? = some 0x0A := ends
    obtain ⟨body, rfl⟩ := List.getLast?_eq_some_iff.1 ends
    rw [splitLines, if_pos ends', if_pos ends, List.dropLast_concat]
    exact Text.splitOn_append_cons newline body []
  · have open' : ¬template.getLast? = some 0x0A := ends
    rw [splitLines, if_neg open', if_neg ends, List.append_nil]
    rfl

theorem getLast?_append_newline (first : Text) {second : Text} (some : second ≠ []) :
    (first ++ newline :: second).getLast? = second.getLast? := by
  rw [List.getLast?_append, List.getLast?_cons, List.getLast?_eq_some_getLast some]
  rfl

theorem splitLines_append_newline (first second : Text) (some : second ≠ []) :
    splitLines (first ++ newline :: second) =
      splitLines (first ++ [newline]) ++ splitLines second := by
  have first_ends : (first ++ [newline]).getLast? = Option.some 0x0A := List.getLast?_concat
  have last := getLast?_append_newline first some
  have body : splitLines (first ++ [newline]) = Text.splitOn newline first := by
    rw [splitLines, if_pos first_ends, List.dropLast_concat]
    rfl
  rw [body, splitLines, splitLines, last]
  split
  · rw [List.dropLast_append_of_ne_nil (List.cons_ne_nil _ _), List.dropLast_cons_of_ne_nil some]
    exact Text.splitOn_append_cons newline first second.dropLast
  · exact Text.splitOn_append_cons newline first second

theorem splitLines_concat_newline (template : Text) (open' : template.getLast? ≠ some newline) :
    splitLines (template ++ [newline]) = splitLines template := by
  have ends : (template ++ [newline]).getLast? = some 0x0A := List.getLast?_concat
  have open'' : ¬template.getLast? = some 0x0A := open'
  rw [splitLines, if_pos ends, splitLines, if_neg open'', List.dropLast_concat]

end LineTemplate

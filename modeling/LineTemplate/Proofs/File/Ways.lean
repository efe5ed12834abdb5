import LineTemplate.File.Path
import LineTemplate.Proofs.Template.Splitting

/-!
Ways between paths. A written path is resolved to proper components, and the way from a directory to a
path, written out, leads out of the directory exactly if the path is not below it: the test on the written
way is one on its first segment, and a proper component is never taken for a segment that leads up.
-/

set_option autoImplicit false

namespace LineTemplate.Path

/-- A component that a directory can hold: a name without a slash that is not one of the two dots. -/
structure ProperName (c : Text) : Prop where
  ne_nil : c ≠ []
  ne_dot : c ≠ "."
  ne_dots : c ≠ ".."
  slash : CodeUnit.ofChar '/' ∉ c

/-- A path of names that directories can hold. -/
def Proper (p : Path) : Prop := ∀ c ∈ p, ProperName c

/-- A path that lies below another one, and is not this path itself. -/
def Below (directory p : Path) : Prop := directory <+: p ∧ p ≠ directory

instance (directory p : Path) : Decidable (Below directory p) := inferInstanceAs (Decidable (_ ∧ _))

theorem proper_nil : Proper [] := fun _ member => absurd member List.not_mem_nil

theorem Proper.follow {p : Path} (proper : p.Proper) {segment : Text}
    (free : CodeUnit.ofChar '/' ∉ segment) : Proper (Path.follow p segment) := by
  unfold Path.follow
  split
  · exact proper
  · rename_i named
    obtain ⟨some, dot⟩ : segment ≠ [] ∧ segment ≠ "." := by simpa using named
    split
    · exact fun c member => proper c (List.dropLast_subset p member)
    · rename_i dots
      intro c member
      rcases List.mem_append.1 member with old | new
      · exact proper c old
      · exact List.mem_singleton.1 new ▸ ⟨some, dot, dots, free⟩

theorem Proper.resolve {base : Path} (proper : base.Proper) (written : Text) :
    Proper (Path.resolve base written) := by
  have free : ∀ s ∈ segments written, CodeUnit.ofChar '/' ∉ s :=
    fun s => Text.notMem_of_mem_splitOn _ written s
  have start : Proper (if isAbsolute written then [] else base) := by
    split
    · exact proper_nil
    · exact proper
  unfold Path.resolve
  generalize segments written = steps at free
  generalize (if isAbsolute written then [] else base) = p at start
  induction steps generalizing p with
  | nil => exact start
  | cons s rest ih =>
    exact ih (fun other member => free other (List.mem_cons_of_mem s member)) (Path.follow p s)
      (start.follow (free s List.mem_cons_self))

theorem way_append (directory rest : Path) : way directory (directory ++ rest) = rest := by
  induction directory with
  | nil => cases rest <;> rfl
  | cons a directory ih =>
    rw [List.cons_append, way, if_pos rfl]
    exact ih

theorem way_of_not_prefix {directory p : Path} (outside : ¬directory <+: p) :
    ∃ rest, way directory p = (".." : Text) :: rest := by
  fun_induction way directory p with
  | case1 p => exact absurd (List.nil_prefix) outside
  | case2 a directory rest ih => exact ih fun inside => outside (List.cons_prefix_cons.2 ⟨rfl, inside⟩)
  | case3 a directory b below other =>
    rw [List.length_cons, List.replicate_succ, List.cons_append]
    exact ⟨_, rfl⟩
  | case4 a directory =>
    rw [List.length_cons, List.replicate_succ]
    exact ⟨_, rfl⟩

theorem head?_segments_join {first : Text} (rest : List Text) (free : CodeUnit.ofChar '/' ∉ first) :
    (segments (Text.join "/" (first :: rest))).head? = some first := by
  have alone : segments first = [first] := Text.splitOn_of_notMem _ first free
  cases rest with
  | nil =>
    rw [Text.join_singleton, alone]
    rfl
  | cons next rest =>
    rw [Text.join_cons_cons]
    change (Text.splitOn _ (first ++ CodeUnit.ofChar '/' :: _)).head? = _
    rw [Text.splitOn_append_cons]
    change (segments first ++ _).head? = _
    rw [alone]
    rfl

theorem head?_segments (written : Text) :
    (segments written).head? = some (written.takeWhile fun c => c ≠ CodeUnit.ofChar '/') := by
  unfold segments
  induction written with
  | nil => rfl
  | cons c rest ih =>
    rw [Text.splitOn]
    cases pieces : Text.splitOn (CodeUnit.ofChar '/') rest with
    | nil => exact absurd pieces (Text.splitOn_ne_nil _ rest)
    | cons piece others =>
      rw [pieces, List.head?_cons, Option.some_inj] at ih
      by_cases slash : c = CodeUnit.ofChar '/'
      · simp [slash]
      · simp [slash, ih]

theorem leaves_iff (written : Text) :
    leaves written = true ↔
      (segments written).head? = some [] ∨ (segments written).head? = some (".." : Text) := by
  have dots : (".." : Text) = [0x2E, 0x2E] := by decide
  have up : ("../" : Text) = [0x2E, 0x2E, 0x2F] := by decide
  have slash : CodeUnit.ofChar '/' = 0x2F := by decide
  rw [head?_segments, Option.some_inj, Option.some_inj]
  unfold leaves isAbsolute
  rw [dots, up, slash]
  -- the test looks at the first three units, and the first segment ends at the first slash among them
  match written with
  | [] => simp
  | [a] => by_cases ha : a = 0x2F <;> simp [slash, ha]
  | [a, b] => by_cases ha : a = 0x2F <;> by_cases hb : b = 0x2F <;> simp [slash, ha, hb]
  | a :: b :: c :: rest =>
    by_cases ha : a = 0x2F
    · simp [slash, ha]
    · by_cases hb : b = 0x2F <;> by_cases hc : c = 0x2F <;> simp [slash, ha, hb, hc] <;> grind

theorem leaves_relative_iff {directory p : Path} (proper : Proper p) :
    leaves (relative directory p) = true ↔ ¬Below directory p := by
  by_cases inside : directory <+: p
  · obtain ⟨rest, rfl⟩ := inside
    rw [relative, way_append]
    cases rest with
    | nil => simp [Below, leaves, Text.join]
    | cons c rest =>
      have name : ProperName c := proper c (by simp)
      rw [leaves_iff, head?_segments_join rest name.slash]
      simp [Below, name.ne_nil, name.ne_dots]
  · obtain ⟨rest, up⟩ := way_of_not_prefix inside
    rw [iff_true_right fun below => inside below.1, leaves_iff, relative, up]
    exact .inr (head?_segments_join rest (by decide))

end LineTemplate.Path

import LineTemplate.Evaluation.Described

/-!
What is wrong with a set of options for both steps of a rendering, and what each of the two checks finds. The
first one sees the options of expansion, the second one all others, but for the form of the output, which is
replaced before.
-/

set_option autoImplicit false

namespace LineTemplate

namespace Options

def evaluationKeys : List Text := ["returnAsLines", "preserveBlankLines", "preserveEmptyLines"]

def combinedKeys : List Text := expansionKeys ++ evaluationKeys

def expansionIssues (members : Members Datum) : List OptionIssue :=
  issuesOf (count members "indentColumns" 0) ++ issuesOf (flag members "useAltDelimiters" false)

/-- What is wrong with the other options, but for the form of the output, and with unknown keys. -/
def evaluationIssues (members : Members Datum) : List OptionIssue :=
  issuesOf (flag members "preserveBlankLines" true) ++ issuesOf (flag members "preserveEmptyLines" true) ++
    unknownKeys members.listed combinedKeys

def outputIssues (members : Members Datum) : List OptionIssue :=
  issuesOf (flag members "returnAsLines" false)

/-- Options for both steps are an object with known keys only, each with a value of its type. -/
structure Valid (options : Datum) : Prop where
  record : membersOf options = .ok options.members
  expansion : expansionIssues options.members = []
  evaluation : evaluationIssues options.members = []
  output : outputIssues options.members = []

theorem exists_of_issuesOf_flag {members : Members Datum} {key : Text} {otherwise : Bool}
    (fine : issuesOf (flag members key otherwise) = []) : ∃ b, flag members key otherwise = .ok b := by
  unfold flag at fine ⊢
  split at fine
  · exact ⟨otherwise, rfl⟩
  · exact ⟨_, rfl⟩
  · cases fine

theorem exists_of_issuesOf_count {members : Members Datum} {key : Text} {otherwise : Float}
    (fine : issuesOf (count members key otherwise) = []) : ∃ x, count members key otherwise = .ok x := by
  unfold count at fine ⊢
  split at fine
  · exact ⟨otherwise, rfl⟩
  · rename_i x _
    by_cases undetermined : x.isNaN
    · rw [if_pos undetermined] at fine
      cases fine
    · rw [if_neg undetermined] at fine ⊢
      dsimp only at fine ⊢
      generalize (_ : List OptionIssue) ++ _ = issues at fine ⊢
      cases issues with
      | nil => exact ⟨x, rfl⟩
      | cons issue more => cases fine
  · cases fine

theorem count_congr {members members' : Members Datum} {key : Text}
    (same : members.get? key = members'.get? key) (otherwise : Float) :
    count members key otherwise = count members' key otherwise := by
  unfold count valueAt
  rw [same]

theorem flag_congr {members members' : Members Datum} {key : Text}
    (same : members.get? key = members'.get? key) (otherwise : Bool) :
    flag members key otherwise = flag members' key otherwise := by
  unfold flag valueAt
  rw [same]

theorem not_contains_of_index {known : List Text} (named : ∀ key ∈ known, arrayIndex? key = none)
    (key : Text) (index : (arrayIndex? key).isSome) : (!known.contains key) = true := by
  cases inside : known.contains key with
  | false => rfl
  | true =>
    rw [named key (List.contains_iff_mem.1 inside)] at index
    cases index

theorem filterMap_unknown (members : Members Datum) (known : List Text) :
    members.filterMap (fun m => if known.contains m.1 then none else some m.1) =
      (members.filter fun m => !known.contains m.1).map Prod.fst := by
  induction members with
  | nil => rfl
  | cons m rest ih =>
    rw [List.filterMap_cons, List.filter_cons, ih]
    cases known.contains m.1 <;> rfl

theorem unknownKeys_congr {members members' : Members Datum} {known known' : List Text}
    (same : (members.filter fun m => !known.contains m.1) =
      members'.filter fun m => !known'.contains m.1) :
    unknownKeys members known = unknownKeys members' known' := by
  unfold unknownKeys
  rw [filterMap_unknown, filterMap_unknown, same]

theorem unknownKeys_eq_nil {members : Members Datum} {known : List Text} :
    unknownKeys members known = [] ↔ (members.filter fun m => !known.contains m.1) = [] := by
  unfold unknownKeys
  rw [filterMap_unknown]
  cases members.filter fun m => !known.contains m.1 with
  | nil => simp
  | cons m rest => simp

end Options

open Options

theorem ExpansionOptions.parse_expansionPart (members : Members Datum) :
    parse (expansionPart members) =
      match count members "indentColumns" 0, flag members "useAltDelimiters" false with
      | .ok indentColumns, .ok useAltDelimiters => .ok ⟨indentColumns, useAltDelimiters⟩
      | _, _ => .error (reported "expansion options" (expansionIssues members)) := by
  let part : Members Datum :=
    [("indentColumns", valueAt members "indentColumns"),
      ("useAltDelimiters", valueAt members "useAltDelimiters")]
  have taken : membersOf (expansionPart members) = .ok part.listed := rfl
  have listed : part.listed = part := Members.listed_eq_self (by simp [part]; decide)
  have indent : count part "indentColumns" 0 = count members "indentColumns" 0 := rfl
  have alternate : flag part "useAltDelimiters" false = flag members "useAltDelimiters" false := rfl
  have unknown : unknownKeys part ["indentColumns", "useAltDelimiters"] = [] := rfl
  unfold parse
  rw [taken, listed]
  dsimp only
  rw [indent, alternate, unknown]
  unfold expansionIssues
  cases count members "indentColumns" 0 <;> cases flag members "useAltDelimiters" false <;> simp [issuesOf]

theorem EvaluationOptions.parse_evaluationPart (members : Members Datum) :
    parse (evaluationPart members) =
      match flag members "preserveBlankLines" true, flag members "preserveEmptyLines" true,
        unknownKeys members.listed combinedKeys with
      | .ok blank, .ok empty, [] => .ok ⟨false, blank, empty⟩
      | _, _, _ => .error (reported "evaluation options" (evaluationIssues members)) := by
  let rest : Members Datum := members.filter fun m => !expansionKeys.contains m.1
  let part : Members Datum := rest.set "returnAsLines" (.bool false)
  have taken : membersOf (evaluationPart members) = .ok part.listed := rfl
  have shown (key : Text) (named : arrayIndex? key = none) (other : key ≠ "returnAsLines")
      (kept : (!expansionKeys.contains key) = true) : part.listed.get? key = members.get? key := by
    rw [part.get?_listed named, Members.get?_set_of_ne _ _ _ _ other]
    exact members.get?_filter (fun key => !expansionKeys.contains key) kept
  have lines : flag part.listed "returnAsLines" false = .ok false := by
    have entry : part.listed.get? "returnAsLines" = some (.bool false) :=
      (part.get?_listed (by decide)).trans (Members.get?_set_self _ _ _)
    unfold flag valueAt
    rw [entry]
    rfl
  have blank := flag_congr (shown "preserveBlankLines" (by decide) (by decide) (by decide)) true
  have empty := flag_congr (shown "preserveEmptyLines" (by decide) (by decide) (by decide)) true
  have unknown : unknownKeys part.listed ["returnAsLines", "preserveBlankLines", "preserveEmptyLines"] =
      unknownKeys members.listed combinedKeys := by
    refine @unknownKeys_congr _ _ evaluationKeys combinedKeys ?_
    have others : (part.filter fun m => !evaluationKeys.contains m.1) =
        members.filter fun m => !combinedKeys.contains m.1 := by
      rw [rest.filter_set (fun key => !evaluationKeys.contains key) (by decide), List.filter_filter]
      refine List.filter_congr fun m _ => ?_
      rw [combinedKeys, List.contains_append, Bool.not_or, Bool.and_comm]
    rw [part.filter_listed (not_contains_of_index (by decide)),
      members.filter_listed (not_contains_of_index (by decide)), others]
  unfold parse
  rw [taken]
  dsimp only
  rw [lines, blank, empty, unknown]
  unfold evaluationIssues
  cases flag members "preserveBlankLines" true <;> cases flag members "preserveEmptyLines" true <;>
    cases unknownKeys members.listed combinedKeys <;> simp [issuesOf]

theorem ExpansionOptions.parse_expansionPart_of_issues {members : Members Datum}
    (wrong : expansionIssues members ≠ []) :
    parse (expansionPart members) = .error (reported "expansion options" (expansionIssues members)) := by
  rw [parse_expansionPart]
  split
  · rename_i indent alternate
    refine absurd ?_ wrong
    rw [expansionIssues, indent, alternate]
    rfl
  · rfl

theorem EvaluationOptions.parse_evaluationPart_of_issues {members : Members Datum}
    (wrong : evaluationIssues members ≠ []) :
    parse (evaluationPart members) = .error (reported "evaluation options" (evaluationIssues members)) := by
  rw [parse_evaluationPart]
  split
  · rename_i blank empty unknown
    refine absurd ?_ wrong
    rw [evaluationIssues, blank, empty, unknown]
    rfl
  · rfl

theorem ExpansionOptions.exists_parse_expansionPart {members : Members Datum}
    (fine : expansionIssues members = []) : ∃ o, parse (expansionPart members) = .ok o := by
  obtain ⟨indent, alternate⟩ := List.append_eq_nil_iff.1 fine
  obtain ⟨indentColumns, indent⟩ := exists_of_issuesOf_count indent
  obtain ⟨useAltDelimiters, alternate⟩ := exists_of_issuesOf_flag alternate
  exact ⟨⟨indentColumns, useAltDelimiters⟩, by rw [parse_expansionPart, indent, alternate]⟩

theorem EvaluationOptions.exists_parse_evaluationPart {members : Members Datum}
    (fine : evaluationIssues members = []) : ∃ o, parse (evaluationPart members) = .ok o := by
  obtain ⟨flags, unknown⟩ := List.append_eq_nil_iff.1 fine
  obtain ⟨blank, empty⟩ := List.append_eq_nil_iff.1 flags
  obtain ⟨preserveBlankLines, blank⟩ := exists_of_issuesOf_flag blank
  obtain ⟨preserveEmptyLines, empty⟩ := exists_of_issuesOf_flag empty
  exact ⟨⟨false, preserveBlankLines, preserveEmptyLines⟩,
    by rw [parse_evaluationPart, blank, empty, unknown]⟩

theorem Program.ofTemplate_of_issues {members : Members Datum} (wrong : expansionIssues members ≠ [])
    (included : Members Text) (template : Text) :
    ofTemplate (expansionPart members) included template =
      .error (reported "expansion options" (expansionIssues members)) := by
  unfold ofTemplate
  rw [ExpansionOptions.parse_expansionPart_of_issues wrong]
  rfl

theorem Options.checks_erase {members : Members Datum} (fine : evaluationIssues members = []) :
    let rest := (Datum.object (members.erase "returnAsLines")).members
    expansionPart rest = expansionPart members ∧ expansionIssues rest = expansionIssues members ∧
      evaluationIssues rest = [] ∧ outputIssues rest = [] ∧
      EvaluationOptions.parse (evaluationPart rest) = EvaluationOptions.parse (evaluationPart members) := by
  intro rest
  have shown (key : Text) (named : arrayIndex? key = none) (other : key ≠ "returnAsLines") :
      rest.get? key = members.get? key :=
    ((members.erase "returnAsLines").get?_listed named).trans (members.get?_erase_of_ne other)
  have blank := flag_congr (shown "preserveBlankLines" (by decide) (by decide)) true
  have empty := flag_congr (shown "preserveEmptyLines" (by decide) (by decide)) true
  have indent := count_congr (shown "indentColumns" (by decide) (by decide)) 0
  have alternate := flag_congr (shown "useAltDelimiters" (by decide) (by decide)) false
  have unknown : unknownKeys members.listed combinedKeys = [] := (List.append_eq_nil_iff.1 fine).2
  have unknown' : unknownKeys rest.listed combinedKeys = [] := by
    have index (key : Text) : (arrayIndex? key).isSome → (!combinedKeys.contains key) = true :=
      not_contains_of_index (by decide) key
    have kept := members.filter_erase (fun key => !combinedKeys.contains key)
      (show (!combinedKeys.contains "returnAsLines") = false by decide)
    rw [unknownKeys_eq_nil, Members.filter_listed _ index] at unknown ⊢
    change Members.listed ((members.erase "returnAsLines").listed.filter _) = []
    rw [Members.filter_listed _ index, kept, unknown]
    exact Members.listed_eq_self fun _ inside => nomatch inside
  have same : evaluationIssues rest = evaluationIssues members := by
    rw [evaluationIssues, evaluationIssues, blank, empty, unknown, unknown']
  refine ⟨?_, ?_, same.trans fine, ?_, ?_⟩
  · have columns := shown "indentColumns" (by decide) (by decide)
    have delimiters := shown "useAltDelimiters" (by decide) (by decide)
    simp only [expansionPart, expansionKeys, List.map, columns, delimiters]
  · rw [expansionIssues, expansionIssues, indent, alternate]
  · have missing : rest.get? "returnAsLines" = none :=
      ((members.erase "returnAsLines").get?_listed (by decide)).trans (members.get?_erase_self _)
    unfold outputIssues flag valueAt
    rw [missing]
    rfl
  · rw [EvaluationOptions.parse_evaluationPart, EvaluationOptions.parse_evaluationPart, blank, empty,
      unknown, unknown', same]

end LineTemplate

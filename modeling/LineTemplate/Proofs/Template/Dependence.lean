import LineTemplate.Command.Rendering
import LineTemplate.Proofs.Template.Outcome

/-!
What an expansion depends on. It looks up no name but those that the inclusions of the template lead to, so
other templates may be added, removed or broken without any change of the program or of the error.
-/

set_option autoImplicit false

namespace LineTemplate

/-- Both collections hold the same template, or none, under every name that this template leads to. -/
def AgreeFrom (template : Text) (included other : Members Text) : Prop :=
  ∀ v, Reachable included template v → other.get? v = included.get? v

namespace AgreeFrom

variable {template : Text} {included other : Members Text}

theorem inner (h : AgreeFrom template included other) {name source : Text}
    (line : name ∈ includedNames template) (found : included.get? name = some source) :
    AgreeFrom source included other := by
  rintro v ⟨u, inside, path⟩
  exact h v ⟨name, line, path.head ⟨source, found, inside⟩⟩

theorem get?_eq (h : AgreeFrom template included other) {name : Text}
    (line : name ∈ includedNames template) : other.get? name = included.get? name :=
  h name ⟨name, line, .refl⟩

end AgreeFrom

/-- Names that hold those of a template, and with each name those of its own template, are all that the
template leads to. -/
theorem Reachable.mem_of_closed {included : Members Text} {template v : Text} {names : List Text}
    (reached : Reachable included template v) (start : includedNames template ⊆ names)
    (closed : ∀ u ∈ names, ∀ source, included.get? u = some source → includedNames source ⊆ names) :
    v ∈ names := by
  obtain ⟨u, first, path⟩ := reached
  induction path with
  | refl => exact start first
  | tail _ edge ih =>
    obtain ⟨source, found, line⟩ := edge
    exact closed _ ih source found line

namespace Expansion

section

variable {context : ExpansionContext} {other : Members Text}
  {expandNested expandNested' : ExpansionContext → Text → Except ExpansionError Program}

theorem linePart_congr (place : ProgramPlace) {line : Text}
    (same : ∀ blanks run name, Line.inclusion? line = some (blanks, run, name) →
      other.get? name = context.included.get? name ∧
      ∀ source, context.included.get? name = some source →
        expandNested' { context.enter blanks name with included := other } source =
          expandNested (context.enter blanks name) source) :
    linePart { context with included := other } expandNested' place line =
      linePart context expandNested place line := by
  cases kind : Line.inclusion? line with
  | none =>
    obtain ⟨_, yields, alone⟩ := @linePart_of_plain context expandNested place line kind
    obtain ⟨_, yields', alone'⟩ :=
      @linePart_of_plain { context with included := other } expandNested' place line kind
    cases yields.symm.trans yields'
    rw [alone, alone']
  | some parts =>
    obtain ⟨blanks, run, name⟩ := parts
    obtain ⟨lookup, nested⟩ := same blanks run name kind
    rw [linePart_of_inclusion place line blanks run name kind,
      linePart_of_inclusion place line blanks run name kind]
    refine congrArg (Except.map _) ?_
    unfold resolve
    dsimp only
    rw [lookup]
    cases found : context.included.get? name with
    | none => rfl
    | some source =>
      dsimp only
      split
      · rfl
      · exact nested source found

theorem linesPart_congr (place : ProgramPlace) {lines : List Text}
    (same : ∀ line ∈ lines, ∀ blanks run name, Line.inclusion? line = some (blanks, run, name) →
      other.get? name = context.included.get? name ∧
      ∀ source, context.included.get? name = some source →
        expandNested' { context.enter blanks name with included := other } source =
          expandNested (context.enter blanks name) source) :
    linesPart { context with included := other } expandNested' place lines =
      linesPart context expandNested place lines := by
  induction lines generalizing place with
  | nil => rfl
  | cons line rest ih =>
    unfold linesPart
    rw [linePart_congr place (same line List.mem_cons_self)]
    cases linePart context expandNested place line with
    | error e => rfl
    | ok part =>
      change (linesPart _ _ _ rest >>= _) = (linesPart _ _ _ rest >>= _)
      rw [ih _ fun l inside => same l (List.mem_cons_of_mem line inside)]

end

theorem expandTo_of_agree {depth : Nat} {context : ExpansionContext} {other : Members Text}
    {template : Text} (agree : AgreeFrom template context.included other) :
    expandTo depth { context with included := other } template = expandTo depth context template := by
  induction depth generalizing context template with
  | zero => rfl
  | succ depth ih =>
    unfold expandTo
    rw [linesPart_congr ⟨1, 0, 0⟩ fun line inside blanks run name kind => ?_]
    have leads : name ∈ includedNames template :=
      mem_includedNames_iff.2 ⟨line, inside, blanks, run, kind⟩
    exact ⟨agree.get?_eq leads, fun source found =>
      @ih (context.enter blanks name) source (agree.inner leads found)⟩

end Expansion

theorem expand_of_agree (columns : Nat) (style : DelimiterStyle) {included other : Members Text}
    {template : Text} (agree : AgreeFrom template included other) :
    expand columns style other template = expand columns style included template := by
  -- The depth of an expansion depends on how many templates there are; one that is enough for both will do.
  have deep : included.length < included.length + other.length + 1 := by omega
  have deep' : other.length < included.length + other.length + 1 := by omega
  rw [← expandTo_eq_expand columns style other template deep',
    ← expandTo_eq_expand columns style included template deep]
  exact @Expansion.expandTo_of_agree _ ⟨columns, style, included, [], topLevelName⟩ other template agree

theorem Program.ofTemplate_of_agree (options : Datum) {included other : Members Text} {template : Text}
    (agree : AgreeFrom template included other) :
    Program.ofTemplate options other template = Program.ofTemplate options included template := by
  unfold Program.ofTemplate
  simp only [expand_of_agree _ _ agree]

theorem RenderRequest.renderMaterial_of_agree (r : RenderRequest) (m : Material) {other : Members Text}
    (agree : AgreeFrom m.source m.included other) :
    r.renderMaterial { m with included := other } = r.renderMaterial m := by
  unfold renderMaterial Session.load
  simp only [Program.ofTemplate_of_agree _ agree]

/-- Two expansions of a template have one outcome, a program or an error, if the templates at hand are the
same under all names that its inclusions lead to. In particular a template that they do not lead to may be
there, be another or be missing. -/
theorem ofTemplate_reachable (options : Datum) (included : Members Text) (template : Text) :
    (∀ other, (∀ v, Reachable included template v → other.get? v = included.get? v) →
      Program.ofTemplate options other template = Program.ofTemplate options included template) ∧
    ∀ v, ¬Reachable included template v →
      (∀ text, Program.ofTemplate options (included.set v text) template =
        Program.ofTemplate options included template) ∧
      Program.ofTemplate options (included.erase v) template =
        Program.ofTemplate options included template := by
  refine ⟨fun other agree => Program.ofTemplate_of_agree options agree, fun v unreached => ?_⟩
  have different {u : Text} (reached : Reachable included template u) : u ≠ v :=
    fun same => unreached (same ▸ reached)
  refine ⟨fun text => Program.ofTemplate_of_agree options fun u reached => ?_,
    Program.ofTemplate_of_agree options fun u reached => ?_⟩
  · exact Members.get?_set_of_ne included v u text (different reached)
  · exact Members.get?_erase_of_ne included (different reached)

/-- A template that only an escaped line names, and that includes itself, may be missing or be another one;
the name that is not available is reported in all cases. -/
theorem ofTemplate_reachable_escaped :
    let included : Members Text := [("page", "\\$<other>\n"), ("other", "$<other>\n")]
    let template : Text := "$<page>\n$<gone>\n"
    ¬Reachable included template "other" ∧
      Program.ofTemplate .undefined [("page", "\\$<other>\n")] template =
        Program.ofTemplate .undefined included template ∧
      Program.ofTemplate .undefined (included.set "other" "$<nowhere>") template =
        Program.ofTemplate .undefined included template ∧
      expand 0 .standard included template = .error (.unresolved "gone" topLevelName 2) := by
  intro included template
  have names {v : Text} (reached : Reachable included template v) : v ∈ (["page", "gone"] : List Text) := by
    refine reached.mem_of_closed (by decide) fun u inside source found => ?_
    rcases List.mem_pair.1 inside with rfl | rfl
    · cases found
      decide
    · cases found
  have unreached : ¬Reachable included template "other" := fun reached => absurd (names reached) (by decide)
  obtain ⟨agreeing, others⟩ := ofTemplate_reachable .undefined included template
  refine ⟨unreached, agreeing _ fun v reached => ?_, (others "other" unreached).1 _, rfl⟩
  rcases List.mem_pair.1 (names reached) with rfl | rfl <;> rfl

end LineTemplate

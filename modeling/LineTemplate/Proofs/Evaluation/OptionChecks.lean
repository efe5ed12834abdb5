import LineTemplate.Proofs.Evaluation.OptionIssues
import LineTemplate.Proofs.Evaluation.SharedScopes

/-!
When a rendering in one step checks its options. Those of expansion are checked before anything is done, the
others only when the template has been compiled. By then its scope has been set up, and a template that
cannot be compiled is reported instead of them.
-/

set_option autoImplicit false

namespace LineTemplate

open Script Options

/-- The code of a program is one function, if it can be parsed: no statement of the template ends the
function early. -/
def Program.Contained (p : Program) : Prop :=
  ∀ body, parse p.code = .ok body → ∃ head inner spot, body = [.expr (.function head inner) spot]

theorem Program.contained_of_legible {p : Program} (legible : ∀ i ∈ p.instructions, i.Legible) :
    p.Contained := by
  obtain ⟨x, spot, parsed, head, out, array, place, body, name, shown, place', -, -, -, rfl⟩ :=
    parse_code p legible
  intro body' parsed'
  cases parsed.symm.trans parsed'
  exact ⟨head, _, spot, rfl⟩

namespace Script.Run

theorem compileScript_of_fault (engine : Engine) {code : Text} (scope : Nat) {fault : SyntaxFault} (s : Store)
    (faulty : parse code = .error fault) :
    ∃ s', compileScript engine code scope s = .ok (.error ⟨SyntaxFault.message, some fault.line⟩) s' ∧
      s'.objects = s.objects := by
  obtain ⟨t, counted, objects⟩ : ∃ t, freshSerial s = .ok s.nextSerial t ∧ t.objects = s.objects :=
    ⟨_, rfl, rfl⟩
  refine ⟨t, ?_, objects⟩
  unfold compileScript
  rw [bind_ok counted, faulty]
  rfl

theorem compileScript_contained (engine : Engine) {p : Program} (contained : p.Contained) (scope : Nat)
    (s : Store) :
    (∃ diagnostic s', compileScript engine p.code scope s = .ok (.error diagnostic) s' ∧
      (∃ fault, parse p.code = .error fault) ∧ s.Extended s') ∨
    (∃ executable s', compileScript engine p.code scope s = .ok (.ok executable) s' ∧
      (∃ body, parse p.code = .ok body) ∧ s.Extended s') := by
  cases parsed : parse p.code with
  | error fault =>
    obtain ⟨s', compiled, objects⟩ := compileScript_of_fault engine scope s parsed
    exact .inl ⟨_, s', compiled, ⟨fault, rfl⟩, objects ▸ Nat.le_refl _, fun _ _ => objects ▸ rfl⟩
  | ok body =>
    obtain ⟨head, inner, spot, rfl⟩ := contained body parsed
    obtain ⟨inner', settled⟩ : ∃ inner', placed [.expr (.function head inner) spot] =
        [.expr (.function head inner') spot] := ⟨_, rfl⟩
    obtain ⟨s', compiled, -, objects⟩ := compileScript_function engine scope s parsed settled
    refine .inr ⟨_, s', compiled, ⟨_, rfl⟩, ?_, fun a inside => ?_⟩
    · rw [objects, Array.size_push]
      exact Nat.le_succ _
    · rw [objects, Array.getElem?_push_lt inside, Array.getElem?_eq_getElem inside]

end Script.Run

namespace Script

/-- The members of an object refer to objects at addresses below a bound. -/
def Obj.Within (o : Obj) (size : Nat) : Prop := ∀ key a, o.members.get? key = some (.ref a) → a < size

def Store.Encloses (s : Store) (scope : Nat) : Prop :=
  ∀ key a, s.entryOf? scope key = some (.ref a) → a < s.objects.size

theorem Store.Encloses.extended {s s' : Store} {scope : Nat} (h : s.Encloses scope)
    (inside : scope < s.objects.size) (extended : s.Extended s') : s'.Encloses scope := by
  intro key a entry
  rw [Store.entryOf?, extended.objects scope inside] at entry
  exact Nat.lt_of_lt_of_le (h key a entry) extended.size

namespace Run

theorem makeMembers_inside {frames : List Frame} {members : Members Datum} {s s' : Store}
    {made : Members Value} (ran : makeMembers frames members s = .ok made s') {key : Text} {a : Nat}
    (inside : (key, .ref a) ∈ made) : a < s'.objects.size := by
  induction members generalizing made s with
  | nil =>
    cases ran
    cases inside
  | cons m rest ih =>
    unfold makeMembers at ran
    obtain ⟨v, s₁, first, ran⟩ := exists_of_bind_ok ran
    obtain ⟨others, s₂, second, ran⟩ := exists_of_bind_ok ran
    cases ran
    rcases List.mem_cons.1 inside with here | later
    · cases here
      have extended : s₁.Extended s' := (leads_makeMembers frames rest).ok second
      exact Nat.lt_of_lt_of_le (inside_make frames m.2 s a s₁ first) extended.size
    · exact ih second later

def Enclosed (run : Run Value) : Prop :=
  ∀ s address s', run s = .ok (.ref address) s' → s'.Encloses address

theorem Enclosed.bind {α : Type} {x : Run α} {f : α → Run Value} (next : ∀ b, Enclosed (f b)) :
    Enclosed (x >>= f) := by
  intro s address s' ran
  obtain ⟨b, t, -, rest⟩ := exists_of_bind_ok ran
  exact next b t address s' rest

theorem encloses_allocate {o : Obj} {s s' : Store} {address : Nat} (within : o.Within s.objects.size)
    (ran : allocate o s = .ok (.ref address) s') : s'.Encloses address := by
  cases ran
  intro key a entry
  change ((s.objects.push o)[s.objects.size]?.bind fun o => o.members.get? key) = _ at entry
  change a < (s.objects.push o).size
  rw [Array.getElem?_push_size, Option.bind_some] at entry
  rw [Array.size_push]
  exact Nat.lt_succ_of_lt (within key a entry)

theorem enclosed_allocate {o : Obj} (bare : o.members = []) : Enclosed (allocate o) := by
  intro s address s' ran
  refine encloses_allocate (fun key a entry => ?_) ran
  rw [bare] at entry
  cases entry

theorem enclosed_make (frames : List Frame) (d : Datum) : Enclosed (make frames d) := by
  unfold make
  cases d with
  | undefined | null | bool | number | bigint | text | symbol =>
    intro s address s' ran
    cases ran
  | array | map | set => exact .bind fun _ => enclosed_allocate rfl
  | object members =>
    intro s address s' ran
    obtain ⟨values, t, made, ran⟩ := exists_of_bind_ok ran
    refine encloses_allocate (fun key a entry => ?_) ran
    by_cases named : key ∈ values.map Prod.fst
    · obtain ⟨v, member, last⟩ := Members.exists_of_mem_setAll named
      cases (last []).symm.trans entry
      exact makeMembers_inside made member
    · change (Members.setAll [] values).get? key = _ at entry
      rw [Members.get?_setAll_of_notMem [] named] at entry
      cases entry
  | function behaviour =>
    change Enclosed (makeFunction frames behaviour)
    unfold makeFunction
    cases behaviour with
    | const | decorate => exact .bind fun _ => enclosed_allocate rfl
    | _ => exact enclosed_allocate rfl
  | error name message stack =>
    intro s address s' ran
    refine encloses_allocate (fun key a entry => ?_) ran
    -- the only member is a text
    change (List.lookup key [(_, Value.text name)]) = some (.ref a) at entry
    rw [List.lookup_cons] at entry
    split at entry <;> cases entry
  | boxedText | generator | iterable | someFunction | someIterable => exact enclosed_allocate rfl

end Run

end Script

def Script.Store.Renews (scope : Nat) (s s' : Store) : Prop :=
  ∃ a, s.objects.size ≤ a ∧ s'.entryOf? scope listHelperName = some (.ref a)

theorem Script.Store.Renews.extended {scope : Nat} {s s' s'' : Store} (renewed : s.Renews scope s')
    (extended : s'.Extended s'') : s.Renews scope s'' := by
  obtain ⟨a, fresh, entry⟩ := renewed
  obtain ⟨o, found, member⟩ := Option.bind_eq_some_iff.1 entry
  exact ⟨a, fresh, Option.bind_eq_some_iff.2 ⟨o, extended.found found, member⟩⟩

namespace Session

def Encloses (s : Session) : Prop :=
  ∀ name address, s.scopes.get? name = some address → s.store.Encloses address

theorem Encloses.addScope {s : Session} (h : s.Encloses) (sound : s.Sound) (added : Text)
    (content : Datum) : (s.addScope added content).Encloses := by
  have leads : Run.Leads Store.Extended (Run.make [] content) := Run.leads_make [] content
  unfold Session.addScope
  cases ran : Run.make [] content s.store with
  | error stop after =>
    exact fun name address known => (h name address known).extended (sound.scopes name address known)
      (leads.error ran)
  | ok v after =>
    have old : Encloses ⟨s.scopes, after⟩ := fun name address known =>
      (h name address known).extended (sound.scopes name address known) (leads.ok ran)
    cases v with
    | ref made =>
      intro name address known
      by_cases same : name = added
      · subst same
        rw [Members.get?_set_self] at known
        cases known
        exact Run.enclosed_make [] content _ _ _ ran
      · rw [Members.get?_set_of_ne _ _ _ _ same] at known
        exact old name address known
    | _ => exact old

theorem encloses_withScopes (contents : Members Datum) : (withScopes contents).Encloses := by
  have start : Encloses .empty := by
    intro name address known
    cases known
  have all (s : Session) (h : s.Encloses) (sound : s.Sound) :
      Encloses (contents.foldl (fun s m => s.addScope m.1 m.2) s) := by
    induction contents generalizing s with
    | nil => exact h
    | cons m rest ih => exact ih _ (h.addScope sound m.1 m.2) (sound.addScope m.1 m.2)
  exact all .empty start sound_empty

section

variable {s : Session} {scope template : Text} {address : Nat} {options : Datum} {included : Members Text}

theorem ensureScope_of_known (known : s.scopes.get? scope = some address) :
    s.ensureScope scope = (s, address) := by
  unfold ensureScope
  rw [known]

theorem render_of_known (known : s.scopes.get? scope = some address) (given : options ≠ .null)
    (included : Members Text) (template : Text) :
    s.render scope options included template =
      match Program.ofTemplate (expansionPart options.members) included template with
      | .error report => (.error (.error report), s)
      | .ok program =>
        let (answer, s) :=
          ofRun s.scopes (renderProgram program address (evaluationPart options.members)) s.store
        (Rendering.ofAnswer answer, s) := by
  unfold render
  split
  · exact absurd rfl given
  · exact ensureScope_of_known known ▸ rfl

theorem render_congr {options' : Datum} (known : s.scopes.get? scope = some address)
    (given : options ≠ .null) (given' : options' ≠ .null)
    (expansion : expansionPart options'.members = expansionPart options.members)
    (evaluation : EvaluationOptions.parse (evaluationPart options'.members) =
      EvaluationOptions.parse (evaluationPart options.members)) :
    s.render scope options' included template = s.render scope options included template := by
  rw [render_of_known known given, render_of_known known given', expansion]
  unfold renderProgram
  rw [evaluation]

theorem renderProgram_of_compiled {program : Program} {executable : Executable} {options : Datum}
    {report : ErrorReport} {store start after : Store}
    (prepared : Run.prepareScope address (store.logged program.expandedEntry) = .ok () start)
    (compiled : Run.compile .standard .script program.code address start = .ok (.ok executable) after)
    (refused : EvaluationOptions.parse options = .error report) :
    renderProgram program address options store =
      .ok (.refused report) (after.logged program.compiledEntry) := by
  have loaded : Run.load .standard program address .script store =
      .ok (.loaded ⟨program, address, executable⟩) (after.logged program.compiledEntry) :=
    (Run.load_of_prepare prepared .script).trans ((bind_ok compiled).trans rfl)
  unfold renderProgram
  rw [bind_ok loaded]
  dsimp only
  rw [refused]
  rfl

theorem renderProgram_of_diagnostic {program : Program} {diagnostic : Diagnostic} {options : Datum}
    {store start after : Store}
    (prepared : Run.prepareScope address (store.logged program.expandedEntry) = .ok () start)
    (compiled : Run.compile .standard .script program.code address start = .ok (.error diagnostic) after) :
    renderProgram program address options store =
      .ok (.failed (.ofDiagnostic program diagnostic))
        (after.logged (ErrorTrail.ofDiagnostic program diagnostic).compilationEntry) := by
  have loaded : Run.load .standard program address .script store =
      .ok (.failed (.ofDiagnostic program diagnostic))
        (after.logged (ErrorTrail.ofDiagnostic program diagnostic).compilationEntry) :=
    (Run.load_of_prepare prepared .script).trans ((bind_ok compiled).trans rfl)
  unfold renderProgram
  rw [bind_ok loaded]
  rfl

theorem renderProgram_of_stop {program : Program} (options : Datum) {stop : Stop}
    {store start after : Store}
    (prepared : Run.prepareScope address (store.logged program.expandedEntry) = .ok () start)
    (compiled : Run.compile .standard .script program.code address start = .error stop after) :
    renderProgram program address options store = .error stop after := by
  have loaded : Run.load .standard program address .script store = .error stop after :=
    (Run.load_of_prepare prepared .script).trans (bind_error compiled)
  exact bind_error loaded

theorem Sound.prepareScope (h : s.Sound) (known : s.scopes.get? scope = some address) (program : Program) :
    ∃ start, Run.prepareScope address (s.store.logged program.expandedEntry) = .ok () start ∧
      s.store.SetUp address [] start ∧ s.store.Renews address start := by
  have inside : address < (s.store.logged program.expandedEntry).objects.size :=
    h.scopes scope address known
  obtain ⟨start, prepared, setUp, renewed⟩ := Run.prepareScope_setUp (Array.getElem?_eq_getElem inside)
  exact ⟨start, prepared, ⟨setUp.others, setUp.entries⟩, renewed⟩

end

/-- The rendering reports invalid options and leaves the object of the scope as it was. -/
structure Refuses (s : Session) (scope : Text) (address : Nat) (options : Datum) (included : Members Text)
    (template : Text) : Prop where
  reported : ∃ optionSet issues, (s.render scope options included template).1 =
    .error (.error (Options.reported optionSet issues))
  unchanged : (s.render scope options included template).2.store.objects[address]? =
    s.store.objects[address]?

/-- The scope is set up and the code of a program is compiled before invalid options are reported. They are
not if the compilation fails. -/
def ReportsLate (s : Session) (scope : Text) (address : Nat) (options : Datum) (included : Members Text)
    (template : Text) (program : Program) : Prop :=
  ∃ start, s.store.SetUp address [] start ∧ s.store.Renews address start ∧
    match Run.compile .standard .script program.code address start with
    | .ok (.ok _) after => s.render scope options included template =
        (.error (.error (Options.reported "evaluation options" (evaluationIssues options.members))),
          ⟨s.scopes, after.logged program.compiledEntry⟩)
    | .ok (.error diagnostic) after => s.render scope options included template =
        (.ok (.failed (.ofDiagnostic program diagnostic)),
          ⟨s.scopes, after.logged (ErrorTrail.ofDiagnostic program diagnostic).compilationEntry⟩)
    | .error _ _ => ∃ thrown, (s.render scope options included template).1 = .error thrown

/-- Invalid options are reported just if the code of a program can be parsed, and the scope has got another
helper either way. -/
structure ReportsParsed (s : Session) (scope : Text) (address : Nat) (options : Datum)
    (included : Members Text) (template : Text) (program : Program) : Prop where
  renewed : s.store.Renews address (s.render scope options included template).2.store
  ofParsed : ∀ body, parse program.code = .ok body → (s.render scope options included template).1 =
    .error (.error (Options.reported "evaluation options" (evaluationIssues options.members)))
  ofFault : ∀ fault, parse program.code = .error fault →
    ∃ trail, (s.render scope options included template).1 = .ok (.failed trail)

/-- What becomes of invalid options of a rendering. -/
structure ChecksOptions (s : Session) (scope : Text) (address : Nat) (options : Datum)
    (included : Members Text) (template : Text) : Prop where
  /-- What is wrong with the options of expansion is reported, and nothing else is done. -/
  expansion : expansionIssues options.members ≠ [] →
    s.render scope options included template =
      (.error (.error (Options.reported "expansion options" (expansionIssues options.members))), s)
  /-- What is wrong with the others is reported when the code has been compiled. -/
  evaluation : ∀ {program}, evaluationIssues options.members ≠ [] →
    Program.ofTemplate (expansionPart options.members) included template = .ok program →
    s.ReportsLate scope address options included template program
  /-- When the code is one function, nothing but a fault of the code keeps it from being reported. -/
  contained : ∀ {program}, evaluationIssues options.members ≠ [] →
    Program.ofTemplate (expansionPart options.members) included template = .ok program →
    program.Contained →
    s.ReportsParsed scope address options included template program
  /-- All other options pass both checks and render as valid ones do: the form of the output is not looked
  at. -/
  output : expansionIssues options.members = [] → evaluationIssues options.members = [] →
    (∃ o, ExpansionOptions.parse (expansionPart options.members) = .ok o) ∧
    (∃ o, EvaluationOptions.parse (evaluationPart options.members) = .ok o) ∧
    Valid (.object (options.members.erase "returnAsLines")) ∧
    s.render scope options included template =
      s.render scope (.object (options.members.erase "returnAsLines")) included template
  /-- Of the options that the checks find invalid, those with invalid options of expansion are the ones that
  are reported and have no effect. -/
  refuses_iff : expansionIssues options.members ≠ [] ∨ evaluationIssues options.members ≠ [] →
    (expansionIssues options.members = [] → ∃ program,
      Program.ofTemplate (expansionPart options.members) included template = .ok program ∧
        program.Contained) →
    s.store.Encloses address →
    (s.Refuses scope address options included template ↔ expansionIssues options.members ≠ [])

section

variable {s : Session} {scope template : Text} {address : Nat} {options : Datum} {included : Members Text}

theorem Sound.render_of_issues (h : s.Sound) (known : s.scopes.get? scope = some address)
    (given : options ≠ .null) {program : Program} (wrong : evaluationIssues options.members ≠ [])
    (expanded : Program.ofTemplate (expansionPart options.members) included template = .ok program) :
    s.ReportsLate scope address options included template program := by
  obtain ⟨start, prepared, setUp, renewed⟩ := h.prepareScope known program
  refine ⟨start, setUp, renewed, ?_⟩
  have refused := EvaluationOptions.parse_evaluationPart_of_issues wrong
  rw [render_of_known known given, expanded]
  dsimp only
  cases compiled : Run.compile .standard .script program.code address start with
  | ok outcome after =>
    cases outcome with
    | ok executable =>
      dsimp only
      rw [ofRun_ok (renderProgram_of_compiled prepared compiled refused)]
      rfl
    | error diagnostic =>
      dsimp only
      rw [ofRun_ok (renderProgram_of_diagnostic prepared compiled)]
      rfl
  | error stop after =>
    have thrown := (ofRun_error (R := Store.Grows) s.scopes
      (renderProgram_of_stop (evaluationPart options.members) prepared compiled)).1
    dsimp only
    generalize Session.ofRun s.scopes _ s.store = outcome at thrown ⊢
    obtain ⟨answer, left⟩ := outcome
    cases answer with
    | refused report => exact ⟨_, rfl⟩
    | thrown v => exact ⟨_, rfl⟩
    | _ => exact thrown.elim

theorem Sound.render_contained (h : s.Sound) (known : s.scopes.get? scope = some address)
    (given : options ≠ .null) {program : Program} (wrong : evaluationIssues options.members ≠ [])
    (expanded : Program.ofTemplate (expansionPart options.members) included template = .ok program)
    (contained : program.Contained) :
    s.ReportsParsed scope address options included template program := by
  obtain ⟨start, -, renewed, outcome⟩ := h.render_of_issues known given wrong expanded
  have compiles := Run.compileScript_contained .standard contained address start
  change (∃ diagnostic after, Run.compile .standard .script program.code address start = _ ∧ _) ∨
    ∃ executable after, Run.compile .standard .script program.code address start = _ ∧ _ at compiles
  rcases compiles with ⟨diagnostic, after, compiled, ⟨fault, faulty⟩, extended⟩ |
    ⟨executable, after, compiled, ⟨body, parsed⟩, extended⟩
  · rw [compiled] at outcome
    have kept : s.store.Renews address after := renewed.extended extended
    refine ⟨?_, fun body parsed => ?_, fun _ _ => ⟨_, congrArg Prod.fst outcome⟩⟩
    · rw [outcome]
      exact kept
    · cases faulty.symm.trans parsed
  · rw [compiled] at outcome
    have kept : s.store.Renews address after := renewed.extended extended
    refine ⟨?_, fun _ _ => congrArg Prod.fst outcome, fun fault faulty => ?_⟩
    · rw [outcome]
      exact kept
    · cases parsed.symm.trans faulty

end

theorem Sound.checksOptions {s : Session} (h : s.Sound) {scope : Text} {address : Nat}
    (known : s.scopes.get? scope = some address) {options : Datum} (given : options ≠ .null)
    (included : Members Text) (template : Text) :
    s.ChecksOptions scope address options included template := by
  have expansion : expansionIssues options.members ≠ [] →
      s.render scope options included template =
        (.error (.error (Options.reported "expansion options" (expansionIssues options.members))), s) := by
    intro wrong
    rw [render_of_known known given, Program.ofTemplate_of_issues wrong]
  refine ⟨expansion, h.render_of_issues known given, h.render_contained known given, fun columns rest => ?_,
    fun wrong expands held => ⟨fun refuses columns => ?_, fun columns => ?_⟩⟩
  · obtain ⟨part, same, fine, output, parsed⟩ := checks_erase rest
    exact ⟨ExpansionOptions.exists_parse_expansionPart columns,
      EvaluationOptions.exists_parse_evaluationPart rest, ⟨rfl, same.trans columns, fine, output⟩,
      (render_congr known given Datum.noConfusion part parsed).symm⟩
  · obtain ⟨program, expanded, contained⟩ := expands columns
    have rest : evaluationIssues options.members ≠ [] := wrong.resolve_left (not_not_intro columns)
    obtain ⟨a, fresh, entry⟩ := (h.render_contained known given rest expanded contained).renewed
    rw [Store.entryOf?, refuses.unchanged] at entry
    exact absurd (held listHelperName a entry) (Nat.not_lt.2 fresh)
  · have whole := expansion columns
    exact ⟨⟨_, _, congrArg Prod.fst whole⟩, by rw [whole]⟩

end Session

/-- In any session, a rendering against a scope checks its options as told, whatever the scope holds and
whatever steps came before. A scope as it was handed in refers to objects that are there. -/
theorem session_checksOptions (contents : Members Datum) (steps : List Step) {scope : Text} {address : Nat}
    (known : ((Session.withScopes contents).performAll steps).2.scopes.get? scope = some address)
    {options : Datum} (given : options ≠ .null) (included : Members Text) (template : Text) :
    ((Session.withScopes contents).performAll steps).2.ChecksOptions scope address options included
      template ∧ (steps = [] → (Session.withScopes contents).store.Encloses address) := by
  have sound := (Session.sound_withScopes contents).performAll steps
  refine ⟨sound.checksOptions known given included template, fun start => ?_⟩
  subst start
  exact Session.encloses_withScopes contents scope address known

theorem session_checksOptions_unknownKey :
    ∃ address, (Session.withScopes [("scope", .object [])]).scopes.get? "scope" = some address ∧
      (Session.withScopes [("scope", .object [])]).ChecksOptions "scope" address
        (.object [("bogus", .bool true)]) [] "@\x7b" ∧
      (Session.withScopes [("scope", .object [])]).store.Encloses address := by
  have present : ((Session.withScopes [("scope", .object [])]).scopes.get? "scope").isSome := by
    decide +kernel
  obtain ⟨address, known⟩ := Option.isSome_iff_exists.1 present
  have given : Datum.object [("bogus", .bool true)] ≠ .null := Datum.noConfusion
  obtain ⟨checks, encloses⟩ :=
    session_checksOptions [("scope", .object [])] [] known given [] "@\x7b"
  exact ⟨address, known, checks, encloses rfl⟩

namespace Session

/-- The trail of a rendering that failed without an error. -/
def renderedTrail? (outcome : Except Thrown Rendering × Session) : Option ErrorTrail :=
  match outcome.1 with
  | .ok (.failed trail) => some trail
  | _ => none

def namesIn (s : Session) (scope : Text) : List Text :=
  match (s.scopes.get? scope).bind fun address => s.store.objects[address]? with
  | some o => o.members.map Prod.fst
  | none => []

end Session

/-- A template that cannot be compiled: an unknown key is not reported, and the scope has changed. -/
theorem render_unreported :
    let options : Datum := .object [("bogus", .bool true)]
    let s := Session.withScopes [("scope", .object [])]
    ¬Valid options ∧ (Program.ofTemplate (expansionPart options.members) [] "@\x7b").isOk ∧
    (Session.renderedTrail? (s.render "scope" options [] "@\x7b")).isSome ∧
    s.namesIn "scope" = [] ∧ (s.render "scope" options [] "@\x7b").2.namesIn "scope" =
      [indexedName, entriesName, textHelperName, listHelperName] := by
  refine ⟨fun valid => ?_, ?_⟩
  · have found : evaluationIssues (Datum.object [("bogus", .bool true)]).members ≠ [] := by decide +kernel
    exact found valid.evaluation
  · decide +kernel

end LineTemplate

import LineTemplate.Proofs.Evaluation.ScopeSetup
import LineTemplate.Proofs.Evaluation.SessionSteps

/-!
The entries of scopes over a session. Scopes are shared by templates, callers and running programs; a step
changes them in a way that is known before a program of its own is compiled or runs, and an entry stays
until something overwrites it.
-/

set_option autoImplicit false

namespace LineTemplate

open Script

namespace Script

namespace Run

def Inside (run : Run Value) : Prop := ∀ s a s', run s = .ok (.ref a) s' → a < s'.objects.size

theorem Inside.bind {α : Type} {x : Run α} {f : α → Run Value} (next : ∀ b, Inside (f b)) :
    Inside (x >>= f) := by
  intro s a s' ran
  obtain ⟨b, t, -, rest⟩ := exists_of_bind_ok ran
  exact next b t a s' rest

theorem inside_allocate (o : Obj) : Inside (allocate o) := by
  intro s a s' ran
  cases ran
  exact Nat.lt_of_lt_of_eq (Nat.lt_succ_self _) (Array.size_push o).symm

theorem inside_makeFunction (frames : List Frame) (behaviour : HostFunction) :
    Inside (makeFunction frames behaviour) := by
  unfold makeFunction
  cases behaviour with
  | const | decorate => exact .bind fun _ => inside_allocate _
  | _ => exact inside_allocate _

theorem inside_make (frames : List Frame) (d : Datum) : Inside (make frames d) := by
  unfold make
  cases d with
  | undefined | null | bool | number | bigint | text | symbol =>
    intro s a s' ran
    cases ran
  | array | object | map | set => exact .bind fun _ => inside_allocate _
  | function behaviour => exact inside_makeFunction frames behaviour
  | boxedText | error | generator | iterable | someFunction | someIterable => exact inside_allocate _

end Run

end Script

namespace Session

def withScopes (contents : Members Datum) : Session :=
  contents.foldl (fun s (name, content) => s.addScope name content) .empty

/-- The objects of named scopes and of the scopes of loaded templates are there. -/
structure Sound (s : Session) : Prop where
  scopes : ∀ name address, s.scopes.get? name = some address → address < s.store.objects.size
  templates : ∀ id t, s.store.templates.get? id = some t → t.scope < s.store.objects.size

theorem sound_empty : Sound .empty :=
  ⟨fun _ _ found => (nomatch found), fun _ _ found => (nomatch found)⟩

theorem Sound.mono {s s' : Session} (h : s.Sound) (scopes : s'.scopes = s.scopes)
    (size : s.store.objects.size ≤ s'.store.objects.size)
    (templates : s'.store.templates = s.store.templates) : s'.Sound where
  scopes name address found := Nat.lt_of_lt_of_le (h.scopes name address (scopes ▸ found)) size
  templates id t loaded := Nat.lt_of_lt_of_le (h.templates id t (templates ▸ loaded)) size

theorem Sound.grown {s s' : Session} (h : s.Sound) (scopes : s'.scopes = s.scopes)
    (grows : s.store.Grows s'.store) : s'.Sound := h.mono scopes grows.size grows.templates

theorem Sound.setScope {s : Session} (h : s.Sound) (name : Text) {address : Nat}
    (inside : address < s.store.objects.size) : Sound ⟨s.scopes.set name address, s.store⟩ where
  scopes other found found' := by
    by_cases same : other = name
    · subst same
      rw [Members.get?_set_self] at found'
      cases found'
      exact inside
    · rw [Members.get?_set_of_ne _ _ _ _ same] at found'
      exact h.scopes other _ found'
  templates := h.templates

theorem Sound.addScope {s : Session} (h : s.Sound) (name : Text) (content : Datum) :
    (s.addScope name content).Sound := by
  have made : Run.Leads Store.Grows (Run.make [] content) := Run.leads_make [] content
  unfold Session.addScope
  cases ran : Run.make [] content s.store with
  | ok v after =>
    have kept : Sound ⟨s.scopes, after⟩ := h.grown rfl (made.ok ran)
    cases v with
    | ref address => exact kept.setScope name (Run.inside_make [] content _ _ _ ran)
    | _ => exact kept
  | error stop after => exact h.grown rfl (made.error ran)

theorem sound_withScopes (contents : Members Datum) : (withScopes contents).Sound := by
  have all (s : Session) (h : s.Sound) :
      Sound (contents.foldl (fun s (name, content) => s.addScope name content) s) := by
    induction contents generalizing s with
    | nil => exact h
    | cons m rest ih => exact ih _ (h.addScope m.1 m.2)
  exact all .empty sound_empty

theorem Sound.ensureScope {s : Session} (h : s.Sound) (name : Text) :
    (s.ensureScope name).1.Sound ∧
      (s.ensureScope name).2 < (s.ensureScope name).1.store.objects.size := by
  unfold Session.ensureScope
  cases found : s.scopes.get? name with
  | some address => exact ⟨h, h.scopes name address found⟩
  | none =>
    have grows : s.store.Grows (addObject s.store).1 :=
      (Run.leads_allocate (.ofKind .plain) : Run.Leads Store.Grows _) s.store
    have inside : (addObject s.store).2 < (addObject s.store).1.objects.size :=
      Nat.lt_of_lt_of_eq (Nat.lt_succ_self _) (Array.size_push _).symm
    have kept : Sound ⟨s.scopes, (addObject s.store).1⟩ := h.grown rfl grows
    exact ⟨kept.setScope name inside, inside⟩

theorem Sound.targetScope {s : Session} (h : s.Sound) (name : Option Text) :
    (s.targetScope name).1.Sound ∧
      (s.targetScope name).2 < (s.targetScope name).1.store.objects.size := by
  cases name with
  | some name => exact h.ensureScope name
  | none =>
    have grows : s.store.Grows (addObject s.store).1 :=
      (Run.leads_allocate (.ofKind .plain) : Run.Leads Store.Grows _) s.store
    exact ⟨h.grown rfl grows, Nat.lt_of_lt_of_eq (Nat.lt_succ_self _) (Array.size_push _).symm⟩

theorem Sound.ofRun {scopes : Members Nat} {store : Store} (h : Sound ⟨scopes, store⟩)
    {run : Run StepAnswer} (leads : Run.Leads Store.Grows run) : (ofRun scopes run store).2.Sound :=
  h.grown (ofRun_scopes scopes run store) (ofRun_leads leads store)

theorem Sound.load {s : Session} (h : s.Sound) (r : LoadRequest) : (s.load r).2.Sound := by
  obtain ⟨sound, inside⟩ := h.targetScope r.scope
  cases expanded : Program.ofTemplate r.options r.included r.template with
  | error report =>
    rw [load_of_error expanded]
    exact sound
  | ok program =>
    rw [load_of_ok expanded]
    generalize s.targetScope r.scope = target at sound inside
    obtain ⟨t, scope⟩ := target
    dsimp only at sound inside ⊢
    have left := load_leaves .standard program scope r.evaluator t.store
    cases ran : Run.load .standard program scope r.evaluator t.store with
    | ok result s' =>
      rw [ran] at left
      have kept : (Run.load .standard program scope r.evaluator >>= keepLoaded r.id program) t.store = _ :=
        bind_ok ran
      cases result with
      | loaded bound =>
        obtain ⟨-, bound_scope, mid, grows, rfl⟩ := left
        rw [ofRun_ok (kept.trans rfl)]
        have before : Sound ⟨t.scopes, mid⟩ := sound.mono rfl grows.size grows.templates
        refine ⟨before.scopes, fun id other loaded => ?_⟩
        have stored : (mid.templates.set r.id bound).get? id = some other := loaded
        by_cases same : id = r.id
        · rw [same, Members.get?_set_self] at stored
          cases stored
          rw [bound_scope]
          exact Nat.lt_of_lt_of_le inside grows.size
        · rw [Members.get?_set_of_ne _ _ _ _ same] at stored
          exact before.templates id other stored
      | failed trail =>
        obtain ⟨-, mid, grows, rfl⟩ := left
        rw [ofRun_ok (kept.trans rfl)]
        exact sound.mono rfl grows.size grows.templates
    | error stop s' =>
      rw [ran] at left
      have broken : (Run.load .standard program scope r.evaluator >>= keepLoaded r.id program) t.store =
          .error stop s' := bind_error ran
      have grows := HeapRelation.trans left (ofRun_error (R := Store.Grows) t.scopes broken).2
      exact sound.mono (ofRun_scopes _ _ _) grows.size grows.templates

theorem Sound.evaluate {s : Session} (h : s.Sound) (id : Text) (options : Datum)
    (overrides : Members Datum) : (s.evaluate id options overrides).2.Sound := by
  cases loaded : s.store.templates.get? id with
  | none =>
    rw [evaluate_of_none loaded]
    exact h
  | some t =>
    cases accepted : EvaluationOptions.parse options with
    | error report =>
      rw [evaluate_of_error loaded accepted]
      exact h
    | ok o =>
      have left := evaluate_leaves .standard [] t o overrides s.store
      rw [evaluate_of_ok loaded accepted]
      cases ran : t.evaluate .standard [] o overrides s.store with
      | ok result s' =>
        rw [ran] at left
        obtain ⟨-, -, -, mid, own, -, -, grows, -, rfl⟩ := left
        have answered : (t.evaluate .standard [] o overrides >>= fun result => pure result.answer) s.store =
          _ := bind_ok ran
        rw [ofRun_ok (answered.trans rfl)]
        exact h.mono rfl grows.size grows.templates
      | error stop s' =>
        rw [ran] at left
        have broken : (t.evaluate .standard [] o overrides >>= fun result => pure result.answer) s.store =
          .error stop s' := bind_error ran
        have told := (ofRun_error (R := Store.Grows) s.scopes broken).2
        exact h.grown (ofRun_scopes _ _ _) (HeapRelation.trans left told)

theorem Sound.perform {s : Session} (h : s.Sound) (step : Step) : (s.perform step).2.Sound := by
  cases step with
  | load r => exact h.load r
  | evaluate id options overrides => exact h.evaluate id options overrides
  | listScope name => exact (h.ensureScope name).1.ofRun (leads_listing _)
  | listScopeOf id =>
    rw [perform_listScopeOf]
    cases s.store.templates.get? id with
    | none => exact h
    | some t => exact h.ofRun (leads_listing _)
  | set scope name value =>
    exact (h.ensureScope scope).1.ofRun (leads_setEntry (Run.leads_assignEntry [] [] _ name) value)
  | push scope name value =>
    exact (h.ensureScope scope).1.ofRun (leads_pushEntry Run.leads_modifySlots _ name value)
  | delete scope name =>
    exact (h.ensureScope scope).1.ofRun (leads_deleteEntry (Run.leads_eraseMember _ name))

theorem Sound.performAll {s : Session} (h : s.Sound) (steps : List Step) :
    (s.performAll steps).2.Sound := by
  induction steps generalizing s with
  | nil => exact h
  | cons step rest ih => exact ih (h.perform step)

end Session

namespace Script

theorem Store.inside {s : Store} {scope : Nat} {key : Text} {v : Value}
    (entry : s.entryOf? scope key = some v) : scope < s.objects.size := by
  obtain ⟨o, found, -⟩ := Option.bind_eq_some_iff.1 entry
  exact (Array.getElem?_eq_some_iff.1 found).1

/-- An entry that is found in the first store is found in the second. -/
def Store.Shows (scope : Nat) (key : Text) (v : Value) (s s' : Store) : Prop :=
  s.entryOf? scope key = some v → s'.entryOf? scope key = some v

instance (scope : Nat) (key : Text) (v : Value) : GrowthRelation (Store.Shows scope key v) where
  trans first second entry := second (first entry)
  grow _ objects _ _ := by
    intro entry
    unfold Store.entryOf?
    rw [objects scope (Store.inside entry)]
    exact entry

theorem Run.leads_modifyObject_shows {scope : Nat} {key : Text} {v : Value} (address : Nat)
    {f : Obj → Obj} (spared : address = scope → ∀ o, (f o).members.get? key = o.members.get? key) :
    Leads (Store.Shows scope key v) (modifyObject address f) := by
  intro s entry
  obtain ⟨o, found, member⟩ := Option.bind_eq_some_iff.1 entry
  change ((s.objects.modify address f)[scope]?.bind fun o => o.members.get? key) = some v
  rw [Array.getElem?_modify]
  by_cases here : address = scope
  · rw [if_pos here, found, Option.map_some, Option.bind_some, spared here]
    exact member
  · rw [if_neg here, found]
    exact member

end Script

namespace Session

def compileStart (s : Session) (r : LoadRequest) (program : Program) : Store :=
  (Run.prepareScope (s.targetScope r.scope).2).after
    ((s.targetScope r.scope).1.store.logged program.expandedEntry)

def runStart (s : Session) (t : BoundTemplate) (overrides : Members Datum) : Store :=
  (t.prepare [] overrides).after s.store

/-- The step does not overwrite an entry of a scope: it is none that sets or deletes it, it has no override
of this name, and what is compiled or run leaves the entry as it was at the start. -/
def Spares (s : Session) (scope : Nat) (key : Text) : Step → Prop
  | .load r => ∀ program, Program.ofTemplate r.options r.included r.template = .ok program →
      (s.load r).2.store.entryOf? scope key = (s.compileStart r program).entryOf? scope key
  | .evaluate id options overrides => ∀ t o, s.store.templates.get? id = some t →
      EvaluationOptions.parse options = .ok o →
      (t.scope = scope → key ∉ overrides.map Prod.fst) ∧
      (s.evaluate id options overrides).2.store.entryOf? scope key =
        (s.runStart t overrides).entryOf? scope key
  | .set name other _ | .delete name other => s.scopes.get? name = some scope → other ≠ key
  | .listScope _ | .listScopeOf _ | .push _ _ _ => True

def SparesAll (s : Session) (scope : Nat) (key : Text) : List Step → Prop
  | [] => True
  | step :: rest => s.Spares scope key step ∧ (s.perform step).2.SparesAll scope key rest

section

variable {s : Session} {scope : Nat} {key : Text} {v : Value}

theorem compileStart_setUp (h : s.Sound) (r : LoadRequest) (program : Program) :
    Run.prepareScope (s.targetScope r.scope).2
        ((s.targetScope r.scope).1.store.logged program.expandedEntry) = .ok () (s.compileStart r program) ∧
      (s.targetScope r.scope).1.store.SetUp (s.targetScope r.scope).2 [] (s.compileStart r program) := by
  have there : ∃ o, ((s.targetScope r.scope).1.store.logged program.expandedEntry).objects[
      (s.targetScope r.scope).2]? = some o := ⟨_, Array.getElem?_eq_getElem (h.targetScope r.scope).2⟩
  obtain ⟨o, found⟩ := there
  obtain ⟨start, prepared, setUp, -⟩ := Run.prepareScope_setUp found
  have same : s.compileStart r program = start := Run.after_ok prepared
  rw [same]
  exact ⟨prepared, setUp.others, setUp.entries⟩

theorem runStart_setUp {t : BoundTemplate} (overrides : Members Datum)
    (inside : t.scope < s.store.objects.size) :
    ∃ assigned made, Run.makeMembers [] overrides s.store = .ok assigned made ∧
      t.prepare [] overrides s.store = .ok () (s.runStart t overrides) ∧
      s.store.SetUp t.scope assigned (s.runStart t overrides) := by
  obtain ⟨assigned, made, start, ran, prepared, setUp⟩ :=
    t.prepare_setUp [] overrides (Array.getElem?_eq_getElem inside)
  have same : s.runStart t overrides = start := Run.after_ok prepared
  rw [same]
  exact ⟨assigned, made, ran, prepared, setUp⟩

/-- An object that was there before and that a name gives is the scope of the name: one that is made for a
name is new. -/
theorem get?_scopes_of_ensureScope {name : Text} (inside : scope < s.store.objects.size)
    (here : (s.ensureScope name).2 = scope) : s.scopes.get? name = some scope := by
  unfold Session.ensureScope at here
  cases found : s.scopes.get? name with
  | some address =>
    rw [found] at here
    exact congrArg some here
  | none =>
    rw [found] at here
    exact absurd (here ▸ inside) (Nat.lt_irrefl _)

theorem load_shows (h : s.Sound) (free : key ∉ helperNames) {r : LoadRequest}
    (spared : s.Spares scope key (.load r)) : s.store.Shows scope key v (s.load r).2.store := by
  have target : s.store.Shows scope key v (s.targetScope r.scope).1.store := s.targetScope_leads r.scope
  intro entry
  cases expanded : Program.ofTemplate r.options r.included r.template with
  | error report =>
    rw [load_of_error expanded]
    exact target entry
  | ok program =>
    rw [spared program expanded]
    exact (compileStart_setUp h r program).2.entry_of_notMem free (fun _ => List.not_mem_nil)
      (target entry)

theorem evaluate_shows (h : s.Sound) (free : key ∉ helperNames) {id : Text} {options : Datum}
    {overrides : Members Datum} (spared : s.Spares scope key (.evaluate id options overrides)) :
    s.store.Shows scope key v (s.evaluate id options overrides).2.store := by
  intro entry
  cases loaded : s.store.templates.get? id with
  | none =>
    rw [evaluate_of_none loaded]
    exact entry
  | some t =>
    cases accepted : EvaluationOptions.parse options with
    | error report =>
      rw [evaluate_of_error loaded accepted]
      exact entry
    | ok o =>
      obtain ⟨absent, left⟩ := spared t o loaded accepted
      obtain ⟨assigned, made, ran, -, setUp⟩ := runStart_setUp overrides (h.templates id t loaded)
      rw [left]
      refine setUp.entry_of_notMem free (fun same => ?_) entry
      rw [Run.makeMembers_names ran]
      exact absent same

theorem perform_shows (h : s.Sound) (free : key ∉ helperNames) {step : Step}
    (spared : s.Spares scope key step) : s.store.Shows scope key v (s.perform step).2.store := by
  have ensured (name : Text) : s.store.Shows scope key v (s.ensureScope name).1.store :=
    s.ensureScope_leads name
  cases step with
  | load r => exact load_shows h free spared
  | evaluate id options overrides => exact evaluate_shows h free spared
  | listScope name =>
    exact fun entry => ofRun_leads (R := Store.Shows scope key v) (leads_listing _) _
      (ensured name entry)
  | listScopeOf id =>
    intro entry
    rw [perform_listScopeOf]
    cases s.store.templates.get? id with
    | none => exact entry
    | some t => exact ofRun_leads (R := Store.Shows scope key v) (leads_listing _) _ entry
  | set name other value =>
    intro entry
    refine ofRun_leads (R := Store.Shows scope key v) (leads_setEntry (fun w => ?_) value) _
      (ensured name entry)
    rw [Run.assignEntry_of_notMem [] _ List.not_mem_nil]
    exact Run.leads_modifyObject_shows _ fun here o => o.members.get?_assign_of_ne _ _ w
      (spared (get?_scopes_of_ensureScope (Store.inside entry) here)).symm
  | push name other value =>
    intro entry
    refine ofRun_leads (R := Store.Shows scope key v) (leads_pushEntry (fun a f => ?_) _ other value) _
      (ensured name entry)
    exact Run.leads_modifyObject_shows a fun _ o => by
      obtain ⟨kind, members, hidden, symbols, given⟩ := o
      cases kind <;> rfl
  | delete name other =>
    intro entry
    refine ofRun_leads (R := Store.Shows scope key v) (leads_deleteEntry ?_) _ (ensured name entry)
    exact Run.leads_modifyObject_shows _ fun here o => o.members.get?_erase_of_ne
      (spared (get?_scopes_of_ensureScope (Store.inside entry) here)).symm

theorem performAll_shows (h : s.Sound) (free : key ∉ helperNames) {steps : List Step}
    (spared : s.SparesAll scope key steps) : s.store.Shows scope key v (s.performAll steps).2.store := by
  induction steps generalizing s with
  | nil => exact id
  | cons step rest ih =>
    intro entry
    exact ih (h.perform step) spared.2 (perform_shows h free spared.1 entry)

end

/-- What loads and evaluations do to the entries of scopes. -/
structure FramesScopes (s : Session) : Prop where
  /-- A load finds its scope as it is, or starts with a new one; no other object changes. -/
  target : ∀ name, s.store.Extended (s.targetScope name).1.store ∧
    (∀ known, name = some known → (s.scopes.get? known).isSome → (s.targetScope name).1 = s)
  /-- When an expansion fails, that is all. -/
  refusedLoad : ∀ {r report}, Program.ofTemplate r.options r.included r.template = .error report →
    s.load r = (.refused report, (s.targetScope r.scope).1)
  /-- When options are invalid, nothing is done at all. -/
  refusedEvaluation : ∀ {id t options report} overrides, s.store.templates.get? id = some t →
    EvaluationOptions.parse options = .error report →
    s.evaluate id options overrides = (.refused report, s)
  /-- Every other load sets the scope up without overrides, and is a compilation from there. -/
  load : ∀ {r program}, Program.ofTemplate r.options r.included r.template = .ok program →
    (s.targetScope r.scope).1.store.SetUp (s.targetScope r.scope).2 [] (s.compileStart r program) ∧
    s.load r = ofRun (s.targetScope r.scope).1.scopes
      ((Run.compile .standard r.evaluator program.code (s.targetScope r.scope).2 >>=
        Run.bindCompiled program (s.targetScope r.scope).2) >>= keepLoaded r.id program)
      (s.compileStart r program)
  /-- Every other evaluation sets the scope up with the overrides, and is a run from there. -/
  evaluation : ∀ {id t options o} overrides, s.store.templates.get? id = some t →
    EvaluationOptions.parse options = .ok o →
    (∃ assigned made, Run.makeMembers [] overrides s.store = .ok assigned made ∧
      s.store.SetUp t.scope assigned (s.runStart t overrides)) ∧
    s.evaluate id options overrides = ofRun s.scopes
      ((Run.attempt (t.run .standard []) >>= t.conclude .standard [] o) >>=
        fun result => pure result.answer)
      (s.runStart t overrides)
  /-- Evaluations nested in a run, which may start in any store, set their scopes up in the same way. -/
  nested : ∀ (engine : Engine) frames (t : BoundTemplate) o overrides (store : Store),
    t.scope < store.objects.size →
    ∃ assigned made start, Run.makeMembers frames overrides store = .ok assigned made ∧
      store.SetUp t.scope assigned start ∧
      t.evaluate engine frames o overrides store =
        (Run.attempt (t.run engine frames) >>= t.conclude engine frames o) start
  /-- An override is there when the run starts, and again whenever a template of this scope is evaluated
  later, until the entry is overwritten. -/
  visible : ∀ {id t options o overrides key}, s.store.templates.get? id = some t →
    EvaluationOptions.parse options = .ok o → key ∈ overrides.map Prod.fst → key ∉ helperNames →
    key ≠ Members.prototypeName →
    ∃ assigned made v, Run.makeMembers [] overrides s.store = .ok assigned made ∧ (key, v) ∈ assigned ∧
      (s.runStart t overrides).entryOf? t.scope key = some v ∧
      ((s.evaluate id options overrides).2.store.entryOf? t.scope key = some v →
        ∀ later, (s.evaluate id options overrides).2.SparesAll t.scope key later →
        ∀ other overrides', other.scope = t.scope → key ∉ overrides'.map Prod.fst →
          (((s.evaluate id options overrides).2.performAll later).2.runStart other overrides').entryOf?
            t.scope key = some v)

theorem Sound.framesScopes {s : Session} (h : s.Sound) : s.FramesScopes where
  target name := by
    refine ⟨s.targetScope_leads name, fun known same found => ?_⟩
    subst same
    obtain ⟨address, found⟩ := Option.isSome_iff_exists.1 found
    change (s.ensureScope known).1 = s
    unfold Session.ensureScope
    rw [found]
  refusedLoad refused := load_of_error refused
  refusedEvaluation _ loaded refused := evaluate_of_error loaded refused
  load expanded := by
    obtain ⟨prepared, setUp⟩ := compileStart_setUp h _ _
    refine ⟨setUp, ?_⟩
    rw [load_of_ok expanded]
    exact ofRun_congr _ (Run.bind_congr_at (Run.load_of_prepare prepared _) _)
  evaluation overrides loaded accepted := by
    obtain ⟨assigned, made, ran, prepared, setUp⟩ := runStart_setUp overrides (h.templates _ _ loaded)
    refine ⟨⟨assigned, made, ran, setUp⟩, ?_⟩
    rw [evaluate_of_ok loaded accepted]
    exact ofRun_congr _ (Run.bind_congr_at (BoundTemplate.evaluate_of_prepare prepared _) _)
  nested engine frames t o overrides store inside := by
    obtain ⟨assigned, made, start, ran, prepared, setUp⟩ :=
      t.prepare_setUp frames overrides (Array.getElem?_eq_getElem inside)
    exact ⟨assigned, made, start, ran, setUp, t.evaluate_of_prepare prepared o⟩
  visible {id t options o overrides key} loaded accepted member free named := by
    obtain ⟨assigned, made, ran, -, setUp⟩ := runStart_setUp overrides (h.templates _ _ loaded)
    obtain ⟨v, assigns, last⟩ :=
      Members.exists_of_mem_assignAll ((Run.makeMembers_names ran).symm ▸ member) named
    refine ⟨assigned, made, v, ran, assigns, setUp.entry free fun object _ => last object.members,
      fun kept later spared other overrides' same absent => ?_⟩
    have stays := performAll_shows (h.evaluate id options overrides) free spared kept
    obtain ⟨assigned', made', ran', -, setUp'⟩ := runStart_setUp overrides' (same ▸ Store.inside stays)
    exact setUp'.entry_of_notMem free (fun _ => (Run.makeMembers_names ran').symm ▸ absent) stays

end Session

/-- Over any session, scopes change as told when templates are loaded and evaluated, whatever the scopes
hold and whatever steps came before. -/
theorem session_framesScopes (contents : Members Datum) (steps : List Step) :
    ((Session.withScopes contents).performAll steps).2.FramesScopes :=
  ((Session.sound_withScopes contents).performAll steps).framesScopes

/-- The error that a run has ended in. -/
def Except.refusal? {α : Type} : Except Thrown α → Option ErrorReport
  | .error (.error report) => some report
  | _ => none

/-- An override under the name of the prototype makes no entry. At a read-only entry the set-up breaks off,
when overrides have been assigned and before anything is run. -/
theorem evaluate_unassigned :
    let s := Session.withScopes [("data", .object [("__str", .text "mine")])]
    let scope := (s.scopes.get? "data").getD 0
    let template : BoundTemplate := ⟨⟨topLevelName, [], [], [], [], false⟩, scope,
      .playback ⟨[.set "ran" (.bool true)], ⟨none, none, none⟩⟩⟩
    let start := s.runStart template [("__proto__", .text "x"), ("name", .text "x")]
    let (ending, after) := Run.finish
      (template.evaluateWith .standard [] ["__str"] ⟨true, true, false⟩ [("name", .text "x")]) s.store
    (start.entryOf? scope "__proto__").isNone ∧ (start.entryOf? scope "name").isSome ∧
      Except.refusal? ending = some (.plain "TypeError"
        "Cannot assign to read only property '__str' of object '#<Object>'") ∧
      (after.entryOf? scope "name").isSome ∧ (after.entryOf? scope "ran").isNone := by
  decide +kernel

end LineTemplate

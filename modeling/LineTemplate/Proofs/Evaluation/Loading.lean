import LineTemplate.Proofs.Evaluation.Calling

/-!
Loading a program without statements: its code is parsed and run, and gives the function of the program.
-/

set_option autoImplicit false

namespace LineTemplate

open Script

namespace Script

/-- The entries that a scope is given for generated code. -/
def providedNames : List Text := [indexedName, entriesName, textHelperName, listHelperName]

/-- A store in which a scope may have got entries for generated code. All other objects that were there are
as they were. -/
structure Store.Readied (scope : Nat) (s s' : Store) : Prop where
  size : s.objects.size ≤ s'.objects.size
  others : ∀ a < s.objects.size, a ≠ scope → s'.objects[a]? = s.objects[a]?
  entries : ∀ o, s.objects[scope]? = some o → ∃ members, s'.objects[scope]? = some { o with members } ∧
    ∀ e ∉ providedNames, members.get? e = o.members.get? e

def Store.provide (s : Store) (scope : Nat) (key : Text) (f : Native) : Store :=
  (s.addObject (.ofNative f)).changeObject scope fun o =>
    { o with members := o.members.set key (.ref s.objects.size) }

namespace Store.Readied

variable {scope : Nat} {s s' s'' : Store}

theorem refl (scope : Nat) (s : Store) : s.Readied scope s :=
  ⟨Nat.le_refl _, fun _ _ _ => rfl, fun o found => ⟨o.members, found, fun _ _ => rfl⟩⟩

theorem trans (h : s.Readied scope s') (h' : s'.Readied scope s'') : s.Readied scope s'' where
  size := Nat.le_trans h.size h'.size
  others a inside other :=
    (h'.others a (Nat.lt_of_lt_of_le inside h.size) other).trans (h.others a inside other)
  entries o found := by
    obtain ⟨members, found', same⟩ := h.entries o found
    obtain ⟨members', found'', same'⟩ := h'.entries _ found'
    exact ⟨members', found'', fun e free => (same' e free).trans (same e free)⟩

theorem addObject (scope : Nat) (s : Store) (o : Obj) : s.Readied scope (s.addObject o) where
  size := by
    change _ ≤ (s.objects.push o).size
    rw [Array.size_push]
    omega
  others a inside _ := Array.getElem?_push_lt inside ▸ (Array.getElem?_eq_getElem inside).symm
  entries o' found := ⟨o'.members, getElem?_push_of_some found o, fun _ _ => rfl⟩

theorem provide (scope : Nat) (s : Store) {key : Text} (provided : key ∈ providedNames) (f : Native) :
    s.Readied scope (s.provide scope key f) where
  size := by
    change _ ≤ ((s.objects.push _).modify scope _).size
    rw [Array.size_modify, Array.size_push]
    omega
  others a inside other := by
    change ((s.objects.push _).modify scope _)[a]? = _
    rw [Array.getElem?_modify, if_neg (Ne.symm other)]
    exact (addObject scope s _).others a inside other
  entries o found := by
    refine ⟨o.members.set key (.ref s.objects.size), ?_, fun e free =>
      Members.get?_set_of_ne o.members key e _ fun same => free (same ▸ provided)⟩
    change ((s.objects.push _).modify scope _)[scope]? = _
    rw [Array.getElem?_modify, if_pos rfl, getElem?_push_of_some found, Option.map_some]

theorem kindAt (h : s.Readied scope s') {a : Nat} {kind : Kind} (known : s.kindAt a = some kind) :
    s'.kindAt a = some kind := by
  obtain ⟨o, found, same⟩ := Option.map_eq_some_iff.1 known
  obtain ⟨inside, -⟩ := Array.getElem?_eq_some_iff.1 found
  by_cases here : a = scope
  · subst here
    obtain ⟨members, found', -⟩ := h.entries o found
    exact Option.map_eq_some_iff.2 ⟨_, found', same⟩
  · exact Option.map_eq_some_iff.2 ⟨o, (h.others a inside here).trans found, same⟩

end Store.Readied

/-- A scope has an entry for a function. -/
def Store.Has (s : Store) (scope : Nat) (key : Text) (f : Native) : Prop :=
  ∃ o a, s.objects[scope]? = some o ∧ o.members.get? key = some (.ref a) ∧
    s.kindAt a = some (.function (.native f))

theorem Store.has_provide {s : Store} {scope : Nat} {o : Obj} (found : s.objects[scope]? = some o)
    (key : Text) (f : Native) : (s.provide scope key f).Has scope key f := by
  obtain ⟨inside, -⟩ := Array.getElem?_eq_some_iff.1 found
  refine ⟨{ o with members := o.members.set key (.ref s.objects.size) }, s.objects.size, ?_,
    Members.get?_set_self o.members key _, ?_⟩
  · change ((s.objects.push _).modify scope _)[scope]? = _
    rw [Array.getElem?_modify, if_pos rfl, getElem?_push_of_some found, Option.map_some]
  · change Option.map Obj.kind ((s.objects.push _).modify scope _)[s.objects.size]? = _
    rw [Array.getElem?_modify, if_neg (by omega), Array.getElem?_push_size]
    rfl

theorem Store.Has.provide {s : Store} {scope : Nat} {key other : Text} {f : Native}
    (h : s.Has scope key f) (different : key ≠ other) (provided : other ∈ providedNames) (g : Native) :
    (s.provide scope other g).Has scope key f := by
  obtain ⟨o, a, found, entry, kind⟩ := h
  have readied := Store.Readied.provide scope s provided g
  refine ⟨{ o with members := o.members.set other (.ref s.objects.size) }, a, ?_, ?_, readied.kindAt kind⟩
  · change ((s.objects.push _).modify scope _)[scope]? = _
    rw [Array.getElem?_modify, if_pos rfl, getElem?_push_of_some found, Option.map_some]
  · rw [← entry]
    exact Members.get?_set_of_ne o.members other key _ different

namespace Run

theorem provideMember_readied (scope : Nat) (s : Store) (key : Text) (provided : key ∈ providedNames)
    (f : Native) :
    ∃ s', provideMember scope key f s = .ok () s' ∧ s'.scopes = s.scopes ∧
      s'.nextSerial = s.nextSerial ∧ s.Readied scope s' := by
  have object : Run.object? scope s = .ok s.objects[scope]? s := rfl
  unfold provideMember
  rw [bind_ok object]
  cases s.objects[scope]? with
  | none => exact ⟨s, rfl, rfl, rfl, .refl scope s⟩
  | some o =>
    change ∃ s', (if o.members.has key then _ else _ : Run Unit) s = _ ∧ _
    split
    · exact ⟨s, rfl, rfl, rfl, .refl scope s⟩
    · exact ⟨s.provide scope key f, rfl, rfl, rfl, .provide scope s provided f⟩

theorem prepareScope_readied (scope : Nat) (s : Store) :
    ∃ s', prepareScope scope s = .ok () s' ∧ s'.scopes = s.scopes ∧ s'.nextSerial = s.nextSerial ∧
      s.Readied scope s' ∧ ∀ o, s.objects[scope]? = some o →
        s'.Has scope textHelperName (.textHelper scope) ∧ s'.Has scope listHelperName (.listHelper scope) := by
  obtain ⟨s₁, indexed, scopes₁, serial₁, readied₁⟩ :=
    provideMember_readied scope s indexedName (by decide) .indexed
  obtain ⟨s₂, entries, scopes₂, serial₂, readied₂⟩ :=
    provideMember_readied scope s₁ entriesName (by decide) .entries
  have readied := readied₁.trans readied₂
  unfold prepareScope
  rw [prepareScopeWith_eq [] scope List.not_mem_nil List.not_mem_nil, bind_ok indexed, bind_ok entries]
  refine ⟨(s₂.provide scope textHelperName (.textHelper scope)).provide scope listHelperName
    (.listHelper scope), rfl, scopes₂.trans scopes₁, serial₂.trans serial₁, ?_, fun o found => ?_⟩
  · refine readied.trans (.trans (.provide scope s₂ ?_ _) (.provide scope _ ?_ _)) <;> decide
  · obtain ⟨members, found₂, -⟩ := readied.entries o found
    have text := Store.has_provide found₂ textHelperName (.textHelper scope)
    obtain ⟨o', -, found₃, -⟩ := text
    exact ⟨(Store.has_provide found₂ textHelperName (.textHelper scope)).provide (by decide) (by decide) _,
      Store.has_provide found₃ listHelperName (.listHelper scope)⟩

theorem runScript_function (engine : Engine) (home : Home) (head : FunctionHead) (body : List Stmt)
    (spot : Spot) (s : Store) :
    runScript engine home [.expr (.function head body) spot] s =
      .ok (.ref s.objects.size)
        ((s.addScope []).addObject (closureObject head body [s.scopes.size] home)) := by
  have exposed : exposedFunctions [] [.expr (.function head body) spot] = [] := by
    refine exposedByAll_flat _ _ fun st inside => ?_
    rw [List.mem_singleton.1 inside]
    exact isFlat_expr _ _
  unfold runScript
  rw [exposed]
  rfl

theorem compileScript_function (engine : Engine) {code : Text} (scope : Nat) {body : List Stmt}
    {head : FunctionHead} {inner : List Stmt} {spot : Spot} (s : Store) (parsed : parse code = .ok body)
    (settled : placed body = [.expr (.function head inner) spot]) :
    ∃ s', compileScript engine code scope s =
        .ok (.ok (.script (.ref s.objects.size) s.nextSerial)) s' ∧ s'.scopes = s.scopes.push [] ∧
      s'.objects =
        s.objects.push (closureObject head inner [s.scopes.size] ⟨scope, s.nextSerial⟩) := by
  obtain ⟨t, counted, objects, scopes⟩ : ∃ t, freshSerial s = .ok s.nextSerial t ∧
      t.objects = s.objects ∧ t.scopes = s.scopes := ⟨_, rfl, rfl, rfl⟩
  have made := runScript_function engine ⟨scope, s.nextSerial⟩ head inner spot t
  have found : ((t.addScope []).addObject (closureObject head inner [t.scopes.size]
      ⟨scope, s.nextSerial⟩)).objects[t.objects.size]? = some _ := Array.getElem?_push_size
  have callable := isFunction_ref (congrArg (Option.map Obj.kind) found)
  rw [← objects, ← scopes]
  refine ⟨(t.addScope []).addObject (closureObject head inner [t.scopes.size] ⟨scope, s.nextSerial⟩), ?_,
    rfl, rfl⟩
  unfold compileScript
  rw [bind_ok counted, parsed]
  change (runScript engine ⟨scope, s.nextSerial⟩ (placed body) >>= _) t = _
  rw [settled, bind_ok made, bind_ok callable]
  rfl

/-- A program whose code is parsed to a function that makes an output and returns it can be loaded. What it
gives is this function, made in a scope of its own. -/
theorem load_output (engine : Engine) {p : Program} (scope : Nat) (s : Store)
    {isBody : List Stmt → Prop} {x : Expr} {spot : Spot} (parsed : parse p.code = .ok [.expr x spot])
    (isFunction : IsOutputFunction isBody x)
    (keeps : ∀ {body}, isBody body → ∀ s p, isBody (placeBlock s body p).1) :
    ∃ main s', load engine p scope .script s =
        .ok (.loaded ⟨p, scope, .script (.ref main) s.nextSerial⟩) s' ∧
      s'.scopes = s.scopes.push [] ∧ s.Readied scope s' ∧
      ∃ kind, s'.kindAt main = some kind ∧
        IsOutputClosure isBody s.scopes.size ⟨scope, s.nextSerial⟩ kind := by
  obtain ⟨x', settled, isFunction⟩ := isFunction.placed keeps spot
  obtain ⟨head, body, rfl⟩ : ∃ head body, x' = .function head body := by
    obtain ⟨head, out, array, place, body, name, shown, place', -, -, -, rfl⟩ := isFunction
    exact ⟨head, _, rfl⟩
  obtain ⟨s₀, logged, objects, scopes, serial⟩ : ∃ s₀, logDebug "Template expanded"
      [("lines", .ofNat p.sourceLines.length), ("instructions", .ofNat p.instructions.length),
        ("inclusions", .array (p.inclusions.map fun i => .text i.name))] s = .ok () s₀ ∧
      s₀.objects = s.objects ∧ s₀.scopes = s.scopes ∧ s₀.nextSerial = s.nextSerial :=
    ⟨_, rfl, rfl, rfl, rfl⟩
  obtain ⟨s₁, prepared, scopes₁, serial₁, readied, -⟩ := prepareScope_readied scope s₀
  obtain ⟨s₂, compiled, scopes₂, objects₂⟩ := compileScript_function engine scope s₁ parsed settled
  rw [scopes₁, scopes] at scopes₂ objects₂
  rw [serial₁, serial] at compiled objects₂
  have ready : s.Readied scope s₂ := by
    have first : s.Readied scope s₁ := ⟨objects ▸ readied.size, objects ▸ readied.others,
      objects ▸ readied.entries⟩
    have added := Store.Readied.addObject scope s₁
      (closureObject head body [s.scopes.size] ⟨scope, s.nextSerial⟩)
    exact first.trans ⟨objects₂ ▸ added.size, objects₂ ▸ added.others, objects₂ ▸ added.entries⟩
  have found : s₂.kindAt s₁.objects.size =
      some (.function (.closure ⟨head, body, [s.scopes.size], ⟨scope, s.nextSerial⟩⟩)) := by
    rw [Store.kindAt, objects₂, Array.getElem?_push_size]
    rfl
  refine ⟨s₁.objects.size, { s₂ with log := s₂.log ++ [⟨.debug, "Template compiled",
    .record [("instructions", .ofNat p.instructions.length)]⟩] }, ?_, scopes₂,
    ⟨ready.size, ready.others, ready.entries⟩, _, found, _, _, isFunction, rfl⟩
  unfold load
  rw [bind_ok logged, bind_ok prepared]
  change (compileScript engine p.code scope >>= _) s₁ = _
  rw [bind_ok compiled]
  rfl

/-- A program whose instructions are legible can be loaded. What it gives is the function of the program,
made in a scope of its own. -/
theorem load_program (engine : Engine) {p : Program} (scope : Nat) (s : Store)
    (legible : ∀ i ∈ p.instructions, i.Legible) :
    ∃ main s', load engine p scope .script s =
        .ok (.loaded ⟨p, scope, .script (.ref main) s.nextSerial⟩) s' ∧
      s'.scopes = s.scopes.push [] ∧ s.Readied scope s' ∧
      ∃ kind, s'.kindAt main = some kind ∧
        IsOutputClosure (IsBody (∀ i ∈ p.instructions, i.OnOneLine) 2 p.instructions) s.scopes.size
          ⟨scope, s.nextSerial⟩ kind := by
  obtain ⟨x, spot, parsed, isProgram⟩ := parse_code p legible
  exact load_output engine scope s parsed isProgram fun isBody => isBody.place

end Run

end Script

end LineTemplate

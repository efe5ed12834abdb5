import LineTemplate.Proofs.Evaluation.Statements

/-!
The function that the code of a program gives, called and made.
-/

set_option autoImplicit false

namespace LineTemplate

open Script

variable {lined : Prop}

theorem expr_of_isStatement {line : Nat} {i : Instruction} {st : Stmt} (h : IsStatement lined line i st) :
    ∃ x spot, st = .expr x spot := by
  cases found : lineAddends i with
  | some sum =>
    obtain ⟨first, more⟩ := sum
    rw [isStatement_iff found] at h
    obtain ⟨x, name, shown, key, call, place, -, rfl⟩ := h
    exact ⟨_, _, rfl⟩
  | none =>
    cases i with
    | list e indent =>
      obtain ⟨f, helper, shown, out, shown', spot, spot', call, place, -, -, rfl⟩ := h
      exact ⟨_, _, rfl⟩
    | literal | fields | statement | marker => simp [IsStatement, found] at h

theorem expr_of_isBody {line : Nat} {instructions : List Instruction} {body : List Stmt}
    (h : IsBody lined line instructions body) : ∀ st ∈ body, ∃ x spot, st = .expr x spot := by
  induction instructions generalizing line body with
  | nil =>
    cases h
    exact fun st inside => absurd inside List.not_mem_nil
  | cons i rest ih =>
    rcases i.marker_or with emits | ⟨boundary, name, rfl⟩
    · obtain ⟨first, others, rfl, isStatement, isBody⟩ := (isBody_cons emits).1 h
      rintro st (_ | ⟨_, inside⟩)
      · exact expr_of_isStatement isStatement
      · exact ih isBody st inside
    · have others : IsBody lined (line + 1) rest body := h
      exact ih others

theorem lexicalNames_exprs {body : List Stmt} (exprs : ∀ st ∈ body, ∃ x spot, st = .expr x spot) :
    lexicalNames body = [] := by
  unfold lexicalNames
  rw [List.flatMap_eq_nil_iff]
  intro st inside
  obtain ⟨x, spot, rfl⟩ := exprs st inside
  rfl

theorem flat_of_isBody {line : Nat} {instructions : List Instruction} {body : List Stmt}
    (h : IsBody lined line instructions body) : ∀ st ∈ body, Run.IsFlat st := by
  intro st inside
  obtain ⟨x, spot, rfl⟩ := expr_of_isBody h st inside
  exact Run.isFlat_expr x spot

/-- A function that makes an output and returns it, made in a scope. -/
def IsOutputClosure (isBody : List Stmt → Prop) (outer : Nat) (home : Home) (kind : Kind) : Prop :=
  ∃ head body, IsOutputFunction isBody (.function head body) ∧
    kind = .function (.closure ⟨head, body, [outer], home⟩)

def Script.Store.withOutput (s : Store) : Store :=
  ((s.addScope [(outputName, ⟨none, .constant⟩)]).addObject (linesObject [])).changeScope s.scopes.size
    fun names => names.set outputName ⟨some (.ref s.objects.size), .constant⟩

def Script.Store.station (s : Store) (outer : Nat) (home : Home) (callers : List Frame) : Station :=
  ⟨s.objects.size, s.scopes.size, outer, home, callers, []⟩

section

variable {σ : Type} {b : Behaviour σ} {depth : Nat} {holds : σ → Own → Option Cursor → Store → Prop}
  {instructions : List Instruction} {w : σ} {s : Store} {main outer : Nat} (home : Home)

theorem running_withOutput {engine : Engine} (real : Realizes b engine home.globals holds)
    (outside : s.scopes[outer]? = some []) (h : holds w ⟨[], [outer]⟩ none s) (callers : List Frame) :
    Running holds (s.station outer home callers) ⟨w, [], 0⟩ ⟨[s.objects.size], [s.scopes.size, outer]⟩ none
      s.withOutput where
  holds := real.changeScope _ (real.addObject _ (real.addScope _ h)) List.mem_cons_self
  ownOut := List.mem_cons_self
  ownInner := List.mem_cons_self
  ownOuter := List.mem_cons_of_mem _ List.mem_cons_self
  output := Array.getElem?_push_size
  inner := by
    refine (getElem?_modify_push_self s.scopes _ _).trans ?_
    simp [Members.set, Store.station]
  outer := getElem?_modify_push_of_some outside _ _
  locals l inside := absurd inside List.not_mem_nil

variable (depth holds) in
/-- A call of a function that makes an output, adds lines to it and returns it. If the statements in between
run to their end, the call gives the output as they leave it; if not, it ends as they do. -/
theorem call_outputFunction {isBody : List Stmt → Prop} {kind : Kind}
    (isMain : IsOutputClosure isBody outer home kind) (found : s.kindAt main = some kind)
    (flat : ∀ {body}, isBody body → (∀ st ∈ body, Run.IsFlat st) ∧ lexicalNames body = [])
    (callers : List Frame) :
    ∃ code body tail, isBody body ∧
      (∀ {em : Emission σ} {own last s'}, Run.performAll (.nested (depth + 2))
          ((s.station outer home callers).place code) none (body ++ tail) s.withOutput =
            Run.performAll (.nested (depth + 2)) ((s.station outer home callers).place code) last tail s' →
        Running holds (s.station outer home callers) em own none s' →
        (Engine.nested (depth + 3)).call callers (.ref main) .undefined [] s =
          .ok (.ref s.objects.size) s') ∧
      ∀ {stop s'}, Run.performAll (.nested (depth + 2)) ((s.station outer home callers).place code) none
          (body ++ tail) s.withOutput = .error stop s' →
        (Engine.nested (depth + 3)).call callers (.ref main) .undefined [] s = .error stop s' := by
  obtain ⟨head, body, isFunction, rfl⟩ := isMain
  obtain ⟨head', out, array, place, statements, spot, shown, place', params, named, isBody, same⟩ :=
    isFunction
  injection same with same same'
  subst same same'
  obtain ⟨flat, unnamed⟩ := flat isBody
  have all : ∀ st ∈ Stmt.declare false (.name outputName out) (.array [] array) place ::
      (statements ++ [.return (.name outputName spot shown) place']), Run.IsFlat st := by
    rintro st (_ | ⟨_, inside⟩)
    · exact Run.isFlat_declare _ _ _ _
    · rcases List.mem_append.1 inside with inside | inside
      · exact flat st inside
      · rw [List.mem_singleton.1 inside]
        exact Run.isFlat_return _ _
  have names : Run.unreachedNames (.declare false (.name outputName out) (.array [] array) place ::
      (statements ++ [.return (.name outputName spot shown) place'])) =
      [(outputName, ⟨none, .constant⟩)] := by
    have tail : lexicalNames (statements ++ [.return (.name outputName spot shown) place']) = [] := by
      unfold lexicalNames
      rw [List.flatMap_append]
      exact List.append_eq_nil_iff.2 ⟨unnamed, rfl⟩
    change ((outputName, false) :: lexicalNames
      (statements ++ [.return (.name outputName spot shown) place'])).map _ = _
    rw [tail]
    rfl
  rw [Run.call_closure found]
  unfold Run.callClosure
  rw [bind_ok (Run.enterFunction_flat params named all), names]
  -- The place remembers the whole code of the function, which plays no part in running it.
  generalize code : Stmt.declare false (.name outputName out) (.array [] array) place ::
    (statements ++ [.return (.name outputName spot shown) place']) = whole
  have start : Run.performAll (.nested (depth + 2))
      ⟨[s.scopes.size, outer], home, callers, whole, some s.scopes.size⟩ none whole
      (s.addScope [(outputName, ⟨none, .constant⟩)]) =
      Run.performAll (.nested (depth + 2)) ((s.station outer home callers).place whole) none
        (statements ++ [.return (.name outputName spot shown) place']) s.withOutput := by
    rw [← code]
    rfl
  refine ⟨whole, statements, _, isBody, fun ran running => ?_, fun ran => bind_error (start.trans ran)⟩
  have value := Run.readName_output running whole shown
  exact bind_ok (start.trans (ran.trans (Run.performAll_returns value)))

/-- A call of the function of a program. -/
theorem call_program (real : Realizes b (.nested (depth + 1)) home.globals holds)
    (plain : ∀ i ∈ instructions, i.Plain) {kind : Kind}
    (isMain : IsOutputClosure (IsBody lined 2 instructions) outer home kind)
    (found : s.kindAt main = some kind) (outside : s.scopes[outer]? = some [])
    (h : holds w ⟨[], [outer]⟩ none s) (callers : List Frame) :
    match b.interpret instructions ⟨w, [], 0⟩ with
    | .ok _ em => ∃ a s', (Engine.nested (depth + 3)).call callers (.ref main) .undefined [] s =
        .ok (.ref a) s' ∧ s'.objects[a]? = some (linesObject em.lines)
    | .error (.failed cause) em => ∃ line own stop s', (lined → line = em.done + 2) ∧
        (Engine.nested (depth + 3)).call callers (.ref main) .undefined [] s = .error stop s' ∧
        Raised cause (⟨home.serial, line⟩ :: callers) own stop s'
    | .error .unknown _ => True := by
  obtain ⟨code, body, tail, isBody, returns, raises⟩ := call_outputFunction depth holds home isMain found
    (fun isBody => ⟨flat_of_isBody isBody, lexicalNames_exprs (expr_of_isBody isBody)⟩) callers
  have running := running_withOutput home real outside h callers
  have body_follows := performAll_body code real plain isBody running none tail
  rw [b.seen_of_nil rfl] at body_follows
  cases result : b.interpret instructions ⟨w, [], 0⟩ with
  | ok _ em =>
    rw [result] at body_follows
    obtain ⟨own, s', last, performed, running'⟩ := body_follows
    exact ⟨s.objects.size, s', returns performed running', running'.output⟩
  | error ending em =>
    rw [result] at body_follows
    cases ending with
    | unknown => trivial
    | failed cause =>
      obtain ⟨line, own, stop, s', here, performed, raised⟩ := body_follows
      exact ⟨line, own, stop, s', here, raises performed, raised⟩

end

end LineTemplate

import LineTemplate.Proofs.Evaluation.Running
import LineTemplate.Proofs.Script.Placing
import LineTemplate.Evaluation.Engine

/-!
Names in a running program, and the functions that read them.
-/

set_option autoImplicit false

namespace LineTemplate

open Script

/-- A name that generated code reads from the scope: an identifier that nothing but the scope gives a
value. -/
structure PlainName (e : Text) : Prop where
  word : Word e
  name : isName e = true
  notOutput : e ≠ outputName
  notArguments : e ≠ "arguments"
  notGlobal : e ∉ Run.globalNames

instance (e : Text) : Decidable (PlainName e) :=
  decidable_of_iff (Word e ∧ isName e = true ∧ e ≠ outputName ∧ e ≠ "arguments" ∧
      ¬Run.globalNames.contains e = true)
    ⟨fun ⟨word, name, output, arguments, global⟩ =>
      ⟨word, name, output, arguments, fun listed => global (List.contains_iff_mem.2 listed)⟩,
      fun h => ⟨h.word, h.name, h.notOutput, h.notArguments,
        fun listed => h.notGlobal (List.contains_iff_mem.1 listed)⟩⟩

namespace Station

/-- The scopes around the present statement of a running program. -/
def env (at_ : Station) : List Nat := at_.locals.map Local.scope ++ [at_.inner, at_.outer]

/-- A place in the function of a running program. -/
def place (at_ : Station) (code : List Stmt) : Place :=
  ⟨at_.env, at_.home, at_.callers, code, some at_.inner⟩

/-- The functions that are active when a line of a program is reached. -/
def frames (at_ : Station) (line : Nat) : List Frame := ⟨at_.home.serial, line⟩ :: at_.callers

/-- The innermost block name of this spelling. -/
def local? (at_ : Station) (id : Text) : Option Local := at_.locals.find? fun l => l.name = id

theorem local?_of_mem {at_ : Station} {id : Text}
    (used : id ∈ [outputName, textHelperName, listHelperName]) : at_.local? id = none := by
  refine List.find?_eq_none.2 fun l _ same => l.free ?_
  rwa [of_decide_eq_true same]

end Station

/-- The behaviour of a scope as a running program sees it: the names of the blocks around the present
statement come first. -/
def Behaviour.seen {σ : Type} (b : Behaviour σ) (at_ : Station) : Behaviour σ :=
  { b with entry := fun w e => ((at_.local? e).map Local.value).or (b.entry w e) }

theorem Behaviour.seen_of_nil {σ : Type} (b : Behaviour σ) {at_ : Station} (outside : at_.locals = []) :
    b.seen at_ = b := by
  unfold seen Station.local?
  rw [outside]
  rfl

theorem Behaviour.items_seen {σ : Type} (b : Behaviour σ) (at_ : Station) (e indent : Text) (limit : Nat)
    (found : Bool) : (b.seen at_).items e indent limit found = b.items e indent limit found := by
  induction limit generalizing found with
  | zero => rfl
  | succ limit ih =>
    unfold Behaviour.items
    refine congrArg (Direct.step b.next >>= ·) (funext fun found => ?_)
    cases found with
    | none => rfl
    | some v => exact congrArg (b.item e indent v >>= ·) (funext fun _ => ih true)

theorem Behaviour.sequence_seen {σ : Type} (b : Behaviour σ) (at_ : Station) (e indent : Text) (v : Value) :
    (b.seen at_).sequence e indent v = b.sequence e indent v := by
  unfold Behaviour.sequence
  simp only [Behaviour.items_seen]
  rfl

namespace Script.Run

section

variable {σ : Type} {b : Behaviour σ} {engine : Engine} {at_ : Station}
  {holds : σ → Own → Option Cursor → Store → Prop} {em : Emission σ} {own : Own} {c : Option Cursor}
  {s : Store}

theorem findBinding?_cons {id : Text} {scope : Nat} {env : List Nat} {names : Members Binding}
    (found : s.scopes[scope]? = some names) (free : names.get? id = none) :
    findBinding? s id (scope :: env) = findBinding? s id env := by
  rw [findBinding?, found, Option.getD_some, free]

theorem findBinding?_locals {locals : List Local} (id : Text) (env : List Nat)
    (known : ∀ l ∈ locals, s.scopes[l.scope]? = some [(l.name, l.binding)]) :
    findBinding? s id (locals.map Local.scope ++ env) =
      ((locals.find? fun l => l.name = id).map fun l => (l.scope, l.binding)).or
        (findBinding? s id env) := by
  induction locals with
  | nil => rfl
  | cons l rest ih =>
    have found := known l List.mem_cons_self
    have others := ih fun other inside => known other (List.mem_cons_of_mem l inside)
    rw [List.map_cons, List.cons_append]
    by_cases same : l.name = id
    · have own : Members.get? [(l.name, l.binding)] id = some l.binding := by simp [Members.get?, same]
      rw [List.find?_cons_of_pos (by simpa using same), findBinding?, found, Option.getD_some, own]
      rfl
    · have free : Members.get? [(l.name, l.binding)] id = none := by
        simp [Members.get?, Ne.symm same]
      rw [List.find?_cons_of_neg (by simpa using same), findBinding?_cons found free, others]

theorem findBinding?_outside (h : Running holds at_ em own c s) {id : Text} (other : id ≠ outputName) :
    findBinding? s id at_.env = (at_.local? id).map fun l => (l.scope, l.binding) := by
  have free : Members.get? [(outputName, Binding.mk (some (.ref at_.out)) .constant)] id = none := by
    simp [Members.get?, other]
  unfold Station.env
  rw [findBinding?_locals id _ fun l inside => (h.locals l inside).2, findBinding?_cons h.inner free,
    findBinding?_cons h.outer rfl]
  exact Option.or_none

theorem predefined?_of_notMem {id : Text} (notGlobal : id ∉ globalNames) : predefined? id = none := by
  have constant (name : Text) (listed : name ∈ globalNames) : id ≠ name := by
    rintro rfl
    exact notGlobal listed
  have noClass : (errorClasses.findIdx? fun name => name = id) = none := by
    rw [List.findIdx?_eq_none_iff]
    intro name listed
    have other := constant name (List.mem_append_left _ (List.mem_append_right _ listed))
    simpa using other.symm
  rw [predefined?, if_neg (constant _ (by decide)), if_neg (constant _ (by decide)), noClass]
  rfl

theorem globalName?_entry {p : Place} (prepared : Prepared p.home.globals (b.entry em.world) s)
    {id : Text} (notGlobal : id ∉ globalNames) :
    globalName? p id s = .ok (b.entry em.world id) s := by
  obtain ⟨o, found, entries⟩ := prepared.entries
  have known : object? p.home.globals s = .ok (some o) s := congrArg (fun o => EStateM.Result.ok o s) found
  have notUndefined : id ≠ "undefined" := by
    rintro rfl
    exact notGlobal (by decide)
  have notStandard : ¬standardNames.contains id = true := fun listed =>
    notGlobal (List.mem_append_right _ (List.contains_iff_mem.1 listed))
  unfold globalName?
  rw [if_neg notUndefined]
  change (object? p.home.globals >>= _) s = _
  rw [bind_ok known]
  dsimp only [Option.bind_some]
  rw [entries id]
  cases b.entry em.world id with
  | some v => rfl
  | none =>
    dsimp only
    rw [predefined?_of_notMem notGlobal]
    dsimp only
    rw [if_neg notStandard]
    rfl

theorem lookup?_entry {p : Place} (prepared : Prepared p.home.globals (b.entry em.world) s)
    {id : Text} {spot : Spot} (outside : findBinding? s id p.env = none)
    (notGlobal : id ∉ globalNames) :
    lookup? p id spot s = .ok (b.entry em.world id) s := by
  have stored : (get : Run Store) s = .ok s s := rfl
  unfold lookup?
  rw [bind_ok stored, outside]
  exact globalName?_entry prepared notGlobal

theorem lookup?_seen {p : Place} (prepared : Prepared p.home.globals (b.entry em.world) s)
    {id : Text} {spot : Spot}
    (found : findBinding? s id p.env = (at_.local? id).map fun l => (l.scope, l.binding))
    (notGlobal : id ∉ globalNames) :
    lookup? p id spot s = .ok ((b.seen at_).entry em.world id) s := by
  have seen : (b.seen at_).entry em.world id = ((at_.local? id).map Local.value).or (b.entry em.world id) :=
    rfl
  rw [seen]
  cases known : at_.local? id with
  | none =>
    rw [known] at found
    exact lookup?_entry prepared found notGlobal
  | some l =>
    have stored : (get : Run Store) s = .ok s s := rfl
    unfold lookup?
    rw [bind_ok stored, found, known]
    rfl

theorem readName_output (h : Running holds at_ em own c s) (code : List Stmt) (spot : Spot) :
    readName (at_.place code) outputName spot s = .ok (.ref at_.out) s := by
  have found : findBinding? s outputName (at_.place code).env =
      some (at_.inner, ⟨some (.ref at_.out), .constant⟩) := by
    have free : (at_.locals.find? fun l => l.name = outputName) = none :=
      Station.local?_of_mem List.mem_cons_self
    change findBinding? s outputName (at_.locals.map Local.scope ++ [at_.inner, at_.outer]) = _
    rw [findBinding?_locals _ _ fun l inside => (h.locals l inside).2, free, findBinding?, h.inner]
    rfl
  have known : lookup? (at_.place code) outputName spot s = .ok (some (.ref at_.out)) s := by
    have stored : (get : Run Store) s = .ok s s := rfl
    unfold lookup?
    rw [bind_ok stored, found]
    rfl
  exact bind_ok known

end

/-- A statement that gives the function around it no function: it declares none, and its blocks expose
none. -/
structure IsFlat (st : Stmt) : Prop where
  undeclared : declaredFunctions [st] = []
  unexposed : ∀ barred, exposedNames barred st = []

theorem isFlat_expr (value : Expr) (spot : Spot) : IsFlat (.expr value spot) :=
  ⟨rfl, fun _ => by rw [exposedNames]⟩

theorem isFlat_declare (mutable : Bool) (pattern : Pattern) (value : Expr) (spot : Spot) :
    IsFlat (.declare mutable pattern value spot) :=
  ⟨rfl, fun _ => by rw [exposedNames]⟩

theorem isFlat_return (value : Expr) (spot : Spot) : IsFlat (.return value spot) :=
  ⟨rfl, fun _ => by rw [exposedNames]⟩

theorem declaredFunctions_flat {body : List Stmt} (flat : ∀ st ∈ body, IsFlat st) :
    declaredFunctions body = [] := by
  unfold declaredFunctions
  rw [List.filterMap_eq_nil_iff]
  exact fun st inside => List.filterMap_eq_nil_iff.1 (flat st inside).undeclared st List.mem_cons_self

theorem exposedByAll_flat (barred : List Text) (body : List Stmt) (flat : ∀ st ∈ body, IsFlat st) :
    exposedByAll barred body = [] := by
  induction body with
  | nil => rw [exposedByAll]
  | cons st rest ih =>
    rw [exposedByAll, (flat st List.mem_cons_self).unexposed,
      ih fun other inside => flat other (List.mem_cons_of_mem st inside), List.append_nil]

def closureObject (head : FunctionHead) (body : List Stmt) (env : List Nat) (home : Home) : Obj :=
  .ofKind (.function (.closure ⟨head, body, env, home⟩))

theorem call_closure {depth : Nat} {frames : List Frame} {this : Value} {s : Store} {f : Nat}
    {head : FunctionHead} {body : List Stmt} {env : List Nat} {home : Home}
    (found : s.kindAt f = some (.function (.closure ⟨head, body, env, home⟩))) :
    (Engine.nested (depth + 1)).call frames (.ref f) this [] s =
      callClosure (.nested depth) frames (.ref f) ⟨head, body, env, home⟩ [] s := by
  have kind : kind? (.ref f) s = .ok (some (.function (.closure ⟨head, body, env, home⟩))) s := by
    rw [kind?_ref, found]
  change (kind? (.ref f) >>= _) s = _
  rw [bind_ok kind]

theorem enterFunction_flat {head : FunctionHead} {body : List Stmt} {env : List Nat} {home : Home}
    {frames : List Frame} {self : Value} {s : Store} (params : head.params = [])
    (named : head.namesItself = false) (flat : ∀ st ∈ body, IsFlat st) :
    enterFunction ⟨head, body, env, home⟩ self frames [] s =
      .ok ⟨s.scopes.size :: env, home, frames, body, some s.scopes.size⟩
        (s.addScope (Members.setAll [] (unreachedNames body))) := by
  have declared := declaredFunctions_flat flat
  have exposed : exposedFunctions [] body = [] := exposedByAll_flat _ body flat
  obtain ⟨name, itself, arrow, params', start, entry, here, after⟩ := head
  cases params
  cases named
  unfold enterFunction
  simp only [exposed, declared]
  rfl

theorem performAll_returns {engine : Engine} {p : Place} {last : Option Value} {value : Expr}
    {spot : Spot} {rest : List Stmt} {s s' : Store} {v : Value}
    (h : evaluate engine p value s = .ok v s') :
    performAll engine p last (.return value spot :: rest) s = .ok (.returned v) s' := by
  have step : perform engine p (.return value spot) s = .ok (.returned v) s' := bind_ok h
  exact bind_ok step

theorem performAll_raises {engine : Engine} {p : Place} {last : Option Value} {value : Expr}
    {spot : Spot} {rest : List Stmt} {s s' : Store} {stop : Stop}
    (h : evaluate engine p value s = .error stop s') :
    performAll engine p last (.return value spot :: rest) s = .error stop s' := by
  have step : perform engine p (.return value spot) s = .error stop s' := bind_error h
  exact bind_error step

theorem call_reader (depth : Nat) (frames : List Frame) (this : Value) {s : Store} {t : Nat}
    {head : FunctionHead} {e : Text} {spot shown place : Spot} {env : List Nat} {home : Home}
    (params : head.params = []) (named : head.namesItself = false)
    (found : s.objects[t]? = some (closureObject head [.return (.name e spot shown) place] env home)) :
    (Engine.nested (depth + 1)).call frames (.ref t) this [] s =
      readName ⟨s.scopes.size :: env, home, frames, [.return (.name e spot shown) place],
        some s.scopes.size⟩ e shown (s.addScope []) := by
  have flat : ∀ st ∈ [Stmt.return (.name e spot shown) place], IsFlat st := by
    intro st inside
    rw [List.mem_singleton.1 inside]
    exact isFlat_return _ _
  have kind : s.kindAt t = some _ := congrArg (Option.map Obj.kind) found
  rw [call_closure kind]
  unfold callClosure
  rw [bind_ok (enterFunction_flat params named flat)]
  change (performAll _ _ none [.return (.name e spot shown) place] >>= _) (s.addScope []) = _
  generalize here : Place.mk (s.scopes.size :: env) home frames [.return (.name e spot shown) place]
    (some s.scopes.size) = p
  have value : evaluate (.nested depth) p (.name e spot shown) = readName p e shown := rfl
  cases result : readName p e shown (s.addScope []) with
  | ok v s' =>
    rw [← value] at result
    exact bind_ok (performAll_returns result)
  | error stop s' =>
    rw [← value] at result
    exact bind_error (performAll_raises result)

end Script.Run

/-- A function that reads an expression, made by a running program. -/
def IsReader (at_ : Station) (e : Text) (s : Store) (t : Nat) : Prop :=
  ∃ head spot shown place, head.params = [] ∧ head.namesItself = false ∧
    s.objects[t]? = some (Run.closureObject head [.return (.name e spot shown) place]
      at_.env at_.home)

theorem IsReader.isFunction {at_ : Station} {e : Text} {s : Store} {t : Nat}
    (reader : IsReader at_ e s t) : Run.isFunction (.ref t) s = .ok true s := by
  obtain ⟨head, spot, shown, place, -, -, found⟩ := reader
  have kind : s.kindAt t = some (.function _) := congrArg (Option.map Obj.kind) found
  exact Run.isFunction_ref kind

section

variable {σ : Type} {b : Behaviour σ} {engine : Engine} {at_ : Station}
  {holds : σ → Own → Option Cursor → Store → Prop} {em : Emission σ} {own : Own} {c : Option Cursor}
  {s : Store} {e : Text}

theorem evaluate_thunk (real : Realizes b engine at_.home.globals holds)
    (h : Running holds at_ em own c s) {x : Expr} (thunk : IsThunk e x) (code : List Stmt)
    (engine' : Engine) :
    ∃ own' s', Run.evaluate engine' (at_.place code) x s = .ok (.ref s.objects.size) s' ∧
      Running holds at_ em own' c s' ∧ IsReader at_ e s' s.objects.size := by
  obtain ⟨head, spot, shown, place, params, named, rfl⟩ := thunk
  refine ⟨_, _, rfl, h.addObject real _, head, spot, shown, place, params, named, ?_⟩
  exact Array.getElem?_push_size

theorem call_isReader (depth : Nat) (frames : List Frame) (this : Value) {t : Nat}
    (real : Realizes b engine at_.home.globals holds) (h : Running holds at_ em own c s)
    (plain : PlainName e) (reader : IsReader at_ e s t) :
    match (b.seen at_).entry em.world e with
    | some v => (Engine.nested (depth + 1)).call frames (.ref t) this [] s = .ok v (s.addScope [])
    | none => ∃ report frames', report.name = ("ReferenceError" : Text) ∧
      (Engine.nested (depth + 1)).call frames (.ref t) this [] s =
        .error (.thrown (.ref s.objects.size))
          ((s.addScope []).addObject (Run.errorObject frames' report)) := by
  obtain ⟨head, spot, shown, place, params, named, found⟩ := reader
  have running := h.addScope real []
  have outside : Run.findBinding? (s.addScope []) e (s.scopes.size :: at_.env) =
      (at_.local? e).map fun l => (l.scope, l.binding) := by
    have fresh : (s.addScope []).scopes[s.scopes.size]? = some [] := Array.getElem?_push_size
    rw [Run.findBinding?_cons fresh rfl]
    exact Run.findBinding?_outside running plain.notOutput
  have known : Run.lookup? ⟨s.scopes.size :: at_.env, at_.home, frames,
      [.return (.name e spot shown) place], some s.scopes.size⟩ e shown (s.addScope []) =
      .ok ((b.seen at_).entry em.world e) (s.addScope []) :=
    Run.lookup?_seen (real.prepared running.holds) outside plain.notGlobal
  have called := Run.call_reader depth frames this params named found
  unfold Run.readName at called
  rw [bind_ok known] at called
  cases entry : (b.seen at_).entry em.world e with
  | some v =>
    rw [entry] at called
    exact called
  | none =>
    rw [entry] at called
    exact ⟨_, _, rfl, called⟩

end

end LineTemplate

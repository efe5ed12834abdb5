import LineTemplate.Evaluation.Binding
import LineTemplate.Proofs.Evaluation.Direct

/-!
When a store realizes a behaviour. A running program keeps some objects and some scopes of names to
itself: nothing hands them to the functions of the scope, which leave them as they are. What the
program does with them in turn makes no difference to the scope.
-/

set_option autoImplicit false

namespace LineTemplate

open Script

/-- The objects and the scopes of names that a running program keeps to itself. -/
structure Own where
  objects : List Nat
  scopes : List Nat

namespace Own

/-- A store in which these objects and scopes are what they were. -/
structure Kept (own : Own) (s s' : Store) : Prop where
  objects : ∀ a ∈ own.objects, s'.objects[a]? = s.objects[a]?
  scopes : ∀ c ∈ own.scopes, s'.scopes[c]? = s.scopes[c]?

theorem Kept.refl (own : Own) (s : Store) : own.Kept s s := ⟨fun _ _ => rfl, fun _ _ => rfl⟩

def withObject (own : Own) (a : Nat) : Own := { own with objects := a :: own.objects }

def withScope (own : Own) (c : Nat) : Own := { own with scopes := c :: own.scopes }

end Own

namespace Script.Store

def addObject (s : Store) (o : Obj) : Store := { s with objects := s.objects.push o }

def addScope (s : Store) (names : Members Binding) : Store := { s with scopes := s.scopes.push names }

def changeObject (s : Store) (a : Nat) (f : Obj → Obj) : Store :=
  { s with objects := s.objects.modify a f }

def changeScope (s : Store) (c : Nat) (f : Members Binding → Members Binding) : Store :=
  { s with scopes := s.scopes.modify c f }

def kindAt (s : Store) (a : Nat) : Option Kind := (s.objects[a]?).map Obj.kind

end Script.Store

namespace Script.Run

def conversion (engine : Engine) (frames : List Frame) (scope : Nat) (v : Value) : Run Value := do
  let convert ← member (.ref scope) conversionName
  if ← isFunction convert then engine.call frames convert .undefined [v]
  else return .text (← textOf engine frames v)

def source (engine : Engine) (frames : List Frame) (v : Value) : Run Value := do
  if ← isFunction v then engine.call frames v .undefined [] else pure v

end Script.Run

/-- What generated code relies on in a store: the entries of the scope that a behaviour knows, the two
helpers among them, and the function `push` of arrays. -/
structure Prepared (scope : Nat) (entry : Text → Option Value) (s : Store) : Prop where
  entries : ∃ o, s.objects[scope]? = some o ∧ ∀ e, o.members.get? e = entry e
  textHelper : ∃ a, entry textHelperName = some (.ref a) ∧
    s.kindAt a = some (.function (.native (.textHelper scope)))
  listHelper : ∃ a, entry listHelperName = some (.ref a) ∧
    s.kindAt a = some (.function (.native (.listHelper scope)))
  push : s.kindAt Method.push.address = some (.function (.native (.method .push)))

/-- A scope realizes a behaviour on an engine. `holds` tells which stores stand for a state of the
behaviour, given what the program keeps to itself and the sequence being read. -/
structure Realizes {σ : Type} (b : Behaviour σ) (engine : Engine) (scope : Nat)
    (holds : σ → Own → Option Cursor → Store → Prop) : Prop where
  -- the program's own steps make no difference
  addObject : ∀ {w own c s} (o : Obj), holds w own c s →
    holds w (own.withObject s.objects.size) c (s.addObject o)
  addScope : ∀ {w own c s} (names : Members Binding), holds w own c s →
    holds w (own.withScope s.scopes.size) c (s.addScope names)
  changeObject : ∀ {w own c s a} (f : Obj → Obj), holds w own c s → a ∈ own.objects →
    holds w own c (s.changeObject a f)
  changeScope : ∀ {w own c s a} (f : Members Binding → Members Binding), holds w own c s →
    a ∈ own.scopes → holds w own c (s.changeScope a f)
  prepared : ∀ {w own c s}, holds w own c s → Prepared scope (b.entry w) s
  -- what the functions of the scope do
  convert : ∀ {w own c s v r w'} (frames : List Frame), holds w own c s → b.convert w v = some (r, w') →
    ∃ s', Run.conversion engine frames scope v s = .ok r s' ∧ own.Kept s s' ∧ holds w' own c s'
  start : ∀ {w own s v limit w'} (frames : List Frame), holds w own none s →
    b.start w v = some (some limit, w') →
    ∃ r s₁ cursor s₂, Run.source engine frames v s = .ok r s₁ ∧
      Run.isSequenceObject r s₁ = .ok true s₁ ∧ Run.open? r s₁ = .ok (some cursor) s₂ ∧
      (∃ n, Run.loopLimit r s₂ = .ok n s₂ ∧ limit ≤ n) ∧ own.Kept s s₂ ∧ holds w' own (some cursor) s₂
  noSequence : ∀ {w own s v w'} (frames : List Frame), holds w own none s →
    b.start w v = some (none, w') →
    ∃ r s', Run.source engine frames v s = .ok r s' ∧ Run.isSequenceObject r s' = .ok false s' ∧
      own.Kept s s' ∧ holds w' own none s'
  next : ∀ {w own cursor s v w'} (frames : List Frame), holds w own (some cursor) s →
    b.next w = some (some v, w') →
    ∃ rest s', Run.next engine frames cursor s = .ok (some (v, rest)) s' ∧ own.Kept s s' ∧
      holds w' own (some rest) s'
  finish : ∀ {w own cursor s w'} (frames : List Frame), holds w own (some cursor) s →
    b.next w = some (none, w') →
    ∃ s', Run.next engine frames cursor s = .ok none s' ∧ own.Kept s s' ∧ holds w' own none s'
  close : ∀ {w own cursor s}, holds w own (some cursor) s →
    ∃ s' w', Run.close cursor s = .ok () s' ∧ own.Kept s s' ∧ holds w' own none s'

end LineTemplate

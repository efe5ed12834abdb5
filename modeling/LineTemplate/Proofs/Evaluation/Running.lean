import LineTemplate.Proofs.Evaluation.Steps

/-!
A running program between two steps: what it keeps to itself, and how this lasts through steps of the
program and of the scope.
-/

set_option autoImplicit false

namespace LineTemplate

open Script

def linesObject (lines : List Text) : Obj := .ofKind (.array (.ofList (lines.map .text)))

/-- A name that a block inside the function of a program binds in a scope of its own. It is none of the
names that generated code relies on. -/
structure Local where
  scope : Nat
  name : Text
  value : Value
  free : name ∉ [outputName, textHelperName, listHelperName]

namespace Local

def binding (l : Local) : Binding := ⟨some l.value, .constant⟩

end Local

/-- A call of the function of a program: where it keeps its output and its names, the program it belongs
to, the functions active outside it, and the names of the blocks around the present statement, innermost
first. -/
structure Station where
  out : Nat
  inner : Nat
  outer : Nat
  home : Home
  callers : List Frame
  locals : List Local

/-- A running program: the output holds the lines so far, and its scopes hold the name of the output and
the names of its blocks. -/
structure Running {σ : Type} (holds : σ → Own → Option Cursor → Store → Prop) (at_ : Station)
    (em : Emission σ) (own : Own) (c : Option Cursor) (s : Store) : Prop where
  holds : holds em.world own c s
  ownOut : at_.out ∈ own.objects
  ownInner : at_.inner ∈ own.scopes
  ownOuter : at_.outer ∈ own.scopes
  output : s.objects[at_.out]? = some (linesObject em.lines)
  inner : s.scopes[at_.inner]? = some [(outputName, ⟨some (.ref at_.out), .constant⟩)]
  outer : s.scopes[at_.outer]? = some []
  locals : ∀ l ∈ at_.locals, l.scope ∈ own.scopes ∧ s.scopes[l.scope]? = some [(l.name, l.binding)]

theorem getElem?_push_of_some {α : Type} {xs : Array α} {a : Nat} {x : α} (h : xs[a]? = some x)
    (y : α) : (xs.push y)[a]? = some x := by
  obtain ⟨small, -⟩ := Array.getElem?_eq_some_iff.1 h
  rw [Array.getElem?_push_lt small, ← h]
  exact (Array.getElem?_eq_getElem small).symm

theorem getElem?_modify_push_self {α : Type} (xs : Array α) (x : α) (f : α → α) :
    ((xs.push x).modify xs.size f)[xs.size]? = some (f x) := by
  rw [Array.getElem?_modify, if_pos rfl, Array.getElem?_push_size, Option.map_some]

theorem getElem?_modify_push_of_some {α : Type} {xs : Array α} {i : Nat} {y : α} (h : xs[i]? = some y) (x : α)
    (f : α → α) : ((xs.push x).modify xs.size f)[i]? = some y := by
  obtain ⟨small, -⟩ := Array.getElem?_eq_some_iff.1 h
  rw [Array.getElem?_modify, if_neg (by omega)]
  exact getElem?_push_of_some h x

namespace Running

variable {σ : Type} {b : Behaviour σ} {engine : Engine} {scope : Nat}
  {holds : σ → Own → Option Cursor → Store → Prop} {at_ : Station} {em : Emission σ}
  {own : Own} {c : Option Cursor} {s : Store}

theorem addObject (real : Realizes b engine scope holds) (h : Running holds at_ em own c s)
    (o : Obj) : Running holds at_ em (own.withObject s.objects.size) c (s.addObject o) where
  holds := real.addObject o h.holds
  ownOut := List.mem_cons_of_mem _ h.ownOut
  ownInner := h.ownInner
  ownOuter := h.ownOuter
  output := getElem?_push_of_some h.output o
  inner := h.inner
  outer := h.outer
  locals := h.locals

theorem addScope (real : Realizes b engine scope holds) (h : Running holds at_ em own c s)
    (names : Members Binding) :
    Running holds at_ em (own.withScope s.scopes.size) c (s.addScope names) where
  holds := real.addScope names h.holds
  ownOut := h.ownOut
  ownInner := List.mem_cons_of_mem _ h.ownInner
  ownOuter := List.mem_cons_of_mem _ h.ownOuter
  output := h.output
  inner := getElem?_push_of_some h.inner names
  outer := getElem?_push_of_some h.outer names
  locals l inside :=
    have ⟨mine, found⟩ := h.locals l inside
    ⟨List.mem_cons_of_mem _ mine, getElem?_push_of_some found names⟩

theorem kept {w : σ} {c' : Option Cursor} {s' : Store} (h : Running holds at_ em own c s)
    (keeps : own.Kept s s') (h' : holds w own c' s') :
    Running holds at_ { em with world := w } own c' s' where
  holds := h'
  ownOut := h.ownOut
  ownInner := h.ownInner
  ownOuter := h.ownOuter
  output := (keeps.objects _ h.ownOut).trans h.output
  inner := (keeps.scopes _ h.ownInner).trans h.inner
  outer := (keeps.scopes _ h.ownOuter).trans h.outer
  locals l inside :=
    have ⟨mine, found⟩ := h.locals l inside
    ⟨mine, (keeps.scopes _ mine).trans found⟩

theorem advance (h : Running holds at_ em own c s) (done : Nat) :
    Running holds at_ { em with done := done } own c s :=
  ⟨h.holds, h.ownOut, h.ownInner, h.ownOuter, h.output, h.inner, h.outer, h.locals⟩

theorem push_ofList {α : Type} (xs : List α) (x : α) :
    (Slots.ofList xs).push x = Slots.ofList (xs ++ [x]) := by
  simp [Slots.push, Slots.set, Slots.ofList]

/-- The change that adds a line to the output. -/
def addLine (line : Text) (o : Obj) : Obj :=
  match o with
  | ⟨.array slots, members, hidden, symbols, given⟩ =>
    ⟨.array (slots.push (.text line)), members, hidden, symbols, given⟩
  | o => o

theorem addLine_linesObject (lines : List Text) (line : Text) :
    addLine line (linesObject lines) = linesObject (lines ++ [line]) := by
  change Obj.mk (.array ((Slots.ofList (lines.map .text)).push (.text line))) [] [] [] false = _
  rw [push_ofList]
  simp [linesObject, Obj.ofKind]

theorem push (real : Realizes b engine scope holds) (h : Running holds at_ em own c s)
    (line : Text) :
    Running holds at_ { em with lines := em.lines ++ [line] } own c
      (s.changeObject at_.out (addLine line)) where
  holds := real.changeObject _ h.holds h.ownOut
  ownOut := h.ownOut
  ownInner := h.ownInner
  ownOuter := h.ownOuter
  output := by
    change (s.objects.modify at_.out (addLine line))[at_.out]? = _
    rw [Array.getElem?_modify, if_pos rfl, h.output, Option.map_some, addLine_linesObject]
  inner := h.inner
  outer := h.outer
  locals := h.locals

end Running

end LineTemplate

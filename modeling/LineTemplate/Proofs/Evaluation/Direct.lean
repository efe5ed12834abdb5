import LineTemplate.Evaluation.Helper
import LineTemplate.Script.Method

/-!
The direct interpretation of a program without statements: its instructions are read from left to right
and give lines, without any code. What the values of a scope do is a behaviour, a machine whose states
stand for the states that the functions of the scope may be in.
-/

set_option autoImplicit false

namespace LineTemplate

open Script

/-- What a scope does, seen from outside. A step that is none throws an error of its own, or does not
end; nothing is said of what follows it. -/
structure Behaviour (σ : Type) where
  /-- The value of a name. -/
  entry : σ → Text → Option Value
  /-- What the conversion of a value returns. -/
  convert : σ → Value → Option (Value × σ)
  /-- Starts reading what a list stands for, in at most this many steps, or finds no sequence. -/
  start : σ → Value → Option (Option Nat × σ)
  /-- The next item of the sequence being read. -/
  next : σ → Option (Option Value × σ)

/-- Why a field or a list cannot be produced. -/
inductive Cause where
  /-- An expression has no value. -/
  | missing (expression : Text)
  /-- A conversion returns something other than text. -/
  | notText
  | notSequence
deriving DecidableEq

/-- How an interpretation ends early. -/
inductive Ending where
  | failed (cause : Cause)
  /-- The scope does something of its own, or a line or the output grows too long. -/
  | unknown

/-- How far an interpretation has come: the state of the scope, the lines so far, and the number of
instructions that are done. -/
structure Emission (σ : Type) where
  world : σ
  lines : List Text
  done : Nat

abbrev Direct (σ α : Type) := EStateM Ending (Emission σ) α

namespace Direct

variable {σ : Type}

def fail {α : Type} (cause : Cause) : Direct σ α := throw (.failed cause)

def step {α : Type} (f : σ → Option (α × σ)) : Direct σ α := do
  match f (← get).world with
  | some (a, w) =>
    modify fun s => { s with world := w }
    return a
  | none => throw .unknown

def emitLine (line : Text) : Direct σ Unit := do
  if (← get).lines.length < Items.arrayLimit then
    modify fun s => { s with lines := s.lines ++ [line] }
  else throw .unknown

def append (line t : Text) : Direct σ Text :=
  if Text.maxLength < line.length + t.length then throw .unknown else return line ++ t

theorem step_some {α : Type} {f : σ → Option (α × σ)} {em : Emission σ} {a : α} {w : σ}
    (h : f em.world = some (a, w)) : step f em = .ok a { em with world := w } := by
  unfold step
  change (match f em.world with | some (a, w) => _ | none => _ : Direct σ α) em = _
  rw [h]
  rfl

theorem step_none {α : Type} {f : σ → Option (α × σ)} {em : Emission σ} (h : f em.world = none) :
    step f em = .error .unknown em := by
  unfold step
  change (match f em.world with | some (a, w) => _ | none => _ : Direct σ α) em = _
  rw [h]
  rfl

end Direct

namespace Behaviour

open Direct

variable {σ : Type}

def text (b : Behaviour σ) (e : Text) (v : Value) : Direct σ Text := do
  if v.isMissing then fail (.missing e)
  match ← step fun w => b.convert w v with
  | .text t => return t
  | _ => fail .notText

/-- The value of an expression. -/
def value (b : Behaviour σ) (e : Text) : Direct σ Value := do
  match b.entry (← get).world e with
  | some v => return v
  | none => fail (.missing e)

theorem value_some {b : Behaviour σ} {e : Text} {em : Emission σ} {v : Value}
    (h : b.entry em.world e = some v) : b.value e em = .ok v em := by
  unfold value
  change (match b.entry em.world e with | some v => _ | none => _ : Direct σ Value) em = _
  rw [h]
  rfl

theorem value_none {b : Behaviour σ} {e : Text} {em : Emission σ} (h : b.entry em.world e = none) :
    b.value e em = .error (.failed (.missing e)) em := by
  unfold value
  change (match b.entry em.world e with | some v => _ | none => _ : Direct σ Value) em = _
  rw [h]
  rfl

def field (b : Behaviour σ) (e : Text) : Direct σ Text := do b.text e (← b.value e)

def segment (b : Behaviour σ) (line : Text) (s : Segment) : Direct σ Text := do
  let line ← append line s.lead
  match s.expression with
  | some e => append line (← b.field e)
  | none => return line

def item (b : Behaviour σ) (e indent : Text) (v : Value) : Direct σ Unit := do
  let t ← b.text e v
  emitLine (if t.isEmpty then [] else indent ++ t)

def items (b : Behaviour σ) (e indent : Text) : Nat → Bool → Direct σ Bool
  | 0, _ => throw .unknown
  | limit + 1, found => do
    match ← step b.next with
    | some v =>
      b.item e indent v
      items b e indent limit true
    | none => return found

def sequence (b : Behaviour σ) (e indent : Text) (v : Value) : Direct σ Unit := do
  if v.isMissing then fail (.missing e)
  match ← step fun w => b.start w v with
  | some limit =>
    let found ← b.items e indent limit false
    if !found && !indent.isEmpty then emitLine indent
  | none => fail .notSequence

def list (b : Behaviour σ) (e indent : Text) : Direct σ Unit := do
  b.sequence e indent (← b.value e)

def emit (b : Behaviour σ) : Instruction → Direct σ Unit
  | .literal t => emitLine t
  | .fields indent segments trailing => do
    emitLine (← append (← segments.foldlM b.segment indent) trailing)
  | .list e indent => b.list e indent
  | .statement _ => throw .unknown
  | .marker _ _ => return ()

/-- Emits the lines of instructions in order. -/
def interpret (b : Behaviour σ) : List Instruction → Direct σ Unit
  | [] => return ()
  | i :: rest => do
    b.emit i
    modify fun s => { s with done := s.done + 1 }
    b.interpret rest

end Behaviour

end LineTemplate

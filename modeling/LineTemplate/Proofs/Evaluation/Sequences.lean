import LineTemplate.Proofs.Evaluation.Direct
import LineTemplate.Proofs.Evaluation.Steps

/-!
Sequences whose items are converted to text one after the other, and the lines that a list emits for one.
-/

set_option autoImplicit false

namespace LineTemplate

open Script

namespace Direct

variable {σ : Type} {w : σ} {out : List Text} {n : Nat}

theorem append_eq {line t : Text} (fits : line.length + t.length ≤ Text.maxLength) (em : Emission σ) :
    append line t em = .ok (line ++ t) em := by
  unfold append
  rw [if_neg (by omega)]
  rfl

theorem emitLine_eq {line : Text} (room : out.length < Items.arrayLimit) :
    emitLine line ⟨w, out, n⟩ = .ok () ⟨w, out ++ [line], n⟩ := by
  change (if out.length < Items.arrayLimit then _ else _ : Direct σ Unit) _ = _
  rw [if_pos room]
  rfl

end Direct

def itemLine (indent t : Text) : Text := if t.isEmpty then [] else indent ++ t

/-- The lines of items with these texts. Without items there is the indentation alone, if there is one. -/
def listLines (indent : Text) (ts : List Text) : List Text :=
  if ts.isEmpty then (if indent.isEmpty then [] else [indent]) else ts.map (itemLine indent)

namespace Behaviour

variable {σ : Type} {b : Behaviour σ} {w w' : σ} {out : List Text} {n : Nat}

/-- In this state, what is left of the sequence being read is converted to these texts, item by item. None
of the items is missing. -/
inductive Converts (b : Behaviour σ) : σ → List Text → σ → Prop
  | nil {w w' : σ} (ended : b.next w = some (none, w')) : Converts b w [] w'
  | cons {w w₁ w₂ w' : σ} {v : Value} {t : Text} {ts : List Text} (taken : b.next w = some (some v, w₁))
      (present : v.isMissing = false) (converted : b.convert w₁ v = some (.text t, w₂))
      (later : Converts b w₂ ts w') : Converts b w (t :: ts) w'

theorem text_eq {v : Value} {t : Text} (present : v.isMissing = false)
    (converted : b.convert w v = some (.text t, w')) (e : Text) :
    b.text e v ⟨w, out, n⟩ = .ok t ⟨w', out, n⟩ := by
  have step : Direct.step (fun w => b.convert w v) ⟨w, out, n⟩ = .ok _ ⟨w', out, n⟩ :=
    Direct.step_some converted
  unfold text
  rw [if_neg (by simp [present])]
  exact bind_ok step

theorem field_eq {e : Text} {v : Value} {t : Text} (entry : b.entry w e = some v)
    (present : v.isMissing = false) (converted : b.convert w v = some (.text t, w')) :
    b.field e ⟨w, out, n⟩ = .ok t ⟨w', out, n⟩ := by
  have value : b.value e ⟨w, out, n⟩ = .ok v ⟨w, out, n⟩ := value_some entry
  exact (bind_ok value).trans (text_eq present converted e)

theorem item_eq {v : Value} {t : Text} (present : v.isMissing = false)
    (converted : b.convert w v = some (.text t, w')) (e indent : Text)
    (room : out.length < Items.arrayLimit) :
    b.item e indent v ⟨w, out, n⟩ = .ok () ⟨w', out ++ [itemLine indent t], n⟩ :=
  (bind_ok (text_eq present converted e)).trans (Direct.emitLine_eq room)

theorem items_eq {ts : List Text} (e indent : Text) (converts : b.Converts w ts w') {limit : Nat}
    (enough : ts.length < limit) (room : out.length + ts.length ≤ Items.arrayLimit) (found : Bool) :
    b.items e indent limit found ⟨w, out, n⟩ =
      .ok (found || !ts.isEmpty) ⟨w', out ++ ts.map (itemLine indent), n⟩ := by
  induction converts generalizing out limit found with
  | @nil w w' ended =>
    obtain ⟨limit, rfl⟩ : ∃ m, limit = m + 1 := ⟨limit - 1, by omega⟩
    have step : Direct.step b.next ⟨w, out, n⟩ = .ok none ⟨w', out, n⟩ := Direct.step_some ended
    unfold items
    rw [bind_ok step, List.map_nil, List.append_nil, List.isEmpty_nil, Bool.not_true, Bool.or_false]
    rfl
  | @cons w w₁ w₂ w' v t others taken present converted later ih =>
    rw [List.length_cons] at enough room
    obtain ⟨limit, rfl⟩ : ∃ m, limit = m + 1 := ⟨limit - 1, by omega⟩
    have step : Direct.step b.next ⟨w, out, n⟩ = .ok (some v) ⟨w₁, out, n⟩ := Direct.step_some taken
    have own : b.item e indent v ⟨w₁, out, n⟩ = .ok () ⟨w₂, out ++ [itemLine indent t], n⟩ :=
      item_eq present converted e indent (by omega)
    have space : (out ++ [itemLine indent t]).length + others.length ≤ Items.arrayLimit := by
      rw [List.length_append, List.length_singleton]
      omega
    have rest := ih (by omega : others.length < limit) space true
    unfold items
    rw [bind_ok step]
    change (b.item e indent v >>= _) _ = _
    rw [bind_ok own, rest, List.append_assoc]
    simp

theorem list_starts {e : Text} {v : Value} {limit : Nat} (indent : Text) (entry : b.entry w e = some v)
    (present : v.isMissing = false) (started : b.start w v = some (some limit, w')) :
    b.emit (.list e indent) ⟨w, out, n⟩ =
      (b.items e indent limit false >>= fun found =>
        if !found && !indent.isEmpty then Direct.emitLine indent else pure ()) ⟨w', out, n⟩ := by
  have value : b.value e ⟨w, out, n⟩ = .ok v ⟨w, out, n⟩ := value_some entry
  have step : Direct.step (fun w => b.start w v) ⟨w, out, n⟩ = .ok (some limit) ⟨w', out, n⟩ :=
    Direct.step_some started
  change (b.value e >>= _) _ = _
  rw [bind_ok value]
  unfold sequence
  rw [if_neg (by simp [present])]
  change (Direct.step (fun w => b.start w v) >>= _) _ = _
  rw [bind_ok step]

theorem emit_list {e indent : Text} {v : Value} {limit : Nat} {w₁ : σ} {ts : List Text}
    (entry : b.entry w e = some v) (present : v.isMissing = false)
    (started : b.start w v = some (some limit, w₁)) (converts : b.Converts w₁ ts w')
    (enough : ts.length < limit) (room : out.length + (listLines indent ts).length ≤ Items.arrayLimit) :
    b.emit (.list e indent) ⟨w, out, n⟩ = .ok () ⟨w', out ++ listLines indent ts, n⟩ := by
  rw [list_starts indent entry present started]
  cases ts with
  | nil =>
    have space : out.length + ([] : List Text).length ≤ Items.arrayLimit :=
      Nat.le_trans (Nat.add_le_add_left (Nat.zero_le _) _) room
    have items : b.items e indent limit false ⟨w₁, out, n⟩ = .ok false ⟨w', out ++ [], n⟩ :=
      items_eq e indent converts enough space false
    rw [bind_ok items, List.append_nil]
    cases indent with
    | nil =>
      rw [show listLines [] [] = [] from rfl, List.append_nil]
      rfl
    | cons c rest => exact Direct.emitLine_eq room
  | cons t others =>
    have lines : listLines indent (t :: others) = (t :: others).map (itemLine indent) := rfl
    rw [lines, List.length_map] at room
    rw [lines]
    exact bind_ok (items_eq e indent converts enough room false)

/-- In this state a name stands for the object at an address, a sequence whose items are converted to these
texts. -/
def Lists (b : Behaviour σ) (w : σ) (e : Text) (a : Nat) (ts : List Text) : Prop :=
  b.entry w e = some (.ref a) ∧ ∃ limit w₁ w', b.start w (.ref a) = some (some limit, w₁) ∧
    b.Converts w₁ ts w' ∧ ts.length < limit

/-- A behaviour that knows what another does, and maybe more. -/
structure Extends (b b' : Behaviour σ) : Prop where
  entry : ∀ {w e v}, b.entry w e = some v → b'.entry w e = some v
  convert : ∀ {w v result}, b.convert w v = some result → b'.convert w v = some result
  start : ∀ {w v limit w'}, b.start w v = some (some limit, w') → b'.start w v = some (some limit, w')
  next : ∀ {w result}, b.next w = some result → b'.next w = some result

theorem Extends.converts {b' : Behaviour σ} (h : b.Extends b') {ts : List Text}
    (converts : b.Converts w ts w') : b'.Converts w ts w' := by
  induction converts with
  | nil ended => exact .nil (h.next ended)
  | cons taken present converted later ih => exact .cons (h.next taken) present (h.convert converted) ih

theorem Extends.lists {b' : Behaviour σ} (h : b.Extends b') {e : Text} {a : Nat} {ts : List Text}
    (lists : b.Lists w e a ts) : b'.Lists w e a ts := by
  obtain ⟨entry, limit, w₁, w', started, converts, enough⟩ := lists
  exact ⟨h.entry entry, limit, w₁, w', h.start started, h.converts converts, enough⟩

/-- A store in which a scope does at least what a behaviour tells, from this state on. -/
def Stands (b : Behaviour σ) (engine : Engine) (scope : Nat) (w : σ) (own : Own) (s : Store) : Prop :=
  ∃ (b' : Behaviour σ) (holds : σ → Own → Option Cursor → Store → Prop),
    b.Extends b' ∧ Realizes b' engine scope holds ∧ holds w own none s

end Behaviour

end LineTemplate

import LineTemplate.Proofs.Evaluation.Evaluating
import LineTemplate.Proofs.Evaluation.Sequences
import LineTemplate.Proofs.Template.SourceMap

/-!
Scopes of data: every list is an array. Where all values have a text, the lines of a program can be read
off its instructions from left to right.
-/

set_option autoImplicit false

namespace LineTemplate

open Script

/-- What a scope holds, and what its values are converted to. A conversion may change the state that the
scope is in. -/
structure Contents (σ : Type) where
  entry : σ → Text → Option Value
  /-- The items of the array at an address. -/
  items : Nat → Option (List Value)
  /-- Whether the object at an address is no sequence. -/
  single : Nat → Bool
  /-- What a conversion returns. -/
  convert : σ → Value → Option (Value × σ)

/-- A scope has these contents on an engine. `holds` tells which stores stand for a state of the scope, given
what the program keeps to itself. -/
structure HasContents {σ : Type} (d : Contents σ) (engine : Engine) (scope : Nat)
    (holds : σ → Own → Store → Prop) : Prop where
  -- the program's own steps make no difference
  addObject : ∀ {w own s} (o : Obj), holds w own s →
    holds w (own.withObject s.objects.size) (s.addObject o)
  addScope : ∀ {w own s} (names : Members Binding), holds w own s →
    holds w (own.withScope s.scopes.size) (s.addScope names)
  changeObject : ∀ {w own s a} (f : Obj → Obj), holds w own s → a ∈ own.objects →
    holds w own (s.changeObject a f)
  changeScope : ∀ {w own s a} (f : Members Binding → Members Binding), holds w own s →
    a ∈ own.scopes → holds w own (s.changeScope a f)
  -- what the scope holds
  prepared : ∀ {w own s}, holds w own s → Prepared scope (d.entry w) s
  arrays : ∀ {w own s a vs}, holds w own s → d.items a = some vs →
    ∃ slots, s.kindAt a = some (.array slots) ∧ slots.values = vs
  singles : ∀ {w own s a}, holds w own s → d.single a = true →
    ∃ kind, s.kindAt a = some kind ∧ kind.isFunction = false ∧ kind.isSequence = false
  convert : ∀ {w own s v v' w'} (frames : List Frame), holds w own s → d.convert w v = some (v', w') →
    ∃ s', Run.conversion engine frames scope v s = .ok v' s' ∧ own.Kept s s' ∧ holds w' own s'

namespace Contents

variable {σ : Type} (d : Contents σ)

/-- The text that a value is converted to. -/
def text (w : σ) (v : Value) : Text × σ :=
  match d.convert w v with
  | some (.text t, w) => (t, w)
  | _ => ([], w)

/-- In every state a value is converted to text. -/
def Shows (v : Value) : Prop := ∀ w, ∃ t w', d.convert w v = some (.text t, w')

/-- The value of a name. -/
def value (w : σ) (e : Text) : Value := (d.entry w e).getD .undefined

def elements (w : σ) (e : Text) : List Value :=
  match d.value w e with
  | .ref a => (d.items a).getD []
  | _ => []

def segmentsText : σ → List Segment → Text × σ
  | w, [] => ([], w)
  | w, s :: rest =>
    let (own, w) :=
      match s.expression with
      | some e => d.text w (d.value w e)
      | none => ([], w)
    let (others, w) := segmentsText w rest
    (s.lead ++ own ++ others, w)

/-- The lines of the items of a list. An item without text gives an empty line. -/
def itemLines (indent : Text) : σ → List Value → List Text × σ
  | w, [] => ([], w)
  | w, v :: rest =>
    let (t, w) := d.text w v
    let (others, w) := itemLines indent w rest
    ((if t.isEmpty then [] else indent ++ t) :: others, w)

/-- The lines of an instruction. A list without items gives its indentation, if it has one. -/
def instructionLines (w : σ) : Instruction → List Text × σ
  | .literal t => ([t], w)
  | .fields indent segments trailing =>
    let (t, w) := d.segmentsText w segments
    ([indent ++ t ++ trailing], w)
  | .list e indent =>
    if (d.elements w e).isEmpty then (if indent.isEmpty then [] else [indent], w)
    else d.itemLines indent w (d.elements w e)
  | .statement _ | .marker _ _ => ([], w)

/-- The lines of instructions in order. -/
def lines : σ → List Instruction → List Text × σ
  | w, [] => ([], w)
  | w, i :: rest =>
    let (own, w) := d.instructionLines w i
    let (others, w) := lines w rest
    (own ++ others, w)

/-- In every state the scope has what an instruction needs: a value that can be shown for each field, and
an array of such values for a list. -/
def Covers : Instruction → Prop
  | .fields _ segments _ => ∀ s ∈ segments, ∀ e, s.expression = some e →
      ∀ w, ∃ v, d.entry w e = some v ∧ v.isMissing = false ∧ d.Shows v
  | .list e _ => ∀ w, ∃ a vs, d.entry w e = some (.ref a) ∧ d.items a = some vs ∧
      ∀ v ∈ vs, v.isMissing = false ∧ d.Shows v
  | .literal _ | .statement _ | .marker _ _ => True

/-- Contents that tell at least what others do. -/
structure Extends (d d' : Contents σ) : Prop where
  entry : ∀ {w e v}, d.entry w e = some v → d'.entry w e = some v
  items : ∀ {a vs}, d.items a = some vs → d'.items a = some vs
  convert : ∀ {w v result}, d.convert w v = some result → d'.convert w v = some result

namespace Extends

variable {d d' : Contents σ} (h : d.Extends d')

include h

theorem shows {v : Value} (shown : d.Shows v) : d'.Shows v := by
  intro w
  obtain ⟨t, w', converted⟩ := shown w
  exact ⟨t, w', h.convert converted⟩

theorem text {v : Value} (shown : d.Shows v) (w : σ) : d'.text w v = d.text w v := by
  obtain ⟨t, w', converted⟩ := shown w
  rw [Contents.text, Contents.text, converted, h.convert converted]

theorem value {w : σ} {e : Text} {v : Value} (entry : d.entry w e = some v) : d'.value w e = d.value w e := by
  rw [Contents.value, Contents.value, entry, h.entry entry]

theorem covers {i : Instruction} (covers : d.Covers i) : d'.Covers i := by
  cases i with
  | literal | statement | marker => trivial
  | fields indent segments trailing =>
    intro s inside e expression w
    obtain ⟨v, entry, present, shown⟩ := covers s inside e expression w
    exact ⟨v, h.entry entry, present, h.shows shown⟩
  | list e indent =>
    intro w
    obtain ⟨a, vs, entry, items, all⟩ := covers w
    exact ⟨a, vs, h.entry entry, h.items items, fun v inside => ⟨(all v inside).1, h.shows (all v inside).2⟩⟩

theorem segmentsText {segments : List Segment}
    (covers : ∀ s ∈ segments, ∀ e, s.expression = some e →
      ∀ w, ∃ v, d.entry w e = some v ∧ v.isMissing = false ∧ d.Shows v) (w : σ) :
    d'.segmentsText w segments = d.segmentsText w segments := by
  induction segments generalizing w with
  | nil => rfl
  | cons s rest ih =>
    have later := ih fun s inside => covers s (List.mem_cons_of_mem _ inside)
    unfold Contents.segmentsText
    cases expression : s.expression with
    | none => simp only [later]
    | some e =>
      obtain ⟨v, entry, -, shown⟩ := covers s List.mem_cons_self e expression w
      have same : d.value w e = v := by rw [Contents.value, entry, Option.getD_some]
      simp only [h.value entry, same, h.text shown, later]

theorem itemLines {vs : List Value} (shown : ∀ v ∈ vs, d.Shows v) (indent : Text) (w : σ) :
    d'.itemLines indent w vs = d.itemLines indent w vs := by
  induction vs generalizing w with
  | nil => rfl
  | cons v rest ih =>
    have later := ih fun v inside => shown v (List.mem_cons_of_mem _ inside)
    unfold Contents.itemLines
    simp only [h.text (shown v List.mem_cons_self), later]

theorem instructionLines {i : Instruction} (covers : d.Covers i) (w : σ) :
    d'.instructionLines w i = d.instructionLines w i := by
  cases i with
  | literal | statement | marker => rfl
  | fields indent segments trailing =>
    simp only [Contents.instructionLines, h.segmentsText covers]
  | list e indent =>
    obtain ⟨a, vs, entry, items, all⟩ := covers w
    have elements : d.elements w e = vs := by
      simp only [Contents.elements, Contents.value, entry, Option.getD_some, items]
    have elements' : d'.elements w e = vs := by
      simp only [Contents.elements, Contents.value, h.entry entry, Option.getD_some, h.items items]
    simp only [Contents.instructionLines, elements, elements', h.itemLines fun v inside => (all v inside).2]

theorem lines {instructions : List Instruction} (covers : ∀ i ∈ instructions, d.Covers i) (w : σ) :
    d'.lines w instructions = d.lines w instructions := by
  induction instructions generalizing w with
  | nil => rfl
  | cons i rest ih =>
    have later := ih fun i inside => covers i (List.mem_cons_of_mem _ inside)
    unfold Contents.lines
    simp only [h.instructionLines (covers i List.mem_cons_self), later]

end Extends

/-- The behaviour of the scope. The items of the array being read are a part of its state. -/
def behaviour : Behaviour (σ × List Value) where
  entry w e := d.entry w.1 e
  convert w v := (d.convert w.1 v).map fun (v', after) => (v', after, w.2)
  start w v :=
    match v with
    | .ref a =>
      match d.items a with
      | some vs => some (some (vs.length + 1), w.1, vs)
      | none => if d.single a then some (none, w) else none
    | _ => some (none, w)
  next w :=
    match w.2 with
    | [] => some (none, w)
    | v :: rest => some (some v, w.1, rest)

theorem start_items {d : Contents σ} {a : Nat} {vs : List Value} (w : σ × List Value)
    (h : d.items a = some vs) : d.behaviour.start w (.ref a) = some (some (vs.length + 1), w.1, vs) := by
  simp only [behaviour, h]

theorem start_single {d : Contents σ} {a : Nat} (w : σ × List Value) (h : d.items a = none) :
    d.behaviour.start w (.ref a) = if d.single a then some (none, w) else none := by
  simp only [behaviour, h]

theorem Extends.behaviour {d d' : Contents σ} (h : d.Extends d') : d.behaviour.Extends d'.behaviour where
  entry := h.entry
  convert known := by
    obtain ⟨result, converted, rfl⟩ := Option.map_eq_some_iff.1 known
    exact Option.map_eq_some_iff.2 ⟨result, h.convert converted, rfl⟩
  start {w v limit w'} known := by
    cases v with
    | ref a =>
      cases items : d.items a with
      | none =>
        rw [start_single w items] at known
        split at known <;> cases known
      | some vs =>
        rw [start_items w items] at known
        exact (start_items w (h.items items)).trans known
    | undefined | null | bool | number | bigint | text | symbol => cases known
  next known := known

/-- The store stands for the state of the scope, and the array being read has these items left. -/
def Reads (holds : σ → Own → Store → Prop) (w : σ × List Value) (own : Own) (c : Option Cursor)
    (s : Store) : Prop :=
  holds w.1 own s ∧
    match c with
    | none => True
    | some (.array a i) => ∃ vs, d.items a = some vs ∧ w.2 = vs.drop i
    | some _ => False

end Contents

section

variable {σ : Type} {d : Contents σ} {engine : Engine} {scope : Nat} {holds : σ → Own → Store → Prop}

theorem opens_array (engine : Engine) {s : Store} {a : Nat} {slots : Slots Value} (frames : List Frame)
    (array : s.kindAt a = some (.array slots)) :
    Run.source engine frames (.ref a) s = .ok (.ref a) s ∧
      Run.isSequenceObject (.ref a) s = .ok true s ∧
      Run.open? (.ref a) s = .ok (some (.array a 0)) s ∧
      ∃ n, Run.loopLimit (.ref a) s = .ok n s ∧ slots.values.length + 1 ≤ n := by
  have kind : Run.kind? (.ref a) s = .ok (some (.array slots)) s := by rw [Run.kind?_ref, array]
  refine ⟨?_, bind_ok kind, bind_ok kind, _, rfl, ?_⟩
  · unfold Run.source
    rw [bind_ok (Run.isFunction_ref array)]
    rfl
  · have most : slots.length ≤ s.itemCount := itemCount_le array
    have allowance : 1 ≤ loopAllowance := by decide
    rw [length_values]
    change slots.length + 1 ≤ s.itemCount + 0 + loopAllowance
    omega

theorem source_of_single (engine : Engine) {s : Store} {a : Nat} {kind : Kind} (frames : List Frame)
    (known : s.kindAt a = some kind) (noFunction : kind.isFunction = false)
    (noSequence : kind.isSequence = false) :
    Run.source engine frames (.ref a) s = .ok (.ref a) s ∧
      Run.isSequenceObject (.ref a) s = .ok false s := by
  have found : Run.kind? (.ref a) s = .ok (some kind) s := by rw [Run.kind?_ref, known]
  constructor
  · unfold Run.source
    rw [bind_ok (Run.isFunction_ref known), noFunction]
    rfl
  · unfold Run.isSequenceObject
    rw [bind_ok found, Option.map_some, Option.getD_some, noSequence]
    rfl

theorem next_reads (has : HasContents d engine scope holds) {w : σ} {left : List Value} {own : Own}
    {cursor : Cursor} {s : Store} (frames : List Frame) (h : d.Reads holds (w, left) own (some cursor) s) :
    ∃ after, Run.next engine frames cursor s = .ok (left.head?.map fun v => (v, after)) s ∧
      d.Reads holds (w, left.tail) own (some after) s := by
  cases cursor with
  | array a i =>
    obtain ⟨holds, vs, items, rfl⟩ := h
    obtain ⟨slots, array, rfl⟩ := has.arrays holds items
    refine ⟨.array a (i + 1), ?_, holds, _, items, List.tail_drop⟩
    rw [next_array engine i frames array, List.head?_drop]
  | items | generator | finished => exact h.2.elim

theorem source_of_start_none (has : HasContents d engine scope holds) {w w' : σ × List Value} {own : Own}
    {s : Store} {v : Value} (frames : List Frame) (h : d.Reads holds w own none s)
    (start : d.behaviour.start w v = some (none, w')) :
    Run.source engine frames v s = .ok v s ∧ Run.isSequenceObject v s = .ok false s ∧ w' = w := by
  cases v with
  | ref a =>
    cases items : d.items a with
    | some vs =>
      rw [Contents.start_items w items] at start
      cases start
    | none =>
      rw [Contents.start_single w items] at start
      cases single : d.single a with
      | false =>
        rw [single] at start
        cases start
      | true =>
        rw [single] at start
        cases start
        obtain ⟨kind, known, noFunction, noSequence⟩ := has.singles h.1 single
        obtain ⟨source, sequence⟩ := source_of_single engine frames known noFunction noSequence
        exact ⟨source, sequence, rfl⟩
  | undefined | null | bool | number | bigint | text | symbol =>
    cases start
    exact ⟨rfl, rfl, rfl⟩

theorem items_of_start_some {w w' : σ × List Value} {v : Value} {limit : Nat}
    (start : d.behaviour.start w v = some (some limit, w')) :
    ∃ a vs, v = .ref a ∧ d.items a = some vs ∧ limit = vs.length + 1 ∧ w' = (w.1, vs) := by
  cases v with
  | ref a =>
    cases items : d.items a with
    | none =>
      rw [Contents.start_single w items] at start
      split at start <;> cases start
    | some vs =>
      rw [Contents.start_items w items] at start
      cases start
      exact ⟨a, vs, rfl, items, rfl, rfl⟩
  | undefined | null | bool | number | bigint | text | symbol => cases start

theorem realizes_of_hasContents (has : HasContents d engine scope holds) :
    Realizes d.behaviour engine scope (d.Reads holds) where
  addObject o h := ⟨has.addObject o h.1, h.2⟩
  addScope names h := ⟨has.addScope names h.1, h.2⟩
  changeObject f h own := ⟨has.changeObject f h.1 own, h.2⟩
  changeScope f h own := ⟨has.changeScope f h.1 own, h.2⟩
  prepared h := has.prepared h.1
  convert {w own c s v v' w'} frames h answers := by
    obtain ⟨⟨v', after⟩, converted, same⟩ := Option.map_eq_some_iff.1 answers
    cases same
    obtain ⟨s', found, kept, holds⟩ := has.convert frames h.1 converted
    exact ⟨s', found, kept, holds, h.2⟩
  start {w own s v limit w'} frames h answers := by
    obtain ⟨a, vs, rfl, items, rfl, rfl⟩ := items_of_start_some answers
    obtain ⟨slots, array, rfl⟩ := has.arrays h.1 items
    obtain ⟨source, sequence, opened, bounded⟩ := opens_array engine frames array
    exact ⟨_, s, _, s, source, sequence, opened, bounded, .refl own s, h.1, _, items, rfl⟩
  noSequence {w own s v w'} frames h answers := by
    obtain ⟨source, sequence, rfl⟩ := source_of_start_none has frames h answers
    exact ⟨_, s, source, sequence, .refl own s, h⟩
  next {w own cursor s v w'} frames h answers := by
    obtain ⟨w, left⟩ := w
    cases left with
    | nil => cases answers
    | cons first rest =>
      cases answers
      obtain ⟨after, found, reads⟩ := next_reads has frames h
      exact ⟨after, s, found, .refl own s, reads⟩
  finish {w own cursor s w'} frames h answers := by
    obtain ⟨w, left⟩ := w
    cases left with
    | cons first rest => cases answers
    | nil =>
      cases answers
      obtain ⟨_, found, -⟩ := next_reads has frames h
      exact ⟨s, found, .refl own s, h.1, trivial⟩
  close {w own cursor s} h := by
    cases cursor with
    | array a i => exact ⟨s, w, rfl, .refl own s, h.1, trivial⟩
    | items | generator | finished => exact h.2.elim

end

namespace Contents

variable {σ : Type} {d : Contents σ} {w : σ} {left : List Value} {out : List Text} {n : Nat}

theorem convert_text {v : Value} {t : Text} {w' : σ} (converted : d.convert w v = some (.text t, w'))
    (left : List Value) : d.behaviour.convert (w, left) v = some (.text t, w', left) := by
  change (d.convert w v).map _ = _
  rw [converted]
  rfl

theorem converts_of_shows {vs : List Value} (shown : ∀ v ∈ vs, v.isMissing = false ∧ d.Shows v)
    (indent : Text) (w : σ) :
    ∃ ts, d.behaviour.Converts (w, vs) ts ((d.itemLines indent w vs).2, []) ∧ ts.length = vs.length ∧
      (d.itemLines indent w vs).1 = ts.map (itemLine indent) := by
  induction vs generalizing w with
  | nil => exact ⟨[], .nil rfl, rfl, rfl⟩
  | cons v rest ih =>
    obtain ⟨present, shows⟩ := shown v List.mem_cons_self
    obtain ⟨t, w', converted⟩ := shows w
    obtain ⟨others, later, count, lines⟩ := ih (fun v inside => shown v (List.mem_cons_of_mem _ inside)) w'
    have text : d.text w v = (t, w') := by rw [Contents.text, converted]
    have after : (d.itemLines indent w (v :: rest)).2 = (d.itemLines indent w' rest).2 := by
      rw [itemLines, text]
    refine ⟨t :: others, .cons rfl present (convert_text converted rest) (after ▸ later),
      congrArg Nat.succ count, ?_⟩
    rw [itemLines, text]
    exact congrArg (itemLine indent t :: ·) lines

theorem field_eq {e : Text} {v : Value} (entry : d.entry w e = some v) (present : v.isMissing = false)
    (shown : d.Shows v) :
    d.behaviour.field e ⟨(w, left), out, n⟩ =
      .ok (d.text w (d.value w e)).1 ⟨((d.text w (d.value w e)).2, left), out, n⟩ := by
  have same : d.value w e = v := by rw [Contents.value, entry, Option.getD_some]
  obtain ⟨t, w', converted⟩ := shown w
  have text : d.text w v = (t, w') := by rw [Contents.text, converted]
  rw [same, text]
  exact Behaviour.field_eq entry present (convert_text converted left)

theorem foldlM_segment {segments : List Segment}
    (covers : ∀ s ∈ segments, ∀ e, s.expression = some e →
      ∀ w, ∃ v, d.entry w e = some v ∧ v.isMissing = false ∧ d.Shows v) {line : Text}
    (fits : line.length + (d.segmentsText w segments).1.length ≤ Text.maxLength) :
    segments.foldlM d.behaviour.segment line ⟨(w, left), out, n⟩ =
      .ok (line ++ (d.segmentsText w segments).1) ⟨((d.segmentsText w segments).2, left), out, n⟩ := by
  induction segments generalizing w line with
  | nil =>
    change EStateM.Result.ok line _ = .ok (line ++ []) _
    rw [List.append_nil]
    rfl
  | cons s rest ih =>
    have later : ∀ s ∈ rest, ∀ e, s.expression = some e →
        ∀ w, ∃ v, d.entry w e = some v ∧ v.isMissing = false ∧ d.Shows v :=
      fun s inside => covers s (List.mem_cons_of_mem _ inside)
    rw [List.foldlM_cons]
    cases expression : s.expression with
    | none =>
      have whole : d.segmentsText w (s :: rest) =
          (s.lead ++ (d.segmentsText w rest).1, (d.segmentsText w rest).2) := by
        simp only [segmentsText, expression, List.append_nil]
      rw [whole] at fits ⊢
      simp only [List.length_append] at fits
      have own : d.behaviour.segment line s ⟨(w, left), out, n⟩ =
          .ok (line ++ s.lead) ⟨(w, left), out, n⟩ := by
        unfold Behaviour.segment
        rw [bind_ok (Direct.append_eq (by omega) _), expression]
        rfl
      rw [bind_ok own, ih later (by rw [List.length_append]; omega), List.append_assoc]
    | some e =>
      obtain ⟨v, entry, present, shown⟩ := covers s List.mem_cons_self e expression w
      have whole : d.segmentsText w (s :: rest) =
          (s.lead ++ (d.text w (d.value w e)).1 ++ (d.segmentsText (d.text w (d.value w e)).2 rest).1,
            (d.segmentsText (d.text w (d.value w e)).2 rest).2) := by
        simp only [segmentsText, expression]
      rw [whole] at fits ⊢
      simp only [List.length_append] at fits
      have own : d.behaviour.segment line s ⟨(w, left), out, n⟩ =
          .ok (line ++ s.lead ++ (d.text w (d.value w e)).1)
            ⟨((d.text w (d.value w e)).2, left), out, n⟩ := by
        unfold Behaviour.segment
        rw [bind_ok (Direct.append_eq (by omega) _), expression]
        change (d.behaviour.field e >>= _) _ = _
        rw [bind_ok (field_eq entry present shown)]
        exact Direct.append_eq (by rw [List.length_append]; omega) _
      rw [bind_ok own, ih later (by rw [List.length_append, List.length_append]; omega)]
      simp only [List.append_assoc]

theorem emit_eq {i : Instruction} (plain : i.Plain) (covers : d.Covers i)
    (fits : ∀ line ∈ (d.instructionLines w i).1, line.length ≤ Text.maxLength)
    (room : out.length + (d.instructionLines w i).1.length ≤ Items.arrayLimit) :
    ∃ left', d.behaviour.emit i ⟨(w, left), out, n⟩ =
      .ok () ⟨((d.instructionLines w i).2, left'), out ++ (d.instructionLines w i).1, n⟩ := by
  cases i with
  | literal t => exact ⟨left, Direct.emitLine_eq room⟩
  | statement => exact plain.elim
  | marker =>
    refine ⟨left, ?_⟩
    change _ = EStateM.Result.ok () (⟨(w, left), out ++ [], n⟩ : Emission (σ × List Value))
    rw [List.append_nil]
    rfl
  | fields indent segments trailing =>
    have whole := fits (indent ++ (d.segmentsText w segments).1 ++ trailing) List.mem_cons_self
    rw [List.length_append, List.length_append] at whole
    refine ⟨left, ?_⟩
    change (segments.foldlM d.behaviour.segment indent >>= _) _ = _
    rw [bind_ok (foldlM_segment covers (by omega))]
    rw [bind_ok (Direct.append_eq (by rw [List.length_append]; omega) _)]
    exact Direct.emitLine_eq room
  | list e indent =>
    obtain ⟨a, vs, entry, items, all⟩ := covers w
    have elements : d.elements w e = vs := by
      simp only [Contents.elements, Contents.value, entry, Option.getD_some, items]
    obtain ⟨ts, converts, count, lines⟩ := d.converts_of_shows all indent w
    have whole : d.instructionLines w (.list e indent) =
        (listLines indent ts, (d.itemLines indent w vs).2) := by
      change (if (d.elements w e).isEmpty then _ else _) = _
      rw [elements]
      cases vs with
      | nil =>
        rw [List.length_eq_zero_iff.1 count]
        rfl
      | cons v rest =>
        obtain ⟨t, others, rfl⟩ := List.exists_cons_of_length_eq_add_one count
        exact Prod.ext lines rfl
    rw [whole] at room ⊢
    exact ⟨[], Behaviour.emit_list entry rfl (start_items (w, left) items) converts
      (count ▸ Nat.lt_succ_self _) room⟩

/-- Instructions that the scope covers emit their lines. -/
theorem interpret_eq {instructions : List Instruction} (plain : ∀ i ∈ instructions, i.Plain)
    (covers : ∀ i ∈ instructions, d.Covers i)
    (fits : ∀ line ∈ (d.lines w instructions).1, line.length ≤ Text.maxLength)
    (room : out.length + (d.lines w instructions).1.length ≤ Items.arrayLimit) :
    ∃ em, d.behaviour.interpret instructions ⟨(w, left), out, n⟩ = .ok () em ∧
      em.lines = out ++ (d.lines w instructions).1 := by
  induction instructions generalizing w left out n with
  | nil => exact ⟨_, rfl, (List.append_nil out).symm⟩
  | cons i rest ih =>
    have whole : d.lines w (i :: rest) = ((d.instructionLines w i).1 ++
        (d.lines (d.instructionLines w i).2 rest).1, (d.lines (d.instructionLines w i).2 rest).2) := rfl
    rw [whole] at fits room ⊢
    rw [List.length_append] at room
    have space : out.length + (d.instructionLines w i).1.length ≤ Items.arrayLimit := by omega
    obtain ⟨left', own⟩ := emit_eq (plain i List.mem_cons_self) (covers i List.mem_cons_self)
      (fun line inside => fits line (List.mem_append_left _ inside)) space
    have next : d.behaviour.interpret (i :: rest) ⟨(w, left), out, n⟩ =
        d.behaviour.interpret rest
          ⟨((d.instructionLines w i).2, left'), out ++ (d.instructionLines w i).1, n + 1⟩ := bind_ok own
    have later : (out ++ (d.instructionLines w i).1).length +
        (d.lines (d.instructionLines w i).2 rest).1.length ≤ Items.arrayLimit := by
      rw [List.length_append]
      omega
    rw [next]
    obtain ⟨em, others, lines⟩ := ih (fun i inside => plain i (List.mem_cons_of_mem _ inside))
      (fun i inside => covers i (List.mem_cons_of_mem _ inside))
      (fun line inside => fits line (List.mem_append_right _ inside)) later
    exact ⟨em, others, lines.trans (List.append_assoc _ _ _)⟩

end Contents

theorem expand_legible {columns : Nat} {style : DelimiterStyle} {included : Members Text}
    {template : Text} {p : Program} (expanded : expand columns style included template = .ok p)
    (plain : ∀ i ∈ p.instructions, i.Plain) : ∀ i ∈ p.instructions, i.Legible := by
  intro i inside
  refine (plain i inside).legible fun boundary name same => ?_
  rw [same] at inside
  exact expand_lineEnd_of_marker expanded inside

end LineTemplate

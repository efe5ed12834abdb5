import LineTemplate.Proofs.Evaluation.Contents
import LineTemplate.Proofs.Evaluation.Kinds
import LineTemplate.Proofs.Evaluation.Returning
import LineTemplate.Proofs.Script.Leading

/-!
The expansion of an array in the text of a template, one item after the other: each item is converted, and a
line added for its text. The conversions may do anything that leaves the array, the output and the scope as
they are.
-/

set_option autoImplicit false

namespace LineTemplate

open Script

namespace Script

/-- No function of the scope converts the values of its templates. -/
def Store.Unconverted (scope : Nat) (s : Store) : Prop :=
  ∀ o a f, s.objects[scope]? = some o → Run.objectMember o conversionName = .ref a →
    s.kindAt a ≠ some (.function f)

/-- A store while the array at an address is expanded: the array holds these items, the output these lines,
and the scope leaves the conversion of values alone. -/
structure Expanding (scope out a : Nat) (items : List Value) (lines : List Text) (s : Store) : Prop where
  unconverted : s.Unconverted scope
  list : ∃ slots, s.kindAt a = some (.array slots) ∧ slots.values = items
  output : s.objects[out]? = some (linesObject lines)
  builtin : s.kindAt Method.push.address = some (.function (.native (.method .push)))
  scopeApart : out ≠ scope
  listApart : out ≠ a

/-- The stores in which an expansion asks for its next item, with the texts of the items before. Each item adds
a line to the output. -/
inductive Reached (engine : Engine) (frames : List Frame) (out : Nat) (indent : Text) (items : List Value)
    (start : Store) : List Text → Store → Prop
  | start : Reached engine frames out indent items start [] start
  | next {ts : List Text} {s s' : Store} {v : Value} {t : Text}
      (before : Reached engine frames out indent items start ts s) (item : items[ts.length]? = some v)
      (converted : Run.textOf engine frames v s = .ok t s') :
      Reached engine frames out indent items start (ts ++ [t])
        (s'.changeObject out (Running.addLine (itemLine indent t)))

/-- As long as the expansion goes on, the array, the output and the scope are as they have to be, whatever
else the conversions of the items change. -/
structure Undisturbed (engine : Engine) (frames : List Frame) (scope out a : Nat) (indent : Text)
    (items : List Value) (lines : List Text) (start : Store) : Prop where
  asking : ∀ {ts s}, Reached engine frames out indent items start ts s →
    Expanding scope out a items (lines ++ ts.map (itemLine indent)) s
  converting : ∀ {ts s v}, Reached engine frames out indent items start ts s →
    items[ts.length]? = some v →
    Expanding scope out a items (lines ++ ts.map (itemLine indent)) ((Run.textOf engine frames v).after s)

/-- A function that is called returns the array of these items at an address, none of them missing, which can
be expanded with this indentation. There is room for a line for each item. -/
structure ReturnsItems (engine : Engine) (frames : List Frame) (f : Value) (scope out a : Nat) (indent : Text)
    (items : List Value) (lines : List Text) (s s' : Store) : Prop where
  returned : engine.call frames f .undefined [] s = .ok (.ref a) s'
  undisturbed : Undisturbed engine frames scope out a indent items lines s'
  nonempty : items ≠ []
  present : ∀ v ∈ items, v.isMissing = false
  room : lines.length + items.length ≤ Items.arrayLimit

/-- An expansion that has ended. The output has a line for the text of each item, or, if one of them could not
be converted, of each item before. -/
def Expanded (engine : Engine) (frames : List Frame) (out : Nat) (indent : Text) (items : List Value)
    (lines : List Text) (start : Store) {α : Type} : EStateM.Result Stop Store α → Prop
  | .ok _ s => ∃ ts, Reached engine frames out indent items start ts s ∧ ts.length = items.length ∧
      s.objects[out]? = some (linesObject (lines ++ ts.map (itemLine indent)))
  | .error stop s' => ∃ ts s v, Reached engine frames out indent items start ts s ∧
      items[ts.length]? = some v ∧ Run.textOf engine frames v s = .error stop s' ∧
      s'.objects[out]? = some (linesObject (lines ++ ts.map (itemLine indent)))

theorem Store.Unconverted.changeObject {scope b : Nat} {s : Store} {f : Obj → Obj}
    (h : s.Unconverted scope)
    (entry : b = scope → ∀ o, s.objects[b]? = some o →
      Run.objectMember (f o) conversionName = Run.objectMember o conversionName)
    (noFunction : ∀ o, s.objects[b]? = some o → (f o).kind.isFunction = false) :
    (s.changeObject b f).Unconverted scope := by
  intro o a g found member known
  rw [Store.kindAt_changeObject] at known
  change (s.objects.modify b f)[scope]? = some o at found
  rw [Array.getElem?_modify] at found
  -- the object of the function is not the one that is changed
  by_cases changed : b = a
  · subst changed
    rw [if_pos rfl] at known
    obtain ⟨o', here, kind⟩ := Option.map_eq_some_iff.1 known
    have noFunction := noFunction o' here
    rw [kind] at noFunction
    cases noFunction
  · rw [if_neg changed] at known
    by_cases itself : b = scope
    · rw [if_pos itself] at found
      obtain ⟨o', here, rfl⟩ := Option.map_eq_some_iff.1 found
      rw [entry itself o' (itself ▸ here)] at member
      exact h o' a g here member known
    · rw [if_neg itself] at found
      exact h o a g found member known

namespace Run

theorem convertValue_of_unconverted (engine : Engine) (frames : List Frame) {scope : Nat} {s : Store}
    (h : s.Unconverted scope) {v : Value} (present : v.isMissing = false) (e : Text) :
    convertValue engine frames scope v e s = textOf engine frames v s := by
  have single : ∃ convert, member (.ref scope) conversionName s = .ok convert s ∧
      isFunction convert s = .ok false s := by
    cases here : s.objects[scope]? with
    | none =>
      refine ⟨.undefined, ?_, rfl⟩
      change EStateM.Result.ok ((s.objects[scope]?.map _).getD _) s = _
      rw [here]
      rfl
    | some o =>
      refine ⟨objectMember o conversionName, member_ref here conversionName, ?_⟩
      cases member : objectMember o conversionName with
      | ref a =>
        change EStateM.Result.ok (((s.kindAt a).map Kind.isFunction).getD false) s = _
        cases kind : s.kindAt a with
        | none => rfl
        | some k =>
          cases k with
          | function f => exact absurd kind (h o a f here member)
          | _ => rfl
      | _ => rfl
  obtain ⟨convert, found, single⟩ := single
  unfold convertValue
  rw [if_neg (by simp [present])]
  change (member (.ref scope) conversionName >>= _) s = _
  rw [bind_ok found, bind_ok single]
  rfl

end Run

namespace Expanding

variable {scope out a : Nat} {items : List Value} {lines : List Text} {s : Store}

theorem kindAt_out (h : Expanding scope out a items lines s) :
    s.kindAt out = some (.array (.ofList (lines.map .text))) := by
  unfold Store.kindAt
  rw [h.output]
  rfl

theorem addLine (h : Expanding scope out a items lines s) (line : Text) :
    Expanding scope out a items (lines ++ [line]) (s.changeObject out (Running.addLine line)) := by
  obtain ⟨slots, array, held⟩ := h.list
  have builtinApart : out ≠ Method.push.address := by
    intro same
    cases (same ▸ h.kindAt_out).symm.trans h.builtin
  refine ⟨h.unconverted.changeObject (fun same => absurd same h.scopeApart) fun o found => ?_,
    ⟨slots, ?_, held⟩, ?_, ?_, h.scopeApart, h.listApart⟩
  · cases found.symm.trans h.output
    rfl
  · rw [Store.kindAt_changeObject, if_neg h.listApart]
    exact array
  · change (s.objects.modify out _)[out]? = _
    rw [Array.getElem?_modify, if_pos rfl, h.output, Option.map_some, Running.addLine_linesObject]
  · rw [Store.kindAt_changeObject, if_neg builtinApart]
    exact h.builtin

end Expanding

theorem Reached.length_le {engine : Engine} {frames : List Frame} {out : Nat} {indent : Text}
    {items : List Value} {start s : Store} {ts : List Text}
    (reached : Reached engine frames out indent items start ts s) : ts.length ≤ items.length := by
  cases reached with
  | start => exact Nat.zero_le _
  | next before item converted =>
    rw [List.length_append, List.length_singleton]
    exact (List.getElem?_eq_some_iff.1 item).1

theorem undisturbed_of_ne_ref (engine : Engine) (frames : List Frame) {scope out a : Nat} {indent : Text}
    {items : List Value} {lines : List Text} {start : Store} (single : ∀ v ∈ items, ∀ b, v ≠ .ref b)
    (h : Expanding scope out a items lines start) :
    Undisturbed engine frames scope out a indent items lines start := by
  have untouched {k : Nat} {v : Value} (item : items[k]? = some v) (s : Store) :
      ∃ t, Run.textOf engine frames v s = .ok t s :=
    Run.textOf_of_ne_ref engine frames (single v (List.mem_of_getElem? item)) s
  have asking {ts : List Text} {s : Store} (reached : Reached engine frames out indent items start ts s) :
      Expanding scope out a items (lines ++ ts.map (itemLine indent)) s := by
    induction reached with
    | start => exact (List.append_nil lines).symm ▸ h
    | @next ts s s' v t before item converted ih =>
      obtain ⟨t', same⟩ := untouched item s
      cases converted.symm.trans same
      rw [List.map_append, ← List.append_assoc]
      exact ih.addLine _
  refine ⟨asking, fun {ts s v} reached item => ?_⟩
  obtain ⟨t, same⟩ := untouched item s
  rw [Run.after_ok same]
  exact asking reached

namespace Run

def emitItem (engine : Engine) (frames : List Frame) (scope : Nat) (output : Value)
    (indent expression : Text) (_ : Bool) (item : Value) : Run Bool := do
  let content ← convertValue engine frames scope item expression
  pushLine engine frames output (itemLine indent content)
  return true

theorem emitLines_eq (engine : Engine) (frames : List Frame) (scope : Nat) (output v : Value)
    (indent expression : Text) :
    emitLines engine frames scope output v indent expression = (do
      let source ← listSource engine frames v expression
      match ← open? source with
      | none => return ()
      | some cursor =>
        let found ← fold engine frames (emitItem engine frames scope output indent expression)
          (← loopLimit source) false cursor
        if !found && !indent.isEmpty then pushLine engine frames output indent) := rfl

variable {engine : Engine} {frames : List Frame} {scope out a : Nat} {items : List Value} {lines : List Text}
  {s : Store}

theorem emitItem_error {stop : Stop} {s' : Store} {v : Value} (unconverted : s.Unconverted scope)
    (present : v.isMissing = false) (converted : textOf engine frames v s = .error stop s')
    (output : Value) (indent e : Text) (found : Bool) :
    emitItem engine frames scope output indent e found v s = .error stop s' :=
  bind_error ((convertValue_of_unconverted engine frames unconverted present e).trans converted)

theorem emitItem_ok {depth : Nat} {s' : Store} {v : Value} {t : Text} (unconverted : s.Unconverted scope)
    (present : v.isMissing = false) (converted : textOf (.nested (depth + 1)) frames v s = .ok t s')
    (expanding : Expanding scope out a items lines s') (room : lines.length < Items.arrayLimit)
    (indent e : Text) (found : Bool) :
    emitItem (.nested (depth + 1)) frames scope (.ref out) indent e found v s =
      .ok true (s'.changeObject out (Running.addLine (itemLine indent t))) := by
  obtain ⟨v', pushed⟩ := call_push_lines depth frames expanding.builtin expanding.output
    (itemLine indent t) room
  have text := (convertValue_of_unconverted (.nested (depth + 1)) frames unconverted present e).trans
    converted
  have line : pushLine (.nested (depth + 1)) frames (.ref out) (itemLine indent t) s' =
      .ok () (s'.changeObject out (Running.addLine (itemLine indent t))) :=
    (pushLine_eq _ frames expanding.builtin expanding.output _).trans (bind_ok pushed)
  unfold emitItem
  rw [bind_ok text, bind_ok line]
  rfl

theorem fold_emitItem {depth k : Nat} {v : Value} (h : Expanding scope out a items lines s)
    (item : items[k]? = some v) (present : v.isMissing = false)
    (kept : Expanding scope out a items lines ((textOf (.nested (depth + 1)) frames v).after s))
    (room : lines.length < Items.arrayLimit) (indent e : Text) (limit : Nat) (found : Bool) :
    fold (.nested (depth + 1)) frames (emitItem (.nested (depth + 1)) frames scope (.ref out) indent e)
        (limit + 1) found (.array a k) s =
      match textOf (.nested (depth + 1)) frames v s with
      | .error stop s' => .error stop s'
      | .ok t s' => fold (.nested (depth + 1)) frames
          (emitItem (.nested (depth + 1)) frames scope (.ref out) indent e) limit true (.array a (k + 1))
          (s'.changeObject out (Running.addLine (itemLine indent t))) := by
  obtain ⟨slots, array, held⟩ := h.list
  have read := LineTemplate.next_array (.nested (depth + 1)) k frames array
  rw [held, item, Option.map_some] at read
  cases converted : textOf (.nested (depth + 1)) frames v s with
  | error stop s' =>
    exact fold_array_stopped read (emitItem_error h.unconverted present converted (.ref out) indent e found)
  | ok t s' =>
    rw [after_ok converted] at kept
    exact fold_item read (emitItem_ok h.unconverted present converted kept room indent e found)

theorem getElem?_of_drop {α : Type} {xs rest : List α} {k : Nat} {x : α} (left : xs.drop k = x :: rest) :
    xs[k]? = some x ∧ xs.drop (k + 1) = rest := by
  constructor
  · rw [← List.head?_drop, left, List.head?_cons]
  · rw [← List.tail_drop, left, List.tail_cons]

theorem next_array_end (engine : Engine) (frames : List Frame) {k : Nat}
    (h : Expanding scope out a items lines s) (ended : items[k]? = none) :
    next engine frames (.array a k) s = .ok none s := by
  obtain ⟨slots, array, held⟩ := h.list
  have read := LineTemplate.next_array engine k frames array
  rw [held, ended] at read
  exact read

theorem lines_room {ts : List Text} {v : Value} (room : lines.length + items.length ≤ Items.arrayLimit)
    (item : items[ts.length]? = some v) (indent : Text) :
    (lines ++ ts.map (itemLine indent)).length < Items.arrayLimit := by
  have inside : ts.length < items.length := (List.getElem?_eq_some_iff.1 item).1
  rw [List.length_append, List.length_map]
  omega

theorem fold_expanded {depth : Nat} {start : Store} {indent : Text} (e : Text)
    (undisturbed : Undisturbed (.nested (depth + 1)) frames scope out a indent items lines start)
    (present : ∀ v ∈ items, v.isMissing = false)
    (room : lines.length + items.length ≤ Items.arrayLimit) (rest : List Value) :
    ∀ (found : Bool) {ts : List Text} {k limit : Nat} {s : Store}, ts.length = k → items.drop k = rest →
      Reached (.nested (depth + 1)) frames out indent items start ts s → rest.length < limit →
      ∃ result, fold (.nested (depth + 1)) frames
          (emitItem (.nested (depth + 1)) frames scope (.ref out) indent e) limit found (.array a k) s =
            result ∧
        Expanded (.nested (depth + 1)) frames out indent items lines start result ∧
        ∀ found' s', result = .ok found' s' → found' = (found || !rest.isEmpty) := by
  induction rest with
  | nil =>
    rintro found ts k limit s rfl left reached enough
    obtain ⟨limit, rfl⟩ : ∃ m, limit = m + 1 := ⟨limit - 1, by omega⟩
    have h := undisturbed.asking reached
    have passed : items.length ≤ ts.length := List.drop_eq_nil_iff.1 left
    have read := next_array_end (.nested (depth + 1)) frames h (List.getElem?_eq_none passed)
    refine ⟨_, fold_end read, ⟨ts, reached, Nat.le_antisymm reached.length_le passed, h.output⟩, ?_⟩
    rintro found' s' ⟨⟩
    exact (Bool.or_false found).symm
  | cons v rest ih =>
    rintro found ts k limit s rfl left reached enough
    rw [List.length_cons] at enough
    obtain ⟨limit, rfl⟩ : ∃ m, limit = m + 1 := ⟨limit - 1, by omega⟩
    obtain ⟨item, others⟩ := getElem?_of_drop left
    have kept := undisturbed.converting reached item
    rw [fold_emitItem (undisturbed.asking reached) item (present v (List.mem_of_getElem? item)) kept
      (lines_room room item indent)]
    cases converted : textOf (.nested (depth + 1)) frames v s with
    | error stop s' =>
      rw [after_error converted] at kept
      refine ⟨_, rfl, ⟨ts, s, v, reached, item, converted, kept.output⟩, ?_⟩
      rintro found' s'' ⟨⟩
    | ok t s' =>
      have one : (ts ++ [t]).length = ts.length + 1 := List.length_append
      obtain ⟨result, ran, expanded, known⟩ := ih true one others (reached.next item converted)
        (by omega : rest.length < limit)
      refine ⟨result, ran, expanded, fun found' s'' done => ?_⟩
      rw [known found' s'' done, Bool.true_or, List.isEmpty_cons, Bool.not_false, Bool.or_true]

theorem source_of_call {depth : Nat} {f v : Value} {s' : Store}
    (called : (Engine.nested (depth + 1)).call frames f .undefined [] s = .ok v s') :
    f.isMissing = false ∧ source (.nested (depth + 1)) frames f s = .ok v s' := by
  change (kind? f >>= _) s = _ at called
  cases f with
  | ref g =>
    refine ⟨rfl, ?_⟩
    have none : isFunction (.ref g) s = .ok (((s.kindAt g).map Kind.isFunction).getD false) s := rfl
    rw [bind_ok (kind?_ref s g)] at called
    unfold source
    rw [bind_ok none]
    cases kind : s.kindAt g with
    | none =>
      rw [kind] at called
      cases called
    | some k =>
      rw [kind] at called
      cases k with
      | function fn =>
        change (kind? (.ref g) >>= _) s = _
        rw [bind_ok (kind?_ref s g), kind]
        exact called
      | _ => cases called
  | _ => cases called

theorem emitLines_of_fold (scope out : Nat) {f r : Value} {s₁ : Store} {cursor : Cursor} {limit : Nat}
    (indent e : Text) (present : f.isMissing = false)
    (given : source engine frames f s = .ok r s₁) (sequence : isSequenceObject r s₁ = .ok true s₁)
    (opens : open? r s₁ = .ok (some cursor) s₁) (limited : loopLimit r s₁ = .ok limit s₁)
    (some : ∀ found s', fold engine frames (emitItem engine frames scope (.ref out) indent e) limit false
      cursor s₁ = .ok found s' → found = true) :
    emitLines engine frames scope (.ref out) f indent e s =
      (fold engine frames (emitItem engine frames scope (.ref out) indent e) limit false cursor >>=
        fun _ => pure ()) s₁ := by
  obtain ⟨_, _, listed⟩ := listSource_of_source (e := e) present given sequence
  rw [if_pos rfl] at listed
  rw [emitLines_eq, bind_ok listed, bind_ok opens]
  change (loopLimit r >>= _) s₁ = _
  rw [bind_ok limited]
  cases ran : fold engine frames (emitItem engine frames scope (.ref out) indent e) limit false cursor s₁ with
  | error stop s' => rw [bind_error ran, bind_error ran]
  | ok found s' =>
    cases some found s' ran
    rw [bind_ok ran, bind_ok ran]
    rfl

end Run

end Script

end LineTemplate

import LineTemplate.Proofs.Evaluation.Contents

/-!
What a store itself says about a scope: the entries of the scope, the items of arrays, and the texts of
values that are no objects.
-/

set_option autoImplicit false

namespace LineTemplate

open Script

namespace Script

def primitiveText? : Value → Option Text
  | .ref _ => none
  | .symbol _ description => some (Run.symbolText description)
  | v => some (Run.plainText v)

def Native.answer? (v : Value) : Native → Option Value
  | .const result => some result
  | .wrap lead trail => (primitiveText? v).map fun t => .text (lead ++ t ++ trail)
  | _ => none

def Kind.answer? (v : Value) : Kind → Option Value
  | .function (.native f) => f.answer? v
  | .function (.closure _) => none
  | _ => (primitiveText? v).map .text

namespace Store

def answer? (s : Store) (v : Value) : Value → Option Value
  | .ref a => (s.kindAt a).bind (Kind.answer? v)
  | _ => (primitiveText? v).map .text

/-- What a scope holds in a store. -/
def contents (s : Store) (scope : Nat) : Contents Unit where
  entry _ e := (s.objects[scope]?).bind fun o => o.members.get? e
  items a :=
    match s.kindAt a with
    | some (.array slots) => some slots.values
    | _ => none
  single a := (s.kindAt a).any fun kind => !kind.isFunction && !kind.isSequence
  convert _ v := do
    let o ← s.objects[scope]?
    let result ← s.answer? v (Run.objectMember o conversionName)
    return (result, ())

theorem contents_items_eq_some {s : Store} {scope a : Nat} {vs : List Value} :
    (s.contents scope).items a = some vs ↔
      ∃ slots, s.kindAt a = some (.array slots) ∧ slots.values = vs := by
  unfold contents
  dsimp only
  constructor
  · intro known
    split at known
    · cases known
      exact ⟨_, ‹_›, rfl⟩
    · cases known
  · rintro ⟨slots, array, rfl⟩
    rw [array]

/-- A store in which the objects of an earlier one are as they were, apart from what a program keeps to
itself. -/
structure Grown (first : Store) (own : Own) (s : Store) : Prop where
  kept : ∀ a < first.objects.size, s.objects[a]? = first.objects[a]?
  size : first.objects.size ≤ s.objects.size
  own : ∀ a ∈ own.objects, first.objects.size ≤ a

namespace Grown

variable {first s : Store} {own : Own}

theorem objects (h : first.Grown own s) {a : Nat} {o : Obj} (found : first.objects[a]? = some o) :
    s.objects[a]? = some o := by
  obtain ⟨inside, -⟩ := Array.getElem?_eq_some_iff.1 found
  exact (h.kept a inside).trans found

theorem kindAt (h : first.Grown own s) {a : Nat} {kind : Kind} (known : first.kindAt a = some kind) :
    s.kindAt a = some kind := by
  obtain ⟨o, found, same⟩ := Option.map_eq_some_iff.1 known
  exact Option.map_eq_some_iff.2 ⟨o, h.objects found, same⟩

theorem addObject (h : first.Grown own s) (o : Obj) :
    first.Grown (own.withObject s.objects.size) (s.addObject o) where
  kept a inside := by
    have before : a < s.objects.size := Nat.lt_of_lt_of_le inside h.size
    rw [← h.kept a inside]
    exact Array.getElem?_push_lt before ▸ (Array.getElem?_eq_getElem before).symm
  size := by
    have size := h.size
    change _ ≤ (s.objects.push o).size
    rw [Array.size_push]
    omega
  own a inside := by
    rcases List.mem_cons.1 inside with rfl | inside
    · exact h.size
    · exact h.own a inside

theorem changeObject (h : first.Grown own s) {a : Nat} (f : Obj → Obj) (inside : a ∈ own.objects) :
    first.Grown own (s.changeObject a f) where
  kept b before := by
    have after := h.own a inside
    change (s.objects.modify a f)[b]? = _
    rw [Array.getElem?_modify, if_neg (by omega)]
    exact h.kept b before
  size := by
    change _ ≤ (s.objects.modify a f).size
    rw [Array.size_modify]
    exact h.size
  own := h.own

end Grown

end Store

namespace Run

theorem textOf_primitive (engine : Engine) (frames : List Frame) (s : Store) {v : Value} {t : Text}
    (primitive : primitiveText? v = some t) : textOf engine frames v s = .ok t s := by
  cases v with
  | ref a => cases primitive
  | undefined | null | bool | number | bigint | text | symbol =>
    cases primitive
    rfl

theorem callNative_answer (engine : Engine) (frames : List Frame) (self : Nat) (this v : Value) (s : Store)
    {f : Native} {result : Value} (known : f.answer? v = some result) :
    callNative engine frames self this [v] f s = .ok result s := by
  cases f with
  | const value =>
    cases known
    rfl
  | wrap lead trail =>
    obtain ⟨t, primitive, rfl⟩ := Option.map_eq_some_iff.1 known
    change (textOf engine frames v >>= _) s = _
    rw [bind_ok (textOf_primitive engine frames s primitive)]
    rfl
  | _ => cases known

theorem conversion_answer (depth : Nat) (frames : List Frame) {scope : Nat} {first s : Store} {own : Own}
    (h : first.Grown own s) {v result : Value} {o : Obj} (found : first.objects[scope]? = some o)
    (known : first.answer? v (objectMember o conversionName) = some result) :
    conversion (.nested (depth + 1)) frames scope v s = .ok result s := by
  have converted (noFunction : isFunction (objectMember o conversionName) s = .ok false s)
      (answer : (primitiveText? v).map Value.text = some result) :
      conversion (.nested (depth + 1)) frames scope v s = .ok result s := by
    obtain ⟨t, primitive, rfl⟩ := Option.map_eq_some_iff.1 answer
    unfold conversion
    rw [bind_ok (member_ref (h.objects found) conversionName), bind_ok noFunction]
    change (textOf _ frames v >>= _) s = _
    rw [bind_ok (textOf_primitive _ frames s primitive)]
    rfl
  generalize convert : objectMember o conversionName = entry at known converted
  cases entry with
  | undefined | null | bool | number | bigint | text | symbol => exact converted rfl known
  | ref a =>
    obtain ⟨k, kind, known⟩ := Option.bind_eq_some_iff.1 known
    have there := isFunction_ref (h.kindAt kind)
    cases k with
    | function f =>
      cases f with
      | closure c => cases known
      | native f =>
        have kind' : kind? (.ref a) s = .ok (some (.function (.native f))) s := by
          rw [kind?_ref, h.kindAt kind]
        have called : callFunction (.nested depth) frames (.ref a) .undefined [v] s = .ok result s := by
          unfold callFunction
          rw [bind_ok kind']
          exact callNative_answer (.nested depth) frames a .undefined v s known
        unfold conversion
        rw [bind_ok (member_ref (h.objects found) conversionName), convert, bind_ok there]
        exact called
    | _ => exact converted there known

end Run

end Script

theorem hasContents_contents (depth : Nat) {first : Store} {scope : Nat}
    (text : first.Has scope textHelperName (.textHelper scope))
    (list : first.Has scope listHelperName (.listHelper scope))
    (push : first.kindAt Method.push.address = some (.function (.native (.method .push)))) :
    HasContents (first.contents scope) (.nested (depth + 1)) scope fun _ own s => first.Grown own s where
  addObject o h := h.addObject o
  addScope _ h := ⟨h.kept, h.size, h.own⟩
  changeObject f h inside := h.changeObject f inside
  changeScope _ h _ := ⟨h.kept, h.size, h.own⟩
  prepared {w own s} h := by
    have helper {key : Text} {f : Native} (has : first.Has scope key f) :
        ∃ a, (first.contents scope).entry w key = some (.ref a) ∧
          s.kindAt a = some (.function (.native f)) := by
      obtain ⟨o, a, found, entry, kind⟩ := has
      exact ⟨a, Option.bind_eq_some_iff.2 ⟨o, found, entry⟩, h.kindAt kind⟩
    have ⟨o, _, found, _⟩ := text
    refine ⟨⟨o, h.objects found, fun e => ?_⟩, helper text, helper list, h.kindAt push⟩
    change _ = (first.objects[scope]?).bind fun o => o.members.get? e
    rw [found]
    rfl
  arrays {w own s a vs} h items := by
    obtain ⟨slots, array, values⟩ := Store.contents_items_eq_some.1 items
    exact ⟨slots, h.kindAt array, values⟩
  singles {w own s a} h single := by
    obtain ⟨kind, known, neither⟩ := (Option.any_eq_true _ _).1 single
    rw [Bool.and_eq_true, Bool.not_eq_true', Bool.not_eq_true'] at neither
    exact ⟨kind, h.kindAt known, neither⟩
  convert {w own s v v' w'} frames h answers := by
    obtain ⟨o, found, answers⟩ := Option.bind_eq_some_iff.1 answers
    obtain ⟨result, known, same⟩ := Option.bind_eq_some_iff.1 answers
    cases same
    exact ⟨s, Run.conversion_answer depth frames h found known, .refl own s, h⟩

namespace Contents

variable (d : Contents Unit)

/-- Whether a value is converted to text. -/
def shown (v : Value) : Bool :=
  match d.convert () v with
  | some (.text _, _) => true
  | _ => false

theorem shows_of_shown {v : Value} (h : d.shown v = true) : d.Shows v := by
  intro w
  unfold shown at h
  split at h
  · exact ⟨_, _, ‹_›⟩
  · cases h

/-- Whether the scope has what an instruction needs. -/
def covered : Instruction → Bool
  | .fields _ segments _ =>
    segments.all fun s => s.expression.all fun e =>
      (d.entry () e).any fun v => !v.isMissing && d.shown v
  | .list e _ =>
    match d.entry () e with
    | some (.ref a) => (d.items a).any fun vs => vs.all fun v => !v.isMissing && d.shown v
    | _ => false
  | .literal _ | .statement _ | .marker _ _ => true

theorem covers_of_covered {i : Instruction} (h : d.covered i = true) : d.Covers i := by
  have both {v : Value} (h : (!v.isMissing && d.shown v) = true) : v.isMissing = false ∧ d.Shows v := by
    rw [Bool.and_eq_true, Bool.not_eq_true'] at h
    exact ⟨h.1, d.shows_of_shown h.2⟩
  cases i with
  | literal | statement | marker => trivial
  | fields indent segments trailing =>
    intro s inside e expression w
    have all := List.all_eq_true.1 h s inside
    rw [expression] at all
    obtain ⟨v, entry, h⟩ := (Option.any_eq_true _ _).1 all
    exact ⟨v, entry, both h⟩
  | list e indent =>
    intro w
    change (match d.entry () e with
      | some (.ref a) => (d.items a).any fun vs => vs.all fun v => !v.isMissing && d.shown v
      | _ => false) = true at h
    split at h
    · obtain ⟨vs, items, h⟩ := (Option.any_eq_true _ _).1 h
      exact ⟨_, vs, ‹_›, items, fun v inside => both (List.all_eq_true.1 h v inside)⟩
    · cases h

end Contents

def Contents.without {σ : Type} (d : Contents σ) (names : List Text) : Contents σ :=
  { d with entry := fun w e => if e ∈ names then none else d.entry w e }

theorem extends_of_readied {scope : Nat} {s s' : Store} (readied : s.Readied scope s') :
    ((s.contents scope).without providedNames).Extends (s'.contents scope) where
  entry {w e v} known := by
    change (if e ∈ providedNames then none else _) = _ at known
    split at known
    · cases known
    · obtain ⟨o, found, entry⟩ := Option.bind_eq_some_iff.1 known
      obtain ⟨members, found', same⟩ := readied.entries o found
      exact Option.bind_eq_some_iff.2 ⟨_, found', (same e ‹_›).trans entry⟩
  items {a vs} known := by
    have here : (s.contents scope).items a = some vs := known
    obtain ⟨slots, array, values⟩ := Store.contents_items_eq_some.1 here
    exact Store.contents_items_eq_some.2 ⟨slots, readied.kindAt array, values⟩
  convert {w v result} known := by
    obtain ⟨o, found, known⟩ := Option.bind_eq_some_iff.1 known
    obtain ⟨answer, known, same⟩ := Option.bind_eq_some_iff.1 known
    obtain ⟨members, found', entries⟩ := readied.entries o found
    have entry : Run.objectMember { o with members } conversionName = Run.objectMember o conversionName := by
      unfold Run.objectMember
      rw [entries conversionName (by decide)]
    refine Option.bind_eq_some_iff.2 ⟨_, found', Option.bind_eq_some_iff.2 ⟨answer, ?_, same⟩⟩
    rw [entry]
    generalize Run.objectMember o conversionName = convert at known
    cases convert with
    | undefined | null | bool | number | bigint | text | symbol => exact known
    | ref a =>
      obtain ⟨k, kind, known⟩ := Option.bind_eq_some_iff.1 known
      exact Option.bind_eq_some_iff.2 ⟨k, readied.kindAt kind, known⟩

theorem contents_of_readied (depth : Nat) {scope : Nat} {s s' : Store} {o : Obj} (readied : s.Readied scope s')
    (helpers : ∀ o, s.objects[scope]? = some o →
      s'.Has scope textHelperName (.textHelper scope) ∧ s'.Has scope listHelperName (.listHelper scope))
    (found : s.objects[scope]? = some o)
    (push : s.kindAt Method.push.address = some (.function (.native (.method .push)))) :
    (HasContents (s'.contents scope) (.nested (depth + 1)) scope fun _ own s => s'.Grown own s) ∧
      (∀ c, s'.Grown ⟨[], c⟩ s') ∧
      ((s.contents scope).without providedNames).Extends (s'.contents scope) := by
  obtain ⟨text, list⟩ := helpers o found
  exact ⟨hasContents_contents depth text list (readied.kindAt push),
    fun c => ⟨fun _ _ => rfl, Nat.le_refl _, fun _ inside => absurd inside List.not_mem_nil⟩,
    extends_of_readied readied⟩

theorem contents_of_load {engine : Engine} (depth : Nat) {p : Program} {scope : Nat} {s s₁ s₂ : Store}
    {bound : BoundTemplate} {o : Obj} (legible : ∀ i ∈ p.instructions, i.Legible)
    (loaded : Run.load engine p scope .script s = .ok (.loaded bound) s₁)
    (prepared : Run.prepareScope scope s₁ = .ok () s₂) (found : s.objects[scope]? = some o)
    (push : s.kindAt Method.push.address = some (.function (.native (.method .push)))) :
    (HasContents (s₂.contents scope) (.nested (depth + 1)) scope fun _ own s => s₂.Grown own s) ∧
      (∀ c, s₂.Grown ⟨[], c⟩ s₂) ∧
      ((s.contents scope).without providedNames).Extends (s₂.contents scope) := by
  obtain ⟨readied, helpers⟩ := readied_of_load legible loaded prepared
  exact contents_of_readied depth readied helpers found push

end LineTemplate

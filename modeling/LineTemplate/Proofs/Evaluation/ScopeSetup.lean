import LineTemplate.Proofs.Evaluation.Tracing

/-!
How a scope is set up before the code of a program is compiled or run against it, whatever the scope held
before.
-/

set_option autoImplicit false

namespace LineTemplate

open Script

def Members.provide {α : Type} (members : Members α) (key : Text) (value : α) : Members α :=
  if members.has key then members else members.set key value

theorem Members.has_provide_of_ne {α : Type} (members : Members α) {key other : Text} (h : other ≠ key)
    (value : α) : (members.provide key value).has other = members.has other := by
  unfold Members.provide
  split
  · rfl
  · exact congrArg Option.isSome (members.get?_set_of_ne key other value h)

theorem Members.get?_provide {α : Type} {members : Members α} {key : Text} {v : α}
    (entry : members.get? key = some v) (other : Text) (value : α) :
    (members.provide other value).get? key = some v := by
  unfold Members.provide
  by_cases present : members.has other
  · rw [if_pos present]
    exact entry
  · have different : key ≠ other := by
      rintro rfl
      exact present (by simp [Members.has, entry])
    rw [if_neg present, Members.get?_set_of_ne _ _ _ _ different]
    exact entry

theorem Members.get?_setAll_of_notMem {α : Type} (members : Members α) {more : Members α} {key : Text}
    (absent : key ∉ more.map Prod.fst) : (members.setAll more).get? key = members.get? key := by
  induction more generalizing members with
  | nil => rfl
  | cons m rest ih =>
    have others : key ∉ rest.map Prod.fst := fun inside => absent (List.mem_cons_of_mem _ inside)
    have first : key ≠ m.1 := fun same => absent (same ▸ List.mem_cons_self)
    change ((members.set m.1 m.2).setAll rest).get? key = _
    rw [ih (members.set m.1 m.2) others, members.get?_set_of_ne _ _ _ first]

theorem Members.exists_of_mem_setAll {α : Type} {more : Members α} {key : Text}
    (inside : key ∈ more.map Prod.fst) :
    ∃ v, (key, v) ∈ more ∧ ∀ members : Members α, (members.setAll more).get? key = some v := by
  induction more with
  | nil => cases inside
  | cons m rest ih =>
    by_cases later : key ∈ rest.map Prod.fst
    · obtain ⟨v, member, entry⟩ := ih later
      exact ⟨v, List.mem_cons_of_mem m member, fun members => entry (members.set m.1 m.2)⟩
    · have here : key = m.1 := (List.mem_cons.1 inside).resolve_right later
      refine ⟨m.2, here ▸ List.mem_cons_self, fun members => ?_⟩
      change ((members.set m.1 m.2).setAll rest).get? key = _
      rw [Members.get?_setAll_of_notMem _ later, here, members.get?_set_self]

theorem Members.get?_assignAll_of_notMem {α : Type} (members : Members α) {more : Members α} {key : Text}
    (absent : key ∉ more.map Prod.fst) : (members.assignAll more).get? key = members.get? key := by
  induction more generalizing members with
  | nil => rfl
  | cons m rest ih =>
    have others : key ∉ rest.map Prod.fst := fun inside => absent (List.mem_cons_of_mem _ inside)
    have first : key ≠ m.1 := fun same => absent (same ▸ List.mem_cons_self)
    change ((members.assign m.1 m.2).assignAll rest).get? key = _
    rw [ih (members.assign m.1 m.2) others, members.get?_assign_of_ne _ _ _ first]

theorem Members.exists_of_mem_assignAll {α : Type} {more : Members α} {key : Text}
    (inside : key ∈ more.map Prod.fst) (named : key ≠ prototypeName) :
    ∃ v, (key, v) ∈ more ∧ ∀ members : Members α, (members.assignAll more).get? key = some v := by
  induction more with
  | nil => cases inside
  | cons m rest ih =>
    by_cases later : key ∈ rest.map Prod.fst
    · obtain ⟨v, member, entry⟩ := ih later
      exact ⟨v, List.mem_cons_of_mem m member, fun members => entry (members.assign m.1 m.2)⟩
    · have here : key = m.1 := (List.mem_cons.1 inside).resolve_right later
      refine ⟨m.2, here ▸ List.mem_cons_self, fun members => ?_⟩
      change ((members.assign m.1 m.2).assignAll rest).get? key = _
      rw [Members.get?_assignAll_of_notMem _ later, here, members.assign_of_ne (here ▸ named),
        members.get?_set_self]

namespace Script

/-- A scope when the compilation or the run of a program starts. To the members that it had in the store
`s`, values have been assigned; then the default functions have been set where there was no member of their
name; then the two helpers have been set, bound to this scope. All other objects are as they were. -/
structure Store.SetUp (scope : Nat) (assigned : Members Value) (s s' : Store) : Prop where
  others : ∀ a < s.objects.size, a ≠ scope → s'.objects[a]? = s.objects[a]?
  entries : ∃ o indexed entries text list, s.objects[scope]? = some o ∧
    s'.objects[scope]? = some { o with members := (((((o.members.assignAll assigned).provide indexedName
      (.ref indexed)).provide entriesName (.ref entries)).set textHelperName (.ref text)).set
        listHelperName (.ref list)) } ∧
    ((o.members.assignAll assigned).has indexedName = false →
      s'.kindAt indexed = some (.function (.native .indexed))) ∧
    ((o.members.assignAll assigned).has entriesName = false →
      s'.kindAt entries = some (.function (.native .entries))) ∧
    s'.kindAt text = some (.function (.native (.textHelper scope))) ∧
    s'.kindAt list = some (.function (.native (.listHelper scope)))

structure Store.Extended (s s' : Store) : Prop where
  size : s.objects.size ≤ s'.objects.size
  objects : ∀ a < s.objects.size, s'.objects[a]? = s.objects[a]?

instance : GrowthRelation Store.Extended where
  trans first second := ⟨Nat.le_trans first.size second.size, fun a inside =>
    (second.objects a (Nat.lt_of_lt_of_le inside first.size)).trans (first.objects a inside)⟩
  grow size objects _ _ := ⟨size, objects⟩

theorem Store.Extended.found {s s' : Store} (h : s.Extended s') {a : Nat} {o : Obj}
    (found : s.objects[a]? = some o) : s'.objects[a]? = some o := by
  obtain ⟨inside, -⟩ := Array.getElem?_eq_some_iff.1 found
  exact (h.objects a inside).trans found

def Store.entryOf? (s : Store) (scope : Nat) (key : Text) : Option Value :=
  (s.objects[scope]?).bind fun o => o.members.get? key

/-- The names under which generated code calls its helpers. -/
def helperNames : List Text := [textHelperName, listHelperName]

namespace Store.SetUp

variable {scope : Nat} {assigned : Members Value} {s s' : Store} {key : Text} {v : Value}

theorem entry (h : s.SetUp scope assigned s') (free : key ∉ helperNames)
    (present : ∀ o, s.objects[scope]? = some o → (o.members.assignAll assigned).get? key = some v) :
    s'.entryOf? scope key = some v := by
  obtain ⟨o, indexed, entries, text, list, found, start, -⟩ := h.entries
  have notList : key ≠ listHelperName := fun same => free (by simp [helperNames, same])
  have notText : key ≠ textHelperName := fun same => free (by simp [helperNames, same])
  unfold Store.entryOf?
  rw [start, Option.bind_some, Members.get?_set_of_ne _ _ _ _ notList,
    Members.get?_set_of_ne _ _ _ _ notText]
  exact Members.get?_provide (Members.get?_provide (present o found) _ _) _ _

theorem entry_of_notMem (h : s.SetUp scope assigned s') (free : key ∉ helperNames) {other : Nat}
    (spared : scope = other → key ∉ assigned.map Prod.fst) (present : s.entryOf? other key = some v) :
    s'.entryOf? other key = some v := by
  obtain ⟨o, found, entry⟩ := Option.bind_eq_some_iff.1 present
  by_cases same : scope = other
  · subst same
    refine h.entry free fun o' found' => ?_
    cases found.symm.trans found'
    rw [Members.get?_assignAll_of_notMem _ (spared rfl)]
    exact entry
  · obtain ⟨inside, -⟩ := Array.getElem?_eq_some_iff.1 found
    unfold Store.entryOf?
    rw [h.others other inside (Ne.symm same), found]
    exact entry

end Store.SetUp

theorem Store.provide_entry {scope : Nat} {s : Store} {o : Obj} (found : s.objects[scope]? = some o)
    (key : Text) (f : Native) :
    (s.provide scope key f).objects[scope]? =
        some { o with members := o.members.set key (.ref s.objects.size) } ∧
      (s.provide scope key f).kindAt s.objects.size = some (.function (.native f)) := by
  obtain ⟨inside, -⟩ := Array.getElem?_eq_some_iff.1 found
  constructor
  · change ((s.objects.push _).modify scope _)[scope]? = _
    rw [Array.getElem?_modify, if_pos rfl, getElem?_push_of_some found, Option.map_some]
  · change Option.map Obj.kind ((s.objects.push _).modify scope _)[s.objects.size]? = _
    rw [Array.getElem?_modify, if_neg (by omega), Array.getElem?_push_size]
    rfl

namespace Run

theorem provideMember_entry {scope : Nat} {s : Store} {o : Obj} (found : s.objects[scope]? = some o)
    (key : Text) (provided : key ∈ providedNames) (f : Native) :
    ∃ s' a, provideMember scope key f s = .ok () s' ∧ s.Readied scope s' ∧
      s'.objects[scope]? = some { o with members := o.members.provide key (.ref a) } ∧
      (o.members.has key = false → s'.kindAt a = some (.function (.native f))) := by
  have object : object? scope s = .ok (some o) s := congrArg (fun o => EStateM.Result.ok o s) found
  unfold provideMember Members.provide
  rw [bind_ok object]
  dsimp only
  cases present : o.members.has key with
  | true => exact ⟨s, 0, rfl, .refl scope s, found, fun absent => nomatch absent⟩
  | false =>
    obtain ⟨entry, kind⟩ := Store.provide_entry found key f
    exact ⟨s.provide scope key f, s.objects.size, rfl, .provide scope s provided f, entry, fun _ => kind⟩

theorem prepareScope_setUp {scope : Nat} {s : Store} {o : Obj} (found : s.objects[scope]? = some o) :
    ∃ s', prepareScope scope s = .ok () s' ∧ s.SetUp scope [] s' ∧
      ∃ a, s.objects.size ≤ a ∧ s'.entryOf? scope listHelperName = some (.ref a) := by
  obtain ⟨s₁, indexed, first, readied₁, found₁, kind₁⟩ :=
    provideMember_entry found indexedName (by decide) .indexed
  obtain ⟨s₂, entries, second, readied₂, found₂, kind₂⟩ :=
    provideMember_entry found₁ entriesName (by decide) .entries
  have ready : prepareScope scope s = .ok () ((s₂.provide scope textHelperName (.textHelper scope)).provide
      scope listHelperName (.listHelper scope)) := by
    unfold prepareScope
    rw [prepareScopeWith_eq [] scope List.not_mem_nil List.not_mem_nil, bind_ok first, bind_ok second]
    rfl
  obtain ⟨found₃, text⟩ := Store.provide_entry found₂ textHelperName (.textHelper scope)
  have readied₃ : s₂.Readied scope (s₂.provide scope textHelperName (.textHelper scope)) :=
    .provide scope s₂ (by decide) _
  generalize s₂.provide scope textHelperName (.textHelper scope) = s₃ at ready found₃ text readied₃
  obtain ⟨found₄, list⟩ := Store.provide_entry found₃ listHelperName (.listHelper scope)
  have readied₄ : s₃.Readied scope (s₃.provide scope listHelperName (.listHelper scope)) :=
    .provide scope s₃ (by decide) _
  have readied := readied₁.trans (readied₂.trans (readied₃.trans readied₄))
  refine ⟨_, ready, ⟨readied.others, o, indexed, entries, _, _, found, found₄, fun absent => ?_,
    fun absent => ?_, readied₄.kindAt text, list⟩, s₃.objects.size,
    (readied₁.trans (readied₂.trans readied₃)).size, ?_⟩
  · exact (readied₂.trans (readied₃.trans readied₄)).kindAt (kind₁ absent)
  · refine (readied₃.trans readied₄).kindAt (kind₂ ?_)
    rw [Members.has_provide_of_ne _ (by decide)]
    exact absent
  · rw [Store.entryOf?, found₄, Option.bind_some, Members.get?_set_self]

theorem forM_assignEntry (frames : List Frame) (scope : Nat) (values : Members Value) (s : Store) :
    ∃ s', (values.forM fun (key, value) => assignEntry frames [] scope key value : Run Unit) s = .ok () s' ∧
      s'.objects.size = s.objects.size ∧ (∀ a ≠ scope, s'.objects[a]? = s.objects[a]?) ∧
      ∀ o, s.objects[scope]? = some o →
        s'.objects[scope]? = some { o with members := o.members.assignAll values } := by
  induction values generalizing s with
  | nil => exact ⟨s, rfl, rfl, fun _ _ => rfl, fun o found => found⟩
  | cons m rest ih =>
    obtain ⟨key, value⟩ := m
    have assigns : assignEntry frames [] scope key value s =
        .ok () (s.changeObject scope fun o => { o with members := o.members.assign key value }) := by
      rw [assignEntry_of_notMem frames scope List.not_mem_nil]
      rfl
    obtain ⟨s', assigned, size, others, entries⟩ :=
      ih (s.changeObject scope fun o => { o with members := o.members.assign key value })
    refine ⟨s', (bind_ok assigns).trans assigned, size.trans Array.size_modify, fun a other => ?_,
      fun o found => ?_⟩
    · rw [others a other]
      change (s.objects.modify scope _)[a]? = _
      rw [Array.getElem?_modify, if_neg (Ne.symm other)]
    · refine entries { o with members := o.members.assign key value } ?_
      change (s.objects.modify scope _)[scope]? = _
      rw [Array.getElem?_modify, if_pos rfl, found, Option.map_some]

end Run

theorem BoundTemplate.prepare_setUp (frames : List Frame) (t : BoundTemplate) (overrides : Members Datum)
    {s : Store} {o : Obj} (found : s.objects[t.scope]? = some o) :
    ∃ assigned made s', Run.makeMembers frames overrides s = .ok assigned made ∧
      t.prepare frames overrides s = .ok () s' ∧ s.SetUp t.scope assigned s' := by
  obtain ⟨assigned, made, ran⟩ := Run.total_makeMembers frames overrides s
  have extended : s.Extended made := (Run.leads_makeMembers frames overrides).ok ran
  obtain ⟨s₁, set, size, others, entries⟩ := Run.forM_assignEntry frames t.scope assigned made
  obtain ⟨s', prepared, ⟨others', o', indexed, entries', text, list, found', start, kinds⟩, -⟩ :=
    Run.prepareScope_setUp (entries o (extended.found found))
  cases found'.symm.trans (entries o (extended.found found))
  refine ⟨assigned, made, s', ran, ?_, fun a inside other => ?_, o, indexed, entries', text, list, found,
    start, kinds⟩
  · unfold prepare prepareWith
    rw [bind_ok ran, bind_ok set, Run.prepareScopeWith_nil]
    exact prepared
  · have within : a < made.objects.size := Nat.lt_of_lt_of_le inside extended.size
    rw [others' a (size ▸ within) other, others a other, extended.objects a inside]

end Script

end LineTemplate

import LineTemplate.Proofs.Evaluation.Realization

/-!
The kinds of the objects of a store in which an object is added or changed.
-/

set_option autoImplicit false

namespace LineTemplate.Script.Store

def withKind (s : Store) (a : Nat) (kind : Kind) : Store := s.changeObject a fun o => { o with kind := kind }

theorem kindAt_changeObject (s : Store) (b : Nat) (f : Obj → Obj) (a : Nat) :
    (s.changeObject b f).kindAt a =
      if b = a then (s.objects[a]?).map fun o => (f o).kind else s.kindAt a := by
  change ((s.objects.modify b f)[a]?).map Obj.kind = _
  rw [Array.getElem?_modify]
  split
  · rw [Option.map_map]
    rfl
  · rfl

theorem kindAt_withKind_of_ne (s : Store) {a b : Nat} (kind : Kind) (other : b ≠ a) :
    (s.withKind b kind).kindAt a = s.kindAt a := by
  unfold withKind
  rw [kindAt_changeObject, if_neg other]

theorem withKind_withKind (s : Store) (a : Nat) (kind kind' : Kind) :
    (s.withKind a kind).withKind a kind' = s.withKind a kind' := by
  unfold withKind changeObject
  congr 1
  refine Array.ext_getElem? fun i => ?_
  simp only [Array.getElem?_modify]
  split
  · rw [Option.map_map]
    rfl
  · rfl

theorem withKind_self {s : Store} {a : Nat} {kind : Kind} (known : s.kindAt a = some kind) :
    s.withKind a kind = s := by
  obtain ⟨o, found, rfl⟩ := Option.map_eq_some_iff.1 known
  have same : s.objects.modify a (fun o' => { o' with kind := o.kind }) = s.objects := by
    refine Array.ext_getElem? fun i => ?_
    rw [Array.getElem?_modify]
    split
    · rename_i here
      rw [← here, found]
      rfl
    · rfl
  unfold withKind changeObject
  rw [same]

theorem kindAt_withKind {s : Store} {a : Nat} {kind : Kind} (known : s.kindAt a = some kind)
    (kind' : Kind) : (s.withKind a kind').kindAt a = some kind' := by
  obtain ⟨o, found, -⟩ := Option.map_eq_some_iff.1 known
  unfold withKind
  rw [kindAt_changeObject, if_pos rfl, found]
  rfl

theorem changeObject_comm (s : Store) {a b : Nat} (apart : a ≠ b) (f g : Obj → Obj) :
    (s.changeObject a f).changeObject b g = (s.changeObject b g).changeObject a f := by
  unfold changeObject
  congr 1
  refine Array.ext_getElem? fun i => ?_
  simp only [Array.getElem?_modify]
  by_cases first : a = i
  · have other : b ≠ i := fun second => apart (first.trans second.symm)
    rw [if_neg other, if_neg other]
  · rw [if_neg first, if_neg first]

theorem withKind_back {s : Store} {a : Nat} {kind : Kind} (known : s.kindAt a = some kind)
    (between : Kind) : (s.withKind a between).withKind a kind = s :=
  (s.withKind_withKind a between kind).trans (withKind_self known)

theorem kindAt_addObject_size (s : Store) (o : Obj) :
    (s.addObject o).kindAt s.objects.size = some o.kind := by
  change ((s.objects.push o)[s.objects.size]?).map Obj.kind = _
  rw [Array.getElem?_push_size]
  rfl

theorem kindAt_addObject {s : Store} {a : Nat} {kind : Kind} (known : s.kindAt a = some kind) (o : Obj) :
    (s.addObject o).kindAt a = some kind := by
  obtain ⟨found, here, -⟩ := Option.map_eq_some_iff.1 known
  have inside : a < s.objects.size := (Array.getElem?_eq_some_iff.1 here).1
  change ((s.objects.push o)[a]?).map Obj.kind = _
  rw [Array.getElem?_push_lt inside, ← Array.getElem?_eq_getElem inside]
  exact known

theorem withKind_addObject (s : Store) (kind kind' : Kind) :
    (s.addObject (.ofKind kind)).withKind s.objects.size kind' = s.addObject (.ofKind kind') := by
  unfold withKind changeObject addObject
  congr 1
  refine Array.ext_getElem? fun i => ?_
  rw [Array.getElem?_modify]
  split
  · rename_i here
    rw [← here, Array.getElem?_push_size, Array.getElem?_push_size]
    rfl
  · rename_i other
    rw [Array.getElem?_push, Array.getElem?_push, if_neg (Ne.symm other), if_neg (Ne.symm other)]

end LineTemplate.Script.Store

import Mathlib.Data.List.Forall2
import LineTemplate.Evaluation.Binding
import LineTemplate.Proofs.Evaluation.Steps

/-!
Arrays that are read in place, item by item. What is done with an item may change the array, so that an item
counts as it is when its turn comes.
-/

set_option autoImplicit false

namespace LineTemplate

open Script

def Script.Slots.values (slots : Slots Value) : List Value :=
  slots.toList.map fun item => item.getD .undefined

theorem itemCount_le {s : Store} {a : Nat} {kind : Kind} (known : s.kindAt a = some kind) :
    kind.itemCount ≤ s.itemCount := by
  have grows (os : List Obj) (total : Nat) :
      total ≤ os.foldl (fun total o => total + o.kind.itemCount) total := by
    induction os generalizing total with
    | nil => exact Nat.le_refl _
    | cons o os ih => exact Nat.le_trans (Nat.le_add_right _ _) (ih _)
  have counts (os : List Obj) (o : Obj) (inside : o ∈ os) (total : Nat) :
      o.kind.itemCount ≤ os.foldl (fun total o => total + o.kind.itemCount) total := by
    induction os generalizing total with
    | nil => exact absurd inside List.not_mem_nil
    | cons first os ih =>
      rcases List.mem_cons.1 inside with rfl | inside
      · exact Nat.le_trans (Nat.le_add_left _ _) (grows os _)
      · exact ih inside _
  obtain ⟨o, found, rfl⟩ := Option.map_eq_some_iff.1 known
  unfold Store.itemCount
  rw [← Array.foldl_toList]
  exact counts _ o (Array.mem_toList_iff.2 (Array.mem_of_getElem? found)) 0

theorem length_values (slots : Slots Value) : slots.values.length = slots.length := by
  simp [Slots.values, Slots.toList]

theorem next_array (engine : Engine) {s : Store} {a : Nat} {slots : Slots Value} (i : Nat)
    (frames : List Frame)
    (array : s.kindAt a = some (.array slots)) :
    Run.next engine frames (.array a i) s =
      .ok (slots.values[i]?.map fun v => (v, .array a (i + 1))) s := by
  have kind : Run.kind? (.ref a) s = .ok (some (.array slots)) s := by rw [Run.kind?_ref, array]
  change (Run.kind? (.ref a) >>= _) s = _
  rw [bind_ok kind]
  change (if i < slots.length then _ else _ : Run (Option (Value × Cursor))) s = _
  by_cases inside : i < slots.length
  · have item : slots.values[i]? = some ((slots.get? i).getD .undefined) := by
      simp [Slots.values, Slots.toList, inside]
    rw [if_pos inside, item]
    rfl
  · rw [if_neg inside, List.getElem?_eq_none (by rw [length_values]; omega)]
    rfl

theorem toList_ofList {α : Type} (xs : List α) : (Slots.ofList xs).toList = xs.map some := by
  refine List.ext_getElem? fun i => ?_
  unfold Slots.toList
  rw [List.getElem?_map, List.getElem?_map]
  by_cases inside : i < xs.length
  · have range : (List.range (Slots.ofList xs).length)[i]? = some i := List.getElem?_range inside
    have slot : (Slots.ofList xs).get? i = some xs[i] := by simp [Slots.get?, Slots.ofList, inside]
    rw [range, Option.map_some, slot, List.getElem?_eq_getElem inside, Option.map_some]
  · have range : (List.range (Slots.ofList xs).length)[i]? = none :=
      List.getElem?_eq_none (by simpa [Slots.ofList] using inside)
    rw [range, List.getElem?_eq_none (by omega)]
    rfl

theorem values_ofList (vs : List Value) : (Slots.ofList vs).values = vs := by
  rw [Slots.values, toList_ofList, List.map_map]
  exact List.map_id vs

namespace Script

def Store.itemAt? (s : Store) (a i : Nat) : Option Value :=
  match s.kindAt a with
  | some (.array slots) => slots.values[i]?
  | _ => none

theorem Store.itemAt?_array {s : Store} {a : Nat} {slots : Slots Value}
    (array : s.kindAt a = some (.array slots)) (i : Nat) : s.itemAt? a i = slots.values[i]? := by
  rw [itemAt?, array]

namespace Run

variable {engine : Engine} {frames : List Frame}

theorem next_itemAt? (engine : Engine) (frames : List Frame) (a i : Nat) (s : Store) :
    next engine frames (.array a i) s = .ok ((s.itemAt? a i).map fun v => (v, .array a (i + 1))) s := by
  cases known : s.kindAt a with
  | none =>
    have kind : kind? (.ref a) s = .ok none s := by rw [kind?_ref, known]
    rw [Store.itemAt?, known]
    exact bind_ok kind
  | some kind =>
    have found : kind? (.ref a) s = .ok (some kind) s := by rw [kind?_ref, known]
    cases kind with
    | array slots =>
      rw [Store.itemAt?_array known]
      exact LineTemplate.next_array engine i frames known
    | _ =>
      rw [Store.itemAt?, known]
      exact bind_ok found

section

variable {σ : Type} {body : σ → Value → Run σ} {s s₁ s₂ : Store} {cursor rest : Cursor} {v : Value} {x : σ}
  {limit : Nat}

theorem fold_end (read : next engine frames cursor s = .ok none s₁) :
    fold engine frames body (limit + 1) x cursor s = .ok x s₁ := by
  unfold fold
  exact bind_ok read

theorem fold_broken {stop : Stop} (read : next engine frames cursor s = .error stop s₁) :
    fold engine frames body (limit + 1) x cursor s = .error stop s₁ := by
  unfold fold
  exact bind_error read

theorem fold_item {y : σ} (read : next engine frames cursor s = .ok (some (v, rest)) s₁)
    (done : body x v s₁ = .ok y s₂) :
    fold engine frames body (limit + 1) x cursor s = fold engine frames body limit y rest s₂ := by
  rw [fold, bind_ok read]
  exact bind_ok (tryCatch_ok done)

theorem fold_array_stopped {b i : Nat} {stop : Stop}
    (read : next engine frames cursor s = .ok (some (v, .array b i)) s₁)
    (stopped : body x v s₁ = .error stop s₂) :
    fold engine frames body (limit + 1) x cursor s = .error stop s₂ := by
  rw [fold, bind_ok read]
  exact bind_error (tryCatch_error stopped)

end

/-- The items of an array from a place on are converted to text one after the other, and at the end of the
array the conversion ends. Each item is looked up when its turn comes, in the store that the conversions
before it have left. -/
inductive ItemTexts (engine : Engine) (frames : List Frame) (a : Nat) :
    Nat → Store → List Text → Store → Prop
  | finished {i : Nat} {s : Store} (ended : s.itemAt? a i = none) : ItemTexts engine frames a i s [] s
  | item {i : Nat} {s s₁ s₂ : Store} {v : Value} {t : Text} {texts : List Text}
      (found : s.itemAt? a i = some v) (converted : textOf engine frames v s = .ok t s₁)
      (others : ItemTexts engine frames a (i + 1) s₁ texts s₂) :
      ItemTexts engine frames a i s (t :: texts) s₂

theorem ItemTexts.of_found {a i : Nat} {s s' : Store} {v : Value} {texts : List Text}
    (found : s.itemAt? a i = some v) (h : ItemTexts engine frames a i s texts s') :
    ∃ t rest s₁, texts = t :: rest ∧ textOf engine frames v s = .ok t s₁ ∧
      ItemTexts engine frames a (i + 1) s₁ rest s' := by
  cases h with
  | finished ended => cases ended.symm.trans found
  | item found' converted others =>
    cases found'.symm.trans found
    exact ⟨_, _, _, rfl, converted, others⟩

theorem ItemTexts.unique {a i : Nat} {s s₁ s₂ : Store} {texts texts' : List Text}
    (h : ItemTexts engine frames a i s texts s₁) (h' : ItemTexts engine frames a i s texts' s₂) :
    texts = texts' ∧ s₁ = s₂ := by
  induction h generalizing texts' s₂ with
  | finished ended =>
    cases h' with
    | finished => exact ⟨rfl, rfl⟩
    | item found => cases ended.symm.trans found
  | item found converted _ ih =>
    obtain ⟨t, rest, s₁, rfl, converted', others'⟩ := h'.of_found found
    cases converted.symm.trans converted'
    obtain ⟨rfl, rfl⟩ := ih others'
    exact ⟨rfl, rfl⟩

/-- Items whose conversion changes nothing have their texts in order. -/
theorem ItemTexts.of_reads {a : Nat} {s : Store} {slots : Slots Value}
    (array : s.kindAt a = some (.array slots)) {texts : List Text} {i : Nat}
    (reads : List.Forall₂ (fun v t => textOf engine frames v s = .ok t s) (slots.values.drop i) texts) :
    ItemTexts engine frames a i s texts s := by
  induction texts generalizing i with
  | nil =>
    refine .finished ?_
    rw [Store.itemAt?_array array]
    exact List.getElem?_eq_none (List.drop_eq_nil_iff.1 (List.forall₂_nil_right_iff.1 reads))
  | cons t rest ih =>
    obtain ⟨v, vs, converted, others, left⟩ := List.forall₂_cons_right_iff.1 reads
    have found : slots.values[i]? = some v := by rw [← List.head?_drop, left, List.head?_cons]
    have behind : slots.values.drop (i + 1) = vs := by rw [← List.tail_drop, left, List.tail_cons]
    exact .item ((Store.itemAt?_array array i).trans found) converted (ih (behind.symm ▸ others))

theorem fold_addText (engine : Engine) (frames : List Frame) (a limit i : Nat) (texts : List Text)
    (s : Store) :
    match fold engine frames (addText engine frames) limit texts (.array a i) s with
    | .ok all s' => ∃ more, ItemTexts engine frames a i s more s' ∧ more.length < limit ∧
        all = more.reverse ++ texts
    | .error _ _ => ∀ more s', ItemTexts engine frames a i s more s' → limit ≤ more.length := by
  induction limit generalizing i texts s with
  | zero => exact fun more s' _ => Nat.zero_le _
  | succ limit ih =>
    have read := next_itemAt? engine frames a i s
    cases item : s.itemAt? a i with
    | none =>
      rw [item] at read
      rw [fold_end read]
      exact ⟨[], .finished item, Nat.succ_pos limit, rfl⟩
    | some v =>
      rw [item] at read
      cases converted : textOf engine frames v s with
      | ok t s₁ =>
        have added : addText engine frames texts v s = .ok (t :: texts) s₁ := bind_ok converted
        rw [fold_item read added]
        have later := ih (i + 1) (t :: texts) s₁
        cases ran : fold engine frames (addText engine frames) limit (t :: texts) (.array a (i + 1)) s₁ with
        | ok all s₂ =>
          rw [ran] at later
          obtain ⟨more, others, few, rfl⟩ := later
          exact ⟨t :: more, .item item converted others, Nat.succ_lt_succ few, by simp⟩
        | error stop s₂ =>
          rw [ran] at later
          intro more s' h
          obtain ⟨t', rest, s₃, rfl, converted', others⟩ := h.of_found item
          cases converted.symm.trans converted'
          exact Nat.succ_le_succ (later _ _ others)
      | error stop s₁ =>
        have stopped : addText engine frames texts v s = .error stop s₁ := bind_error converted
        rw [fold_array_stopped read stopped]
        intro more s' h
        obtain ⟨t', rest, s₃, rfl, converted', -⟩ := h.of_found item
        cases converted.symm.trans converted'

theorem itemTexts_eq_ok_iff {a : Nat} {s s' : Store} {texts : List Text} :
    itemTexts engine frames a s = .ok texts s' ↔
      ItemTexts engine frames a 0 s texts s' ∧ texts.length < s.itemCount + loopAllowance := by
  have limited : loopLimit (.ref a) s = .ok (s.itemCount + loopAllowance) s := rfl
  have outcome := fold_addText engine frames a (s.itemCount + loopAllowance) 0 [] s
  unfold itemTexts
  rw [bind_ok limited]
  cases ran : fold engine frames (addText engine frames) (s.itemCount + loopAllowance) [] (.array a 0) s with
  | ok all s₁ =>
    rw [ran] at outcome
    obtain ⟨more, converts, few, rfl⟩ := outcome
    rw [bind_ok ran]
    constructor
    · intro same
      cases same
      simpa using ⟨converts, few⟩
    · rintro ⟨converts', -⟩
      obtain ⟨rfl, rfl⟩ := converts.unique converts'
      simp [pure, EStateM.pure]
  | error stop s₁ =>
    rw [ran] at outcome
    rw [bind_error ran]
    refine ⟨fun same => (nomatch same), fun ⟨converts, few⟩ => ?_⟩
    exact absurd few (Nat.not_lt.2 (outcome _ _ converts))

theorem itemTexts_of_reads {a : Nat} {s : Store} {slots : Slots Value} {texts : List Text}
    (array : s.kindAt a = some (.array slots))
    (reads : List.Forall₂ (fun v t => textOf engine frames v s = .ok t s) slots.values texts) :
    itemTexts engine frames a s = .ok texts s := by
  refine itemTexts_eq_ok_iff.2 ⟨.of_reads array reads, ?_⟩
  have most : slots.length ≤ s.itemCount := itemCount_le array
  have allowance : 0 < loopAllowance := by decide
  rw [← reads.length_eq, length_values]
  omega

theorem forall₂_textOf (engine : Engine) (frames : List Frame) (lines : List Text) (s : Store) :
    List.Forall₂ (fun v t => textOf engine frames v s = .ok t s) (lines.map .text) lines := by
  induction lines with
  | nil => exact .nil
  | cons line rest ih => exact .cons rfl ih

end Run

end Script

end LineTemplate

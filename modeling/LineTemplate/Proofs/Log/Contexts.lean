import Mathlib.Data.List.Nodup
import LineTemplate.Script.Datum
import LineTemplate.Proofs.Evaluation.ScopeSetup

/-!
Spread contexts, key by key. As long as no name occurs twice, what a name stands for does not depend on the
order in which the members are listed, and of the values that are spread over each other the last one stays.
-/

set_option autoImplicit false

namespace LineTemplate

namespace Members

variable {α : Type}

def Distinct (members : Members α) : Prop := (members.map Prod.fst).Nodup

theorem get?_eq_none_iff (members : Members α) (key : Text) :
    members.get? key = none ↔ key ∉ members.map Prod.fst := by
  rw [get?, List.lookup_eq_none_iff]
  simp only [List.mem_map, not_exists, not_and, bne_iff_ne, ne_eq]
  exact ⟨fun h m inside same => h m inside same.symm, fun h m inside same => h m inside same.symm⟩

theorem Distinct.get?_of_mem {members : Members α} (distinct : members.Distinct) {key : Text} {v : α}
    (h : (key, v) ∈ members) : members.get? key = some v := by
  cases found : members.get? key with
  | none => exact absurd (List.mem_map_of_mem h) ((get?_eq_none_iff members key).1 found)
  | some w =>
    have same : (key, w) = (key, v) := List.inj_on_of_nodup_map distinct (mem_of_get? found) h rfl
    rw [(Prod.mk.inj same).2]

theorem Distinct.of_perm {members other : Members α} (distinct : members.Distinct)
    (perm : other.Perm members) : other.Distinct := (perm.map Prod.fst).nodup_iff.2 distinct

theorem Distinct.get?_perm {members other : Members α} (distinct : members.Distinct)
    (perm : other.Perm members) (key : Text) : other.get? key = members.get? key := by
  refine Option.ext fun v => ⟨fun h => ?_, fun h => ?_⟩
  · exact distinct.get?_of_mem (perm.mem_iff.1 (mem_of_get? h))
  · exact (distinct.of_perm perm).get?_of_mem (perm.mem_iff.2 (mem_of_get? h))

theorem listed_perm (members : Members α) : members.listed.Perm members := by
  -- The names that are indices are picked out with their values, and sorted by these.
  have picked : (members.filterMap fun m => (arrayIndex? m.1).map fun i => (i, m)).map Prod.snd =
      members.filter fun m => !(arrayIndex? m.1).isNone := by
    rw [List.map_filterMap, ← List.filterMap_eq_filter]
    refine List.filterMap_congr fun m _ => ?_
    cases h : arrayIndex? m.1 <;> simp [Option.guard, h]
  unfold listed
  dsimp only
  refine List.Perm.trans (List.Perm.append_right _ ((List.mergeSort_perm _ _).map Prod.snd)) ?_
  rw [picked]
  exact List.perm_append_comm.trans (List.filter_append_perm _ members)

theorem keys_set (members : Members α) (key : Text) (value : α) :
    (members.set key value).map Prod.fst =
      if key ∈ members.map Prod.fst then members.map Prod.fst else members.map Prod.fst ++ [key] := by
  induction members with
  | nil => simp [set]
  | cons m rest ih =>
    obtain ⟨k, v⟩ := m
    rw [set]
    split
    · rename_i same
      simp [same]
    · rename_i other
      rw [List.map_cons, ih, List.map_cons]
      by_cases inside : key ∈ rest.map Prod.fst
      · rw [if_pos inside, if_pos (List.mem_cons_of_mem k inside)]
      · rw [if_neg inside, if_neg fun h => (List.mem_cons.1 h).elim (fun same => other same.symm) inside]
        rfl

theorem Distinct.set {members : Members α} (distinct : members.Distinct) (key : Text) (value : α) :
    (members.set key value).Distinct := by
  unfold Distinct
  rw [keys_set]
  split
  · exact distinct
  · rename_i absent
    exact List.nodup_append.2 ⟨distinct, List.nodup_singleton key, fun k inside k' last same =>
      absent (List.mem_singleton.1 last ▸ same ▸ inside)⟩

theorem Distinct.setAll {members : Members α} (distinct : members.Distinct) (more : Members α) :
    (members.setAll more).Distinct := by
  induction more generalizing members with
  | nil => exact distinct
  | cons m rest ih => exact ih (distinct.set m.1 m.2)

theorem Distinct.get?_setAll {more : Members α} (distinct : more.Distinct) (members : Members α)
    (key : Text) : (members.setAll more).get? key = (more.get? key).or (members.get? key) := by
  by_cases inside : key ∈ more.map Prod.fst
  · obtain ⟨v, member, entry⟩ := exists_of_mem_setAll inside
    rw [entry members, distinct.get?_of_mem member, Option.some_or]
  · rw [get?_setAll_of_notMem members inside, (get?_eq_none_iff more key).2 inside, Option.none_or]

end Members

namespace Datum

/-- No name stands for two of the members. -/
def IsDistinct (d : Datum) : Prop := d.members.Distinct

theorem isDistinct_object {members : List (Text × Datum)} (distinct : Members.Distinct members) :
    (object members).IsDistinct :=
  distinct.of_perm (Members.listed_perm members)

theorem get?_object {members : List (Text × Datum)} (distinct : Members.Distinct members) (key : Text) :
    (object members).members.get? key = Members.get? members key :=
  distinct.get?_perm (Members.listed_perm members) key

theorem IsDistinct.spread {base : Datum} (distinct : base.IsDistinct) (more : Datum) :
    (base.spread more).IsDistinct := isDistinct_object (Members.Distinct.setAll distinct _)

theorem IsDistinct.get?_spread {base more : Datum} (distinct : base.IsDistinct)
    (distinct' : more.IsDistinct) (key : Text) :
    (base.spread more).members.get? key = (more.members.get? key).or (base.members.get? key) := by
  rw [Datum.spread, get?_object (Members.Distinct.setAll distinct _), Members.Distinct.get?_setAll distinct']

/-- The value of a name in contexts that are spread over each other: that of the rightmost context which
has it. -/
def rightmost? (contexts : List Datum) (key : Text) : Option Datum :=
  contexts.reverse.findSome? fun context => context.members.get? key

theorem rightmost?_append (contexts : List Datum) (last : Datum) (key : Text) :
    rightmost? (contexts ++ [last]) key = (last.members.get? key).or (rightmost? contexts key) := by
  rw [rightmost?, List.reverse_append, List.reverse_singleton, List.singleton_append,
    List.findSome?_cons]
  cases last.members.get? key <;> rfl

/-- A context that holds what some contexts have when they are spread over each other. -/
structure Merges (contexts : List Datum) (d : Datum) : Prop where
  distinct : d.IsDistinct
  value : ∀ key, d.members.get? key = rightmost? contexts key

theorem Merges.single {d : Datum} (distinct : d.IsDistinct) : Merges [d] d := by
  refine ⟨distinct, fun key => ?_⟩
  rw [rightmost?, List.reverse_singleton, List.findSome?_singleton]

theorem Merges.spread {contexts : List Datum} {d more : Datum} (merges : Merges contexts d)
    (distinct : more.IsDistinct) : Merges (contexts ++ [more]) (d.spread more) := by
  refine ⟨merges.distinct.spread more, fun key => ?_⟩
  rw [merges.distinct.get?_spread distinct, rightmost?_append, merges.value]

end Datum

end LineTemplate

import LineTemplate.Text.Basic

/-!
Named values in the order in which their names were first set. A listing puts names that are array
indices first, by value, and keeps the order of the others.
-/

set_option autoImplicit false

namespace LineTemplate

/-- Names with their values; no name occurs twice in a list that `set` has built. -/
abbrev Members (α : Type) := List (Text × α)

/-- The value of the canonical digits of an array index: no leading zero, at most 4294967294. -/
def arrayIndex? (key : Text) : Option Nat :=
  match key with
  | [] => none
  | c :: rest =>
    if key.all CodeUnit.isDigit && (rest.isEmpty || c ≠ '0') && key.length ≤ 10 then
      let n := key.foldl (fun n d => n * 10 + (d.toNat - 0x30)) 0
      if n ≤ 4294967294 then some n else none
    else none

namespace Members

variable {α : Type}

def get? (members : Members α) (key : Text) : Option α := members.lookup key

def has (members : Members α) (key : Text) : Bool := (members.get? key).isSome

/-- Sets a value; a name that is already there keeps its place. -/
def set (members : Members α) (key : Text) (value : α) : Members α :=
  match members with
  | [] => [(key, value)]
  | (k, v) :: rest => if k = key then (key, value) :: rest else (k, v) :: set rest key value

def erase (members : Members α) (key : Text) : Members α := members.filter fun m => m.1 != key

/-- The name by which scripts reach the prototype of an object. -/
def prototypeName : Text := "__proto__"

/-- Sets a value as an assignment does, which changes the prototype instead of making a member of this
name. -/
def assign (members : Members α) (key : Text) (value : α) : Members α :=
  if key = prototypeName && !members.has key then members else members.set key value

def assignAll (members more : Members α) : Members α :=
  more.foldl (fun sofar m => sofar.assign m.1 m.2) members

def setAll (members more : Members α) : Members α :=
  more.foldl (fun sofar m => sofar.set m.1 m.2) members

/-- The members as they are listed: array indices by value, then the rest as they came. -/
def listed (members : Members α) : Members α :=
  let indices := members.filterMap fun m => (arrayIndex? m.1).map fun i => (i, m)
  let others := members.filter fun m => (arrayIndex? m.1).isNone
  (indices.mergeSort fun a b => a.1 ≤ b.1).map (·.2) ++ others

def sorted (members : Members α) : Members α := members.mergeSort fun a b => Text.le a.1 b.1

theorem mem_of_get? {members : Members α} {key : Text} {v : α} (h : members.get? key = some v) :
    (key, v) ∈ members := by
  induction members with
  | nil => cases h
  | cons m rest ih =>
    rw [get?, List.lookup_cons] at h
    split at h
    · rename_i same
      rw [← Option.some.inj h, beq_iff_eq.1 same]
      exact List.mem_cons_self
    · exact List.mem_cons_of_mem m (ih h)

theorem get?_singleton (name : Text) (value : α) (key : Text) :
    get? [(name, value)] key = if key = name then some value else none := by
  by_cases same : key = name
  · simp [get?, same]
  · simp [get?, same]

theorem get?_set_self (members : Members α) (key : Text) (value : α) :
    (members.set key value).get? key = some value := by
  induction members with
  | nil => simp [set, get?]
  | cons m rest ih =>
    obtain ⟨k, v⟩ := m
    unfold set
    split
    · simp [get?]
    · rename_i other
      have : (key == k) = false := by simpa using fun same => other same.symm
      simpa [get?, List.lookup_cons, this] using ih

theorem get?_set_of_ne (members : Members α) (key other : Text) (value : α) (h : other ≠ key) :
    (members.set key value).get? other = members.get? other := by
  have absent : (other == key) = false := by simpa using h
  induction members with
  | nil => simp [set, get?, List.lookup_cons, absent]
  | cons m rest ih =>
    obtain ⟨k, v⟩ := m
    unfold set
    split
    · rename_i same
      subst same
      simp [get?, List.lookup_cons, absent]
    · by_cases found : other == k
      · simp [get?, List.lookup_cons, found]
      · simp only [get?, List.lookup_cons, Bool.not_eq_true _ ▸ found]
        exact ih

theorem assign_of_ne (members : Members α) {key : Text} (h : key ≠ prototypeName) (value : α) :
    members.assign key value = members.set key value := by
  simp [assign, h]

theorem get?_assign_of_ne (members : Members α) (key other : Text) (value : α) (h : other ≠ key) :
    (members.assign key value).get? other = members.get? other := by
  unfold assign
  split
  · rfl
  · exact members.get?_set_of_ne key other value h

theorem get?_filter (members : Members α) (keep : Text → Bool) {key : Text} (kept : keep key = true) :
    get? (members.filter fun m => keep m.1) key = members.get? key := by
  induction members with
  | nil => rfl
  | cons m rest ih =>
    obtain ⟨k, v⟩ := m
    by_cases found : key = k
    · subst found
      simp [get?, kept]
    · have absent : (key == k) = false := by simpa using found
      cases stays : keep k <;> simpa [get?, List.lookup_cons, stays, absent] using ih

theorem get?_erase_of_ne (members : Members α) {key other : Text} (h : other ≠ key) :
    (members.erase key).get? other = members.get? other :=
  members.get?_filter (fun k => k != key) (by simpa using h)

theorem filter_set (members : Members α) (keep : Text → Bool) {key : Text} (dropped : keep key = false)
    (value : α) :
    (members.set key value).filter (fun m => keep m.1) = members.filter fun m => keep m.1 := by
  induction members with
  | nil => simp [set, dropped]
  | cons m rest ih =>
    obtain ⟨k, v⟩ := m
    unfold set
    split
    · rename_i same
      subst same
      simp [dropped]
    · simp only [List.filter_cons, ih]

theorem filter_erase (members : Members α) (keep : Text → Bool) {key : Text} (dropped : keep key = false) :
    (members.erase key).filter (fun m => keep m.1) = members.filter fun m => keep m.1 := by
  rw [erase, List.filter_filter]
  refine List.filter_congr fun m _ => ?_
  by_cases same : m.1 = key
  · rw [same, dropped, Bool.false_and]
  · rw [bne_iff_ne.2 same, Bool.and_true]

theorem get?_erase_self (members : Members α) (key : Text) : (members.erase key).get? key = none :=
  List.lookup_eq_none_iff.2 fun _ inside =>
    bne_iff_ne.2 (Ne.symm (bne_iff_ne.1 (List.mem_filter.1 inside).2))

def indices (members : Members α) : Members α :=
  ((members.filterMap fun m => (arrayIndex? m.1).map fun i => (i, m)).mergeSort
    fun a b => a.1 ≤ b.1).map (·.2)

theorem listed_eq (members : Members α) :
    members.listed = members.indices ++ members.filter fun m => (arrayIndex? m.1).isNone := rfl

theorem isSome_of_mem_indices {members : Members α} {m : Text × α} (inside : m ∈ members.indices) :
    (arrayIndex? m.1).isSome := by
  obtain ⟨⟨i, m'⟩, sorted, rfl⟩ := List.mem_map.1 inside
  obtain ⟨m, -, found⟩ := List.mem_filterMap.1 (List.mem_mergeSort.1 sorted)
  obtain ⟨i', index, same⟩ := Option.map_eq_some_iff.1 found
  cases same
  exact Option.isSome_of_mem index

theorem get?_listed (members : Members α) {key : Text} (named : arrayIndex? key = none) :
    members.listed.get? key = members.get? key := by
  have absent : members.indices.lookup key = none := by
    refine List.lookup_eq_none_iff.2 fun m inside => bne_iff_ne.2 fun same => ?_
    have index := isSome_of_mem_indices inside
    rw [← same, named] at index
    cases index
  rw [listed_eq, get?, List.lookup_append, absent, Option.none_or]
  exact members.get?_filter (fun k => (arrayIndex? k).isNone) (by rw [named]; rfl)

variable {keep : Text → Bool}

theorem indices_filter (members : Members α)
    (kept : ∀ key, (arrayIndex? key).isSome → keep key = true) :
    indices (members.filter fun m => keep m.1) = members.indices := by
  unfold indices
  rw [List.filterMap_filter]
  congr 3
  funext m
  cases index : arrayIndex? m.1 with
  | none => simp
  | some i => simp [kept m.1 (by rw [index]; rfl)]

theorem listed_eq_self {members : Members α} (named : ∀ m ∈ members, arrayIndex? m.1 = none) :
    members.listed = members := by
  have empty : members.filterMap (fun m => (arrayIndex? m.1).map fun i => (i, m)) = [] :=
    List.filterMap_eq_nil_iff.2 fun m inside => by rw [named m inside]; rfl
  rw [listed_eq, indices, empty, List.mergeSort_nil, List.map_nil, List.nil_append]
  exact List.filter_eq_self.2 fun m inside => by rw [named m inside]; rfl

theorem filter_listed (members : Members α)
    (kept : ∀ key, (arrayIndex? key).isSome → keep key = true) :
    members.listed.filter (fun m => keep m.1) = listed (members.filter fun m => keep m.1) := by
  have all : members.indices.filter (fun m => keep m.1) = members.indices :=
    List.filter_eq_self.2 fun m inside => kept m.1 (isSome_of_mem_indices inside)
  rw [listed_eq, listed_eq, List.filter_append, all, members.indices_filter kept, List.filter_filter,
    List.filter_filter]
  congr 2
  exact funext fun m => Bool.and_comm _ _

end Members

end LineTemplate

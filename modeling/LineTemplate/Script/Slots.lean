/-!
Numbered places of which some may be empty, and a length of their own. The places of a first stretch
lie together; a place far beyond it is kept apart, so that a large number costs no more than a small
one.
-/

set_option autoImplicit false

namespace LineTemplate.Script

structure Slots (α : Type) where
  /-- The first stretch. -/
  near : Array (Option α)
  /-- Single places beyond it, in order. -/
  far : List (Nat × α)
  length : Nat

namespace Slots

variable {α : Type}

def empty : Slots α := ⟨#[], [], 0⟩

def ofList (items : List α) : Slots α := ⟨(items.map some).toArray, [], items.length⟩

def ofOptions (items : List (Option α)) : Slots α := ⟨items.toArray, [], items.length⟩

def get? (s : Slots α) (i : Nat) : Option α :=
  if i < s.near.size then s.near[i]?.getD none else s.far.lookup i

def reach : Nat := 65536

def extend (s : Slots α) (n : Nat) : Slots α :=
  if n ≤ s.near.size then s
  else
    let added := (List.range (n - s.near.size)).map fun j => s.far.lookup (s.near.size + j)
    { s with near := s.near ++ added.toArray, far := s.far.filter fun p => n ≤ p.1 }

def insertFar (i : Nat) (v : α) : List (Nat × α) → List (Nat × α)
  | [] => [(i, v)]
  | (j, w) :: rest =>
    if i < j then (i, v) :: (j, w) :: rest
    else if i = j then (i, v) :: rest
    else (j, w) :: insertFar i v rest

def set (s : Slots α) (i : Nat) (v : α) : Slots α :=
  let s := { s with length := max s.length (i + 1) }
  if i < s.near.size then { s with near := s.near.setIfInBounds i (some v) }
  else if i = s.near.size && s.far.isEmpty then { s with near := s.near.push (some v) }
  else if i < s.near.size + reach then
    let s := s.extend (i + 1)
    { s with near := s.near.setIfInBounds i (some v) }
  else { s with far := insertFar i v s.far }

def push (s : Slots α) (v : α) : Slots α := s.set s.length v

def resize (s : Slots α) (n : Nat) : Slots α :=
  if n < s.length then
    let near := if n + 1 = s.near.size then s.near.pop else s.near.take n
    ⟨near, s.far.filter fun p => p.1 < n, n⟩
  else { s with length := n }

def pop (s : Slots α) : Option α × Slots α := (s.get? (s.length - 1), s.resize (s.length - 1))

def toList (s : Slots α) : List (Option α) := (List.range s.length).map s.get?

def entries (s : Slots α) : List (Nat × α) :=
  (List.range s.near.size).filterMap (fun i => (s.get? i).map fun v => (i, v)) ++ s.far

end Slots

end LineTemplate.Script

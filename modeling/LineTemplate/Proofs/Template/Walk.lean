import Mathlib.Data.List.Chain
import Mathlib.Data.List.Perm.Subperm
import Mathlib.Logic.Relation
import LineTemplate.Proofs.Template.Yield

/-!
Walks over inclusions. A template leads to the names on its inclusion lines, and a name leads on as the
template does that it stands for. A walk takes the lines in order and follows each inclusion down to its end
before it goes on; it stops at the first line whose name is not available or is still open. A walk comes to
its end exactly when every name that it can reach is available and none of them leads back to itself.
-/

set_option autoImplicit false

namespace LineTemplate

/-- The names on the inclusion lines of a template, in order. -/
def includedNames (template : Text) : List Text :=
  (splitLines template).filterMap fun line => (Line.inclusion? line).map fun (_, _, name) => name

theorem mem_includedNames_iff {template name : Text} : name ∈ includedNames template ↔
    ∃ line ∈ splitLines template, ∃ blanks run, Line.inclusion? line = some (blanks, run, name) := by
  unfold includedNames
  rw [List.mem_filterMap]
  refine exists_congr fun line => and_congr_right fun _ => ?_
  rw [Option.map_eq_some_iff]
  constructor
  · rintro ⟨⟨blanks, run, _⟩, kind, rfl⟩
    exact ⟨blanks, run, kind⟩
  · rintro ⟨blanks, run, kind⟩
    exact ⟨(blanks, run, name), kind, rfl⟩

theorem Line.inclusion?_name {line blanks run name blanks' run' name' : Text}
    (h : inclusion? line = some (blanks, run, name)) (h' : inclusion? line = some (blanks', run', name')) :
    name = name' := by
  cases h.symm.trans h'
  rfl

section

variable (included : Members Text)

/-- The template of the first name includes the second one. -/
def Includes (u v : Text) : Prop := ∃ source, included.get? u = some source ∧ v ∈ includedNames source

/-- The inclusions of a template lead to a name. -/
def Reachable (template v : Text) : Prop :=
  ∃ u ∈ includedNames template, Relation.ReflTransGen (Includes included) u v

/-- A name leads back to itself. -/
def OnCycle (v : Text) : Prop := Relation.TransGen (Includes included) v v

/-- A walk with the names of a chain open gets past a line: the line includes nothing, or a name that is
available and not open, and the walk gets past all lines of its template. -/
inductive Passes : List Text → Text → Prop
  | plain {chain : List Text} {line : Text} (kind : Line.inclusion? line = none) : Passes chain line
  | inside {chain : List Text} {line blanks run name source : Text}
      (kind : Line.inclusion? line = some (blanks, run, name))
      (found : included.get? name = some source) (fresh : name ∉ chain)
      (lines : ∀ inner ∈ splitLines source, Passes (chain ++ [name]) inner) : Passes chain line

/-- A walk with the names of a chain open stops at a line, the one with this number of the template with
this name, or further down at the first line that it does not get past. -/
inductive Stops : List Text → Text → Nat → Text → ExpansionError → Prop
  | unresolved {chain : List Text} {includer line blanks run name : Text} {number : Nat}
      (kind : Line.inclusion? line = some (blanks, run, name)) (missing : included.get? name = none) :
      Stops chain includer number line (.unresolved name includer number)
  | cycle {chain : List Text} {includer line blanks run name source : Text} {number : Nat}
      (kind : Line.inclusion? line = some (blanks, run, name))
      (found : included.get? name = some source) (known : name ∈ chain) :
      Stops chain includer number line (.cycle (chain ++ [name]))
  | inside {chain : List Text} {includer line blanks run name source inner : Text} {number n : Nat}
      {e : ExpansionError} (kind : Line.inclusion? line = some (blanks, run, name))
      (found : included.get? name = some source) (fresh : name ∉ chain)
      (position : (splitLines source)[n]? = some inner)
      (earlier : ∀ m < n, ∀ other, (splitLines source)[m]? = some other →
        Passes included (chain ++ [name]) other)
      (stops : Stops (chain ++ [name]) name (n + 1) inner e) : Stops chain includer number line e

def StopsIn (chain : List Text) (name template : Text) (e : ExpansionError) : Prop :=
  ∃ n line, (splitLines template)[n]? = some line ∧
    (∀ m < n, ∀ other, (splitLines template)[m]? = some other → Passes included chain other) ∧
    Stops included chain name (n + 1) line e

def Ends (chain : List Text) (template : Text) : Prop :=
  ∀ line ∈ splitLines template, Passes included chain line

end

section

variable {included : Members Text} {chain : List Text}

theorem Passes.not_stops {line : Text} (h : Passes included chain line) {includer : Text} {number : Nat}
    {e : ExpansionError} : ¬Stops included chain includer number line e := by
  induction h generalizing includer number with
  | plain kind =>
    intro stops
    cases stops with
    | unresolved kind' | cycle kind' | inside kind' => simp [kind] at kind'
  | inside kind found fresh lines ih =>
    intro stops
    cases stops with
    | unresolved kind' missing =>
      obtain rfl := Line.inclusion?_name kind kind'
      simp [found] at missing
    | cycle kind' found' known =>
      obtain rfl := Line.inclusion?_name kind kind'
      exact fresh known
    | inside kind' found' fresh' position earlier stops =>
      obtain rfl := Line.inclusion?_name kind kind'
      obtain rfl : _ = _ := by simpa [found] using found'
      exact ih _ (List.mem_of_getElem? position) stops

theorem eq_of_stops_first {source : Text} {n n' : Nat} {line line' : Text} {includer : Text}
    {e e' : ExpansionError} (position : (splitLines source)[n]? = some line)
    (position' : (splitLines source)[n']? = some line')
    (earlier : ∀ m < n, ∀ other, (splitLines source)[m]? = some other → Passes included chain other)
    (earlier' : ∀ m < n', ∀ other, (splitLines source)[m]? = some other → Passes included chain other)
    (stops : Stops included chain includer (n + 1) line e)
    (stops' : Stops included chain includer (n' + 1) line' e') : n = n' ∧ line = line' := by
  rcases Nat.lt_trichotomy n n' with before | same | after
  · exact absurd stops (earlier' n before line position).not_stops
  · subst same
    exact ⟨rfl, Option.some.inj (position.symm.trans position')⟩
  · exact absurd stops' (earlier n' after line' position').not_stops

theorem Stops.unique {includer line : Text} {number : Nat} {e e' : ExpansionError}
    (h : Stops included chain includer number line e) (h' : Stops included chain includer number line e') :
    e = e' := by
  induction h with
  | unresolved kind missing =>
    cases h' with
    | unresolved kind' =>
      obtain rfl := Line.inclusion?_name kind kind'
      rfl
    | cycle kind' found' | inside kind' found' =>
      obtain rfl := Line.inclusion?_name kind kind'
      simp [missing] at found'
  | cycle kind found known =>
    cases h' with
    | unresolved kind' missing =>
      obtain rfl := Line.inclusion?_name kind kind'
      simp [found] at missing
    | cycle kind' =>
      obtain rfl := Line.inclusion?_name kind kind'
      rfl
    | inside kind' found' fresh =>
      obtain rfl := Line.inclusion?_name kind kind'
      exact absurd known fresh
  | inside kind found fresh position earlier stops ih =>
    cases h' with
    | unresolved kind' missing =>
      obtain rfl := Line.inclusion?_name kind kind'
      simp [found] at missing
    | cycle kind' found' known =>
      obtain rfl := Line.inclusion?_name kind kind'
      exact absurd known fresh
    | inside kind' found' fresh' position' earlier' stops' =>
      obtain rfl := Line.inclusion?_name kind kind'
      obtain rfl : _ = _ := by simpa [found] using found'
      -- A line that one walk gets past stops no other, so both stop at the same line of the source.
      obtain ⟨rfl, rfl⟩ := eq_of_stops_first position position' earlier earlier' stops stops'
      exact ih stops'

theorem StopsIn.unique {name template : Text} {e e' : ExpansionError}
    (h : StopsIn included chain name template e) (h' : StopsIn included chain name template e') :
    e = e' := by
  obtain ⟨n, line, position, earlier, stops⟩ := h
  obtain ⟨n', line', position', earlier', stops'⟩ := h'
  obtain ⟨rfl, rfl⟩ := eq_of_stops_first position position' earlier earlier' stops stops'
  exact stops.unique stops'

theorem Ends.not_stopsIn {name template : Text} {e : ExpansionError} (h : Ends included chain template) :
    ¬StopsIn included chain name template e := by
  rintro ⟨n, line, position, -, stops⟩
  exact (h line (List.mem_of_getElem? position)).not_stops stops

end

end LineTemplate

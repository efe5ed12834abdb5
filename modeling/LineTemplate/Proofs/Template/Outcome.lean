import LineTemplate.Proofs.Template.Inlining
import LineTemplate.Proofs.Template.Walk

/-!
The outcome of an expansion. Names on the chain of a walk are distinct names of available templates, so a
chain is never longer than the list of these, and an expansion with more depth than that is the walk: it
gives a program when the walk comes to its end, and the error at which the walk stops otherwise.
-/

set_option autoImplicit false

namespace LineTemplate

/-- A walk over a template comes to this source, which has this name, with these names open. -/
inductive Opened (included : Members Text) (template : Text) : List Text → Text → Text → Prop
  | top : Opened included template [] topLevelName template
  | inner {chain : List Text} {includer name source inner : Text}
      (outside : Opened included template chain includer source) (line : name ∈ includedNames source)
      (found : included.get? name = some inner) (fresh : name ∉ chain) :
      Opened included template (chain ++ [name]) name inner

namespace Opened

variable {included : Members Text} {template : Text} {chain : List Text} {name source : Text}

theorem nodup (h : Opened included template chain name source) : chain.Nodup := by
  induction h with
  | top => exact List.nodup_nil
  | inner _ _ _ fresh ih =>
    refine List.nodup_append.2 ⟨ih, List.pairwise_singleton _ _, ?_⟩
    rintro u member v other rfl
    exact fresh (List.mem_singleton.1 other ▸ member)

theorem available (h : Opened included template chain name source) :
    ∀ u ∈ chain, ∃ text, included.get? u = some text := by
  induction h with
  | top => simp
  | inner _ _ found _ ih =>
    intro u member
    rcases List.mem_append.1 member with old | new
    · exact ih u old
    · exact ⟨_, List.mem_singleton.1 new ▸ found⟩

theorem length_le (h : Opened included template chain name source) : chain.length ≤ included.length := by
  have names : chain ⊆ included.map Prod.fst := by
    intro u member
    obtain ⟨text, found⟩ := h.available u member
    obtain ⟨before, after, rfl, -⟩ := List.lookup_eq_some_iff.1 found
    simp
  simpa using (h.nodup.subperm names).length_le

theorem source_eq (h : Opened included template chain name source) :
    (chain = [] ∧ name = topLevelName ∧ source = template) ∨
      (chain.getLast? = some name ∧ included.get? name = some source) := by
  cases h with
  | top => exact .inl ⟨rfl, rfl, rfl⟩
  | inner _ _ found _ => exact .inr ⟨List.getLast?_concat, found⟩

theorem isChain_concat (h : Opened included template chain name source) {v : Text}
    (line : v ∈ includedNames source) :
    (chain ++ [v]).IsChain (Includes included) ∧
      ∃ first ∈ includedNames template, (chain ++ [v]).head? = some first := by
  induction h generalizing v with
  | top => exact ⟨List.isChain_singleton v, v, line, rfl⟩
  | @inner chain includer name source inner outside outer found fresh ih =>
    obtain ⟨edges, first, member, starts⟩ := ih outer
    refine ⟨List.isChain_append.2 ⟨edges, List.isChain_singleton v, ?_⟩, first, member, ?_⟩
    · intro u last w only
      obtain rfl : name = u := by simpa using last
      obtain rfl : v = w := by simpa using only
      exact ⟨inner, found, line⟩
    · rw [List.head?_append, starts]
      rfl

theorem transGen (h : Opened included template chain name source) {u v : Text} (member : u ∈ chain)
    (line : v ∈ includedNames source) : Relation.TransGen (Includes included) u v := by
  induction h generalizing v with
  | top => simp at member
  | inner outside outer found fresh ih =>
    rcases List.mem_append.1 member with old | new
    · exact (ih old outer).tail ⟨_, found, line⟩
    · rw [List.mem_singleton.1 new]
      exact .single ⟨_, found, line⟩

theorem reachable (h : Opened included template chain name source) {v : Text}
    (line : v ∈ includedNames source) : Reachable included template v := by
  induction h generalizing v with
  | top => exact ⟨v, line, .refl⟩
  | inner outside outer found fresh ih =>
    obtain ⟨u, member, path⟩ := ih outer
    exact ⟨u, member, path.tail ⟨_, found, line⟩⟩

theorem reachable_of_mem (h : Opened included template chain name source) {u : Text}
    (member : u ∈ chain) : Reachable included template u := by
  induction h with
  | top => simp at member
  | inner outside outer found fresh ih =>
    rcases List.mem_append.1 member with old | new
    · exact ih old
    · rw [List.mem_singleton.1 new]
      exact outside.reachable outer

end Opened

section

variable {included : Members Text} {chain : List Text}

theorem Includes.exists_line {u v source : Text} (h : Includes included u v)
    (found : included.get? u = some source) :
    ∃ line ∈ splitLines source, ∃ blanks run, Line.inclusion? line = some (blanks, run, v) := by
  obtain ⟨source', found', member⟩ := h
  obtain rfl : source' = source := by simpa [found] using found'.symm
  exact mem_includedNames_iff.1 member

theorem Passes.available {line blanks run name v : Text} (h : Passes included chain line)
    (kind : Line.inclusion? line = some (blanks, run, name))
    (path : Relation.ReflTransGen (Includes included) name v) :
    (∃ source, included.get? v = some source) ∧ v ∉ chain := by
  induction h generalizing blanks run name with
  | plain plain => simp [plain] at kind
  | @inside chain line blanks' run' name' source kind' found fresh lines ih =>
    obtain ⟨rfl, rfl, rfl⟩ : blanks' = blanks ∧ run' = run ∧ name' = name := by simpa [kind'] using kind
    cases path.cases_head with
    | inl same =>
      subst same
      exact ⟨⟨source, found⟩, fresh⟩
    | inr step =>
      obtain ⟨next, edge, rest⟩ := step
      obtain ⟨inner, present, _, _, leads⟩ := edge.exists_line found
      obtain ⟨some_source, outside⟩ := ih inner present leads rest
      exact ⟨some_source, fun known => outside (List.mem_append_left _ known)⟩

theorem Passes.not_onCycle {line blanks run name v : Text} (h : Passes included chain line)
    (kind : Line.inclusion? line = some (blanks, run, name))
    (path : Relation.ReflTransGen (Includes included) name v) : ¬OnCycle included v := by
  induction h generalizing blanks run name with
  | plain plain => simp [plain] at kind
  | @inside chain line blanks' run' name' source kind' found fresh lines ih =>
    obtain ⟨rfl, rfl, rfl⟩ : blanks' = blanks ∧ run' = run ∧ name' = name := by simpa [kind'] using kind
    cases path.cases_head with
    | inl same =>
      subst same
      intro cycle
      -- The name stays open while the walk follows the cycle back to it.
      obtain ⟨next, edge, back⟩ := Relation.TransGen.head'_iff.1 cycle
      obtain ⟨inner, present, _, _, leads⟩ := edge.exists_line found
      exact ((lines inner present).available leads back).2 (by simp)
    | inr step =>
      obtain ⟨next, edge, rest⟩ := step
      obtain ⟨inner, present, _, _, leads⟩ := edge.exists_line found
      exact ih inner present leads rest

/-- What makes a walk over a template stop: a name that is not available, at the line that includes it, or
a chain of names that comes back to one of its own. -/
inductive Offends (included : Members Text) (template : Text) : ExpansionError → Prop
  | unresolved {name includer source line blanks run : Text} {n : Nat}
      (place : (includer = topLevelName ∧ source = template) ∨
        (Reachable included template includer ∧ included.get? includer = some source))
      (position : (splitLines source)[n]? = some line)
      (kind : Line.inclusion? line = some (blanks, run, name))
      (reached : Reachable included template name) (missing : included.get? name = none) :
      Offends included template (.unresolved name includer (n + 1))
  | cycle {names : List Text} {first last : Text} (nodup : names.Nodup) (again : last ∈ names)
      (edges : (names ++ [last]).IsChain (Includes included)) (starts : names.head? = some first)
      (member : first ∈ includedNames template) (reached : Reachable included template last)
      (back : OnCycle included last) : Offends included template (.cycle (names ++ [last]))

theorem Stops.offends {template name source line : Text} {n : Nat} {e : ExpansionError}
    (h : Stops included chain name (n + 1) line e) (opened : Opened included template chain name source)
    (position : (splitLines source)[n]? = some line) : Offends included template e := by
  have inside : ∀ {line blanks run v : Text} {n : Nat} {source : Text},
      (splitLines source)[n]? = some line → Line.inclusion? line = some (blanks, run, v) →
        v ∈ includedNames source := fun position kind =>
    mem_includedNames_iff.2 ⟨_, List.mem_of_getElem? position, _, _, kind⟩
  generalize number_eq : n + 1 = number at h
  induction h generalizing n source with
  | unresolved kind missing =>
    subst number_eq
    refine .unresolved ?_ position kind (opened.reachable (inside position kind)) missing
    rcases opened.source_eq with ⟨-, top, same⟩ | ⟨last, found⟩
    · exact .inl ⟨top, same⟩
    · exact .inr ⟨opened.reachable_of_mem (List.mem_of_getLast? last), found⟩
  | @cycle chain includer line blanks run v source' number kind found known =>
    obtain ⟨edges, first, member, starts⟩ := opened.isChain_concat (inside position kind)
    refine .cycle opened.nodup known edges ?_ member (opened.reachable_of_mem known)
      (opened.transGen known (inside position kind))
    cases chain with
    | nil => simp at known
    | cons u rest => exact starts
  | inside kind found fresh position' _ _ ih =>
    exact ih (opened.inner (inside position kind) found fresh) position' rfl

theorem StopsIn.offends {template : Text} {e : ExpansionError}
    (h : StopsIn included [] topLevelName template e) : Offends included template e := by
  obtain ⟨n, line, position, -, stops⟩ := h
  exact stops.offends .top position

theorem Offends.exists_reachable {template : Text} {e : ExpansionError}
    (h : Offends included template e) :
    ∃ v, Reachable included template v ∧ (included.get? v = none ∨ OnCycle included v) := by
  cases h with
  | unresolved _ _ _ reached missing => exact ⟨_, reached, .inl missing⟩
  | cycle _ _ _ _ _ reached back => exact ⟨_, reached, .inr back⟩

theorem Ends.reachable {template v : Text} (h : Ends included chain template)
    (reached : Reachable included template v) :
    (∃ source, included.get? v = some source) ∧ ¬OnCycle included v := by
  obtain ⟨u, member, path⟩ := reached
  obtain ⟨line, present, _, _, kind⟩ := mem_includedNames_iff.1 member
  exact ⟨((h line present).available kind path).1, (h line present).not_onCycle kind path⟩

end

namespace Expansion

/-- An expansion is a walk: it has a program if the walk ends, and otherwise the error of the walk. -/
def Follows (context : ExpansionContext) (template : Text) (result : Except ExpansionError Program) :
    Prop :=
  (∃ p, result = .ok p ∧ Ends context.included context.chain template) ∨
    ∃ e, result = .error e ∧ StopsIn context.included context.chain context.name template e

section

variable {context : ExpansionContext}
  {expandNested : ExpansionContext → Text → Except ExpansionError Program}

theorem linePart_follows (place : ProgramPlace) (line : Text)
    (nested : ∀ blanks run name source, Line.inclusion? line = some (blanks, run, name) →
      context.included.get? name = some source → name ∉ context.chain →
      Follows (context.enter blanks name) source (expandNested (context.enter blanks name) source)) :
    (∃ part, linePart context expandNested place line = .ok part ∧
        Passes context.included context.chain line) ∨
      ∃ e, linePart context expandNested place line = .error e ∧
        Stops context.included context.chain context.name place.line line e := by
  cases kind : Line.inclusion? line with
  | none =>
    obtain ⟨_, -, same⟩ := @linePart_of_plain context expandNested place line kind
    exact .inl ⟨_, same, .plain kind⟩
  | some parts =>
    obtain ⟨blanks, run, name⟩ := parts
    rw [linePart_of_inclusion place line blanks run name kind]
    cases found : context.included.get? name with
    | none =>
      refine .inr ⟨_, ?_, .unresolved kind found⟩
      simp [resolve, found, Except.map]
    | some source =>
      by_cases known : name ∈ context.chain
      · refine .inr ⟨_, ?_, .cycle kind found known⟩
        simp [resolve, found, known, Except.map]
      · have resolved : resolve context expandNested place.line blanks name =
            expandNested (context.enter blanks name) source := by
          simp [resolve, found, known, ExpansionContext.enter]
        rw [resolved]
        rcases nested blanks run name source kind found known with
          ⟨p, same, ends⟩ | ⟨e, same, n, inner, position, earlier, stops⟩
        · exact .inl ⟨_, by rw [same]; rfl, .inside kind found known ends⟩
        · exact .inr ⟨e, by rw [same]; rfl, .inside kind found known position earlier stops⟩

theorem linesPart_follows (place : ProgramPlace) (lines : List Text)
    (nested : ∀ line ∈ lines, ∀ blanks run name source,
      Line.inclusion? line = some (blanks, run, name) →
      context.included.get? name = some source → name ∉ context.chain →
      Follows (context.enter blanks name) source (expandNested (context.enter blanks name) source)) :
    (∃ part, linesPart context expandNested place lines = .ok part ∧
        ∀ line ∈ lines, Passes context.included context.chain line) ∨
      ∃ e, linesPart context expandNested place lines = .error e ∧
        ∃ n line, lines[n]? = some line ∧
          (∀ m < n, ∀ other, lines[m]? = some other → Passes context.included context.chain other) ∧
          Stops context.included context.chain context.name (place.line + n) line e := by
  induction lines generalizing place with
  | nil => exact .inl ⟨_, rfl, by simp⟩
  | cons line rest ih =>
    rcases linePart_follows place line (nested line List.mem_cons_self) with
      ⟨part, first, passes⟩ | ⟨e, first, stops⟩
    · rcases ih (place.after part) fun l member => nested l (List.mem_cons_of_mem line member) with
        ⟨others, same, all⟩ | ⟨e, same, n, l, position, earlier, stops⟩
      · refine .inl ⟨part ++ others, ?_, List.forall_mem_cons.2 ⟨passes, all⟩⟩
        unfold ProgramPlace.after at same
        simp [linesPart, first, same, bind, Except.bind]
      -- A line further down has one line more that the walk gets past, this one.
      · refine .inr ⟨e, ?_, n + 1, l, position, ?_, ?_⟩
        · unfold ProgramPlace.after at same
          simp [linesPart, first, same, bind, Except.bind]
        · intro m before other at_m
          cases m with
          | zero =>
            obtain rfl : line = other := by simpa using at_m
            exact passes
          | succ m => exact earlier m (by omega) other (by simpa using at_m)
        · have next : (place.after part).line + n = place.line + (n + 1) := by
            simp only [ProgramPlace.after]
            omega
          rwa [next] at stops
    · refine .inr ⟨e, ?_, 0, line, rfl, by simp, stops⟩
      simp [linesPart, first, bind, Except.bind]

end

theorem expandTo_follows {depth : Nat} {context : ExpansionContext} {template source : Text}
    (opened : Opened context.included template context.chain context.name source)
    (deep : context.included.length < depth + context.chain.length) :
    Follows context source (expandTo depth context source) := by
  induction depth generalizing context source with
  | zero =>
    have := opened.length_le
    omega
  | succ depth ih =>
    -- A name more on the chain makes up for the level of depth that an included template loses.
    have lines := @linesPart_follows context (expandTo depth) ⟨1, 0, 0⟩
      (splitLines source) fun line member blanks run name inner kind found fresh => by
        refine @ih (context.enter blanks name) inner ?_ ?_
        · exact opened.inner (mem_includedNames_iff.2 ⟨line, member, blanks, run, kind⟩) found fresh
        · simp only [ExpansionContext.enter, List.length_append, List.length_singleton]
          omega
    unfold expandTo
    rcases lines with ⟨part, same, all⟩ | ⟨e, same, n, line, position, earlier, stops⟩
    · exact .inl ⟨_, by rw [same]; rfl, all⟩
    · refine .inr ⟨e, by rw [same]; rfl, n, line, position, earlier, ?_⟩
      rwa [Nat.add_comm] at stops

end Expansion

section

variable (columns : Nat) (style : DelimiterStyle) (included : Members Text) (template : Text)

theorem expandTo_top_follows {depth : Nat} (deep : included.length < depth) :
    Expansion.Follows ⟨columns, style, included, [], topLevelName⟩ template
      (Expansion.expandTo depth ⟨columns, style, included, [], topLevelName⟩ template) :=
  Expansion.expandTo_follows .top (by simpa using deep)

theorem expand_follows : Expansion.Follows ⟨columns, style, included, [], topLevelName⟩ template
    (expand columns style included template) :=
  expandTo_top_follows columns style included template (Nat.lt_succ_self _)

theorem expand_eq_error_iff (e : ExpansionError) :
    expand columns style included template = .error e ↔ StopsIn included [] topLevelName template e := by
  rcases expand_follows columns style included template with ⟨p, same, ends⟩ | ⟨e', same, stopped⟩
  · simp only [same, reduceCtorEq, false_iff]
    exact ends.not_stopsIn
  · rw [same, Except.error.injEq]
    exact ⟨fun eq => eq ▸ stopped, stopped.unique⟩

theorem exists_expand_eq_ok_iff : (∃ p, expand columns style included template = .ok p) ↔
    ∀ v, Reachable included template v →
      (∃ source, included.get? v = some source) ∧ ¬OnCycle included v := by
  rcases expand_follows columns style included template with ⟨p, same, ends⟩ | ⟨e, same, stopped⟩
  · exact ⟨fun _ v reached => ends.reachable reached, fun _ => ⟨p, same⟩⟩
  · obtain ⟨v, reached, bad⟩ := stopped.offends.exists_reachable
    refine ⟨fun ⟨p, other⟩ => by simp [same] at other, fun all => ?_⟩
    obtain ⟨⟨source, found⟩, acyclic⟩ := all v reached
    rcases bad with missing | cycle
    · simp [missing] at found
    · exact absurd cycle acyclic

theorem expandTo_eq_expand {depth : Nat} (deep : included.length < depth) :
    Expansion.expandTo depth ⟨columns, style, included, [], topLevelName⟩ template =
      expand columns style included template := by
  rcases expand_follows columns style included template with ⟨p, same, ends⟩ | ⟨e, same, stopped⟩
  · rw [same]
    exact Expansion.expandTo_of_subset [] same deep (List.Subset.refl _)
  · rcases expandTo_top_follows columns style included template deep with
      ⟨p, -, ends⟩ | ⟨e', same', stopped'⟩
    · exact absurd stopped ends.not_stopsIn
    · rw [same, same', stopped.unique stopped']

theorem map_expand_eq (columns' : Nat) (style' : DelimiterStyle) :
    (expand columns' style' included template).map (fun _ => ()) =
      (expand columns style included template).map fun _ => () := by
  rcases expand_follows columns style included template with ⟨p, same, ends⟩ | ⟨e, same, stopped⟩
  · rcases expand_follows columns' style' included template with ⟨p', same', -⟩ | ⟨e', -, stopped'⟩
    · rw [same, same']
      rfl
    · exact absurd stopped' ends.not_stopsIn
  · rw [same, (expand_eq_error_iff columns' style' included template e).2 stopped]

end

/-- An expansion has one outcome, which the inclusions alone decide: more depth gives the same one; it is
a program exactly if all names that can be reached are available and none leads back to itself; otherwise
it is the error of the first line, in the order of the walk, that names a template that is not available
or one that is open, and the error tells which; columns and delimiters play no part in this. -/
theorem expand_outcome (columns : Nat) (style : DelimiterStyle) (included : Members Text)
    (template : Text) :
    (∀ depth, included.length < depth →
      Expansion.expandTo depth ⟨columns, style, included, [], topLevelName⟩ template =
        expand columns style included template) ∧
    ((∃ p, expand columns style included template = .ok p) ↔
      ∀ v, Reachable included template v →
        (∃ source, included.get? v = some source) ∧ ¬OnCycle included v) ∧
    (∀ e, expand columns style included template = .error e ↔
      StopsIn included [] topLevelName template e) ∧
    (∀ name includer number,
      expand columns style included template = .error (.unresolved name includer number) →
        included.get? name = none ∧
        ∃ source, ((includer = topLevelName ∧ source = template) ∨
            (Reachable included template includer ∧ included.get? includer = some source)) ∧
          ∃ n line blanks run, number = n + 1 ∧ (splitLines source)[n]? = some line ∧
            Line.inclusion? line = some (blanks, run, name)) ∧
    (∀ chain, expand columns style included template = .error (.cycle chain) →
      ∃ names last, chain = names ++ [last] ∧ names.Nodup ∧ last ∈ names ∧
        chain.IsChain (Includes included) ∧
        ∃ first ∈ includedNames template, chain.head? = some first) ∧
    ∀ columns' style', (expand columns' style' included template).map (fun _ => ()) =
      (expand columns style included template).map fun _ => () := by
  have offends (e : ExpansionError) (failed : expand columns style included template = .error e) :
      Offends included template e :=
    ((expand_eq_error_iff columns style included template e).1 failed).offends
  refine ⟨fun depth => expandTo_eq_expand columns style included template,
    exists_expand_eq_ok_iff columns style included template,
    expand_eq_error_iff columns style included template, ?_, ?_,
    map_expand_eq columns style included template⟩
  · intro name includer number failed
    cases offends _ failed with
    | unresolved place position kind _ missing =>
      exact ⟨missing, _, place, _, _, _, _, rfl, position, kind⟩
  · intro chain failed
    have cycle := offends _ failed
    generalize error_eq : ExpansionError.cycle chain = error at cycle
    cases cycle with
    | unresolved => simp at error_eq
    | @cycle names first last nodup again edges starts member =>
      obtain rfl : chain = names ++ [last] := by simpa using error_eq
      refine ⟨names, last, rfl, nodup, again, edges, first, member, ?_⟩
      rw [List.head?_append, starts]
      rfl

end LineTemplate

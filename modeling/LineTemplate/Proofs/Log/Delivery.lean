import Mathlib.Data.List.Forall2
import LineTemplate.Log.Family
import LineTemplate.Proofs.Evaluation.Steps
import LineTemplate.Proofs.Log.Contexts

/-!
What a family of loggers delivers. All loggers of a family hand their entries to the sinks of the root, from
its level on, and each binds what its way from the root binds. A sink passes an entry on if it neither fails
nor changes it, and logs nothing itself. With such sinks every call from that level on gives one entry to each
of the sinks, in the order of the calls, and no logger has a part in the entries of one that is not made of it.
-/

set_option autoImplicit false

namespace LineTemplate

namespace LogSink

/-- The sink neither fails nor changes the entry, and leaves the clock, the run and what is kept under the
first numbers as they are, whatever was written before. -/
def PassesOn (sink : LogSink) (numbers : Nat) (entry : LogEntry) : Prop :=
  ∀ s, ∃ s', sink entry s = .ok entry s' ∧ s'.clock = s.clock ∧ s'.run = s.run ∧
    ∀ index < numbers, s'.kept index = s.kept index

/-- What the sink is given is kept under a number first. -/
def watched (sink : LogSink) (index : Nat) : LogSink := fun entry => do
  sink (← record index entry)

theorem kept_record (index number : Nat) (entry : LogEntry) (s : LogState) :
    ({ s with records := s.records ++ [(number, entry)] } : LogState).kept index =
      s.kept index ++ if number = index then [entry] else [] := by
  simp only [LogState.kept, List.filterMap_append, List.filterMap_cons, List.filterMap_nil]
  split <;> simp_all

theorem passesOn_record {number numbers : Nat} (apart : numbers ≤ number) (entry : LogEntry) :
    (record number).PassesOn numbers entry := by
  refine fun s => ⟨_, rfl, rfl, rfl, fun index inside => ?_⟩
  rw [kept_record, if_neg (by omega), List.append_nil]

theorem passesOn_console {numbers : Nat} {entry : LogEntry} {content : Text}
    (line : entry.line = .ok content) : console.PassesOn numbers entry := by
  intro s
  refine ⟨{ s with console := s.console ++ [(entry.level, content)] }, ?_, rfl, rfl, fun _ _ => rfl⟩
  unfold console
  rw [line]
  rfl

theorem passesOn_file (written : Text) (numbers : Nat) (entry : LogEntry) :
    (file written).PassesOn numbers entry := by
  intro s
  have current : (get : Logging LogState) s = .ok s s := rfl
  unfold file appendLine
  rw [bind_assoc, bind_ok current]
  cases entry.line with
  | error e => exact ⟨_, rfl, rfl, rfl, fun _ _ => rfl⟩
  | ok content =>
    dsimp only
    cases s.files.append (Path.resolve s.directory written) (content ++ ("\n" : Text)) <;>
      exact ⟨_, rfl, rfl, rfl, fun _ _ => rfl⟩

theorem exists_giveAll {sinks : List LogSink} {entry : LogEntry} {numbers : Nat}
    (passing : ∀ sink ∈ sinks, sink.PassesOn numbers entry) (start : Nat)
    (below : start + sinks.length ≤ numbers) (s : LogState) :
    ∃ s', giveAll ((sinks.zipIdx start).map fun m => m.1.watched m.2) entry s = .ok entry s' ∧
      s'.clock = s.clock ∧ s'.run = s.run ∧ ∀ index < numbers, s'.kept index =
        s.kept index ++ if start ≤ index ∧ index < start + sinks.length then [entry] else [] := by
  induction sinks generalizing start s with
  | nil =>
    refine ⟨s, rfl, rfl, rfl, fun index _ => ?_⟩
    rw [if_neg (by rw [List.length_nil]; omega), List.append_nil]
  | cons sink rest ih =>
    rw [List.length_cons] at below
    let noted : LogState := { s with records := s.records ++ [(start, entry)] }
    obtain ⟨t, written, clock, run, kept⟩ := passing sink List.mem_cons_self noted
    obtain ⟨s', others, clock', run', kept'⟩ := ih (fun other inside =>
      passing other (List.mem_cons_of_mem sink inside)) (start + 1) (by omega) t
    refine ⟨s', ?_, clock'.trans clock, run'.trans run, fun index inside => ?_⟩
    · rw [List.zipIdx_cons, List.map_cons, giveAll, List.foldlM_cons,
        bind_ok (show sink.watched start entry s = .ok entry t from written)]
      exact others
    · rw [kept' index inside, kept index inside, kept_record, List.append_assoc, List.length_cons]
      congr 1
      by_cases here : start = index
      · rw [if_pos here, if_neg (by omega), if_pos (by omega), List.append_nil]
      · rw [if_neg here, List.nil_append]
        exact if_congr (by omega) rfl rfl

end LogSink

namespace Logger

/-- The same logger, with each sink watched under its place. -/
def watched (l : Logger) : Logger :=
  { l with sinks := l.sinks.zipIdx.map fun m => m.1.watched m.2 }

/-- What the entries of a logger depend on. -/
def manner (l : Logger) : LogLevel × Datum := (l.level, l.bound)

end Logger

namespace LoggerStep

def deliver (sinks : List LogSink) (entries : List (Text × LogEntry)) : Logging Unit :=
  entries.forM fun e => discard (LogSink.giveAll sinks e.2)

/-- The entry is what its call asks for: it has the time and the run, the level and the message of the call,
and of the contexts the rightmost value of each name. -/
structure Describes (s : LogState) (call : LogCall) (e : Text × LogEntry) : Prop where
  logger : e.1 = call.logger
  time : e.2.time = s.clock
  run : e.2.run = s.run
  level : e.2.level = call.level
  message : e.2.message = call.message
  context : Datum.Merges call.contexts e.2.context

/-- A logger of the family of a root, with the contexts on the way to it. -/
structure Descends (root : Logger) (contexts : List Datum) (l : Logger) : Prop where
  sinks : l.sinks = root.sinks
  level : l.level = root.level
  bound : Datum.Merges contexts l.bound

theorem Descends.child {root l : Logger} {contexts : List Datum} (h : Descends root contexts l)
    {context : Datum} (distinct : context.IsDistinct) :
    Descends root (contexts ++ [context]) (l.child context) :=
  ⟨h.sinks, h.level, h.bound.spread distinct⟩

/-- The loggers that are known are there, and are made along the ways that are known. -/
def Follows (root : Logger) (known : Members (List Datum)) (loggers : Members Logger) : Prop :=
  ∀ name, match known.get? name, loggers.get? name with
    | some contexts, some l => Descends root contexts l
    | none, none => True
    | _, _ => False

variable {root : Logger} {known : Members (List Datum)} {loggers : Members Logger}

theorem follows_root (name : Text) {root : Logger} (distinct : root.bound.IsDistinct) :
    Follows root [(name, [root.bound])] [(name, root)] := by
  intro other
  rw [Members.get?_singleton, Members.get?_singleton]
  by_cases same : other = name
  · simpa [same] using Descends.mk rfl rfl (Datum.Merges.single distinct)
  · simp [same]

theorem Follows.cases (h : Follows root known loggers) (name : Text) :
    (known.get? name = none ∧ loggers.get? name = none) ∨
      ∃ contexts l, known.get? name = some contexts ∧ loggers.get? name = some l ∧
        Descends root contexts l := by
  have both := h name
  split at both
  · rename_i contexts l way there
    exact .inr ⟨contexts, l, way, there, both⟩
  · rename_i unknown missing
    exact .inl ⟨unknown, missing⟩
  · exact both.elim

theorem Follows.step (h : Follows root known loggers) {step : LoggerStep}
    (distinct : step.context.IsDistinct) :
    Follows root (step.ways known) (step.family loggers) := by
  cases step with
  | log name level message context => exact h
  | child name parent context =>
    rcases h.cases parent with ⟨unknown, missing⟩ | ⟨contexts, l, way, there, descends⟩
    · simpa only [ways, family, unknown, missing] using h
    · simp only [ways, family, way, there]
      intro other
      by_cases same : other = name
      · subst same
        rw [Members.get?_set_self, Members.get?_set_self]
        exact descends.child distinct
      · rw [Members.get?_set_of_ne _ _ _ _ same, Members.get?_set_of_ne _ _ _ _ same]
        exact h other

theorem Follows.sent_describes (h : Follows root known loggers) (s : LogState) {step : LoggerStep}
    (distinct : step.context.IsDistinct) :
    List.Forall₂ (Describes s) ((step.call known).filter fun c => root.passes c.level)
      (step.sent s loggers) := by
  cases step with
  | child name parent context => exact .nil
  | log name level message context =>
    rcases h.cases name with ⟨unknown, missing⟩ | ⟨contexts, l, way, there, descends⟩
    · simp [call, sent, unknown, missing]
    · have same : l.passes level = root.passes level := by rw [Logger.passes, descends.level]; rfl
      simp only [call, sent, way, there, same]
      by_cases passes : root.passes level = true
      · simp only [List.filter_cons, List.filter_nil, passes, if_true]
        exact .cons ⟨rfl, rfl, rfl, rfl, rfl, descends.bound.spread distinct⟩ .nil
      · simp [passes]

theorem Follows.act_eq (h : Follows root known loggers) (s : LogState) (step : LoggerStep) :
    step.act loggers s = deliver root.sinks (step.sent s loggers) s := by
  cases step with
  | child name parent context => rfl
  | log name level message context =>
    rcases h.cases name with ⟨unknown, missing⟩ | ⟨contexts, l, way, there, descends⟩
    · simp only [act, sent, missing]
      rfl
    · have current : (get : Logging LogState) s = .ok s s := rfl
      simp only [act, sent, there, Logger.log]
      split
      · rw [bind_ok current, ← descends.sinks]
        change _ = (discard (LogSink.giveAll l.sinks _) >>= fun _ => pure ()) s
        rw [bind_pure]
        rfl
      · rfl

theorem sent_congr {s s' : LogState} (clock : s'.clock = s.clock) (run : s'.run = s.run)
    (loggers : Members Logger) (step : LoggerStep) : step.sent s' loggers = step.sent s loggers := by
  cases step with
  | child name parent context => rfl
  | log name level message context =>
    simp only [sent, Logger.entry, clock, run]

theorem sentAll_congr {s s' : LogState} (clock : s'.clock = s.clock) (run : s'.run = s.run)
    (loggers : Members Logger) (steps : List LoggerStep) :
    sentAll s' loggers steps = sentAll s loggers steps := by
  induction steps generalizing loggers with
  | nil => rfl
  | cons step rest ih => rw [sentAll, sentAll, sent_congr clock run, ih]

theorem exists_deliver {sinks : List LogSink} {entries : List (Text × LogEntry)}
    (passing : ∀ e ∈ entries, ∀ sink ∈ sinks, sink.PassesOn sinks.length e.2) (s : LogState) :
    ∃ s', deliver (sinks.zipIdx.map fun m => m.1.watched m.2) entries s = .ok () s' ∧
      s'.clock = s.clock ∧ s'.run = s.run ∧
      ∀ index < sinks.length, s'.kept index = s.kept index ++ entries.map Prod.snd := by
  induction entries generalizing s with
  | nil => exact ⟨s, rfl, rfl, rfl, fun index _ => (List.append_nil _).symm⟩
  | cons e rest ih =>
    obtain ⟨t, given, clock, run, kept⟩ :=
      LogSink.exists_giveAll (passing e List.mem_cons_self) 0 (Nat.zero_add _).le s
    obtain ⟨s', others, clock', run', kept'⟩ :=
      ih (fun other inside => passing other (List.mem_cons_of_mem e inside)) t
    refine ⟨s', ?_, clock'.trans clock, run'.trans run, fun index inside => ?_⟩
    · have first : (discard (LogSink.giveAll (sinks.zipIdx.map fun m => m.1.watched m.2) e.2) :
          Logging Unit) s = .ok () t := bind_ok given
      change (discard (LogSink.giveAll _ e.2) >>= fun _ => deliver _ rest) s = _
      rw [bind_ok first, others]
    · rw [kept' index inside, kept index inside, if_pos (by omega), List.map_cons, List.append_assoc]
      rfl

theorem Follows.exists_performAll {sinks : List LogSink}
    (watched : root.sinks = sinks.zipIdx.map fun m => m.1.watched m.2)
    (h : Follows root known loggers) {steps : List LoggerStep}
    (distinct : ∀ step ∈ steps, step.context.IsDistinct) {s : LogState}
    (passing : ∀ e ∈ sentAll s loggers steps, ∀ sink ∈ sinks, sink.PassesOn sinks.length e.2) :
    ∃ loggers' s', performAll loggers steps s = .ok loggers' s' ∧
      ∀ index < sinks.length,
        s'.kept index = s.kept index ++ (sentAll s loggers steps).map Prod.snd := by
  induction steps generalizing known loggers s with
  | nil => exact ⟨loggers, s, rfl, fun index _ => (List.append_nil _).symm⟩
  | cons step rest ih =>
    obtain ⟨t, first, clock, run, kept⟩ := exists_deliver
      (fun e (inside : e ∈ step.sent s loggers) => passing e (List.mem_append_left _ inside)) s
    rw [← watched, ← h.act_eq] at first
    -- The sinks leave the clock and the run, so the later entries are the same.
    have later := sentAll_congr clock run (step.family loggers) rest
    obtain ⟨loggers', s', others, kept'⟩ := ih (h.step (distinct step List.mem_cons_self))
      (fun other inside => distinct other (List.mem_cons_of_mem step inside))
      (fun e inside => passing e (List.mem_append_right _ (later ▸ inside)))
    refine ⟨loggers', s', ?_, fun index inside => ?_⟩
    · change (step.act loggers >>= fun _ => performAll (step.family loggers) rest) s = _
      rw [bind_ok first, others]
    · rw [kept' index inside, kept index inside, later, sentAll, List.map_append, List.append_assoc]

theorem Follows.sentAll_describes (h : Follows root known loggers) (s : LogState)
    {steps : List LoggerStep} (distinct : ∀ step ∈ steps, step.context.IsDistinct) :
    List.Forall₂ (Describes s) ((calls known steps).filter fun c => root.passes c.level)
      (sentAll s loggers steps) := by
  induction steps generalizing known loggers with
  | nil => exact .nil
  | cons step rest ih =>
    have own := distinct step List.mem_cons_self
    rw [calls, sentAll, List.filter_append]
    exact List.rel_append (h.sent_describes s own)
      (ih (h.step own) fun other inside => distinct other (List.mem_cons_of_mem step inside))

/-- With a logger that is kept its parent is kept. -/
def ClosedUnder (keep : Text → Bool) (steps : List LoggerStep) : Prop :=
  ∀ name parent context, child name parent context ∈ steps → keep name = true → keep parent = true

def AgreeOn (keep : Text → Bool) (loggers loggers' : Members Logger) : Prop :=
  ∀ name, keep name = true →
    (loggers'.get? name).map Logger.manner = (loggers.get? name).map Logger.manner

variable {keep : Text → Bool} {loggers' : Members Logger}

theorem logger_of_mem_sent {s : LogState} {step : LoggerStep} {e : Text × LogEntry}
    (h : e ∈ step.sent s loggers) : e.1 = step.logger := by
  cases step with
  | child name parent context => cases h
  | log name level message context =>
    simp only [sent] at h
    split at h
    · split at h
      · rw [List.mem_singleton.1 h]
        rfl
      · cases h
    · cases h

theorem AgreeOn.cases (h : AgreeOn keep loggers loggers') {name : Text} (kept : keep name = true) :
    (loggers.get? name = none ∧ loggers'.get? name = none) ∨
      ∃ l l', loggers.get? name = some l ∧ loggers'.get? name = some l' ∧
        l'.level = l.level ∧ l'.bound = l.bound := by
  have same := h name kept
  cases there : loggers.get? name with
  | none =>
    rw [there] at same
    exact .inl ⟨rfl, Option.map_eq_none_iff.1 same⟩
  | some l =>
    rw [there] at same
    obtain ⟨l', there', manner⟩ := Option.map_eq_some_iff.1 same
    exact .inr ⟨l, l', rfl, there', congrArg Prod.fst manner, congrArg Prod.snd manner⟩

theorem AgreeOn.family (h : AgreeOn keep loggers loggers') {step : LoggerStep}
    (kept : keep step.logger = true) (closed : ClosedUnder keep [step]) :
    AgreeOn keep (step.family loggers) (step.family loggers') := by
  cases step with
  | log name level message context => exact h
  | child name parent context =>
    rcases h.cases (closed name parent context (List.mem_singleton.2 rfl) kept) with
      ⟨missing, missing'⟩ | ⟨l, l', there, there', level, bound⟩
    · simpa only [LoggerStep.family, missing, missing'] using h
    · simp only [LoggerStep.family, there, there']
      intro other inside
      by_cases here : other = name
      · rw [here, Members.get?_set_self, Members.get?_set_self, Option.map_some, Option.map_some]
        simp only [Logger.manner, Logger.child, level, bound]
      · rw [Members.get?_set_of_ne _ _ _ _ here, Members.get?_set_of_ne _ _ _ _ here, h other inside]

theorem AgreeOn.sent (h : AgreeOn keep loggers loggers') {step : LoggerStep}
    (kept : keep step.logger = true) (s : LogState) : step.sent s loggers' = step.sent s loggers := by
  cases step with
  | child name parent context => rfl
  | log name level message context =>
    rcases h.cases (show keep name = true from kept) with
      ⟨missing, missing'⟩ | ⟨l, l', there, there', level, bound⟩
    · simp only [LoggerStep.sent, missing, missing']
    · simp only [LoggerStep.sent, there, there', Logger.passes, Logger.entry, level, bound]
      rfl

theorem AgreeOn.family_left (h : AgreeOn keep loggers loggers') {step : LoggerStep}
    (dropped : keep step.logger = false) : AgreeOn keep (step.family loggers) loggers' := by
  cases step with
  | log name level message context => exact h
  | child name parent context =>
    intro other inside
    have different : other ≠ name := by
      rintro rfl
      exact Bool.false_ne_true (dropped.symm.trans inside)
    rw [h other inside, LoggerStep.family]
    split
    · rw [Members.get?_set_of_ne _ _ _ _ different]
    · rfl

theorem AgreeOn.sentAll_filter (h : AgreeOn keep loggers loggers') {steps : List LoggerStep}
    (closed : ClosedUnder keep steps) (s : LogState) :
    (sentAll s loggers steps).filter (fun e => keep e.1) =
      sentAll s loggers' (steps.filter fun step => keep step.logger) := by
  induction steps generalizing loggers loggers' with
  | nil => rfl
  | cons step rest ih =>
    have later : ClosedUnder keep rest := fun name parent context inside =>
      closed name parent context (List.mem_cons_of_mem step inside)
    rw [sentAll, List.filter_append]
    cases kept : keep step.logger with
    | true =>
      have here : ClosedUnder keep [step] := fun name parent context inside =>
        closed name parent context (List.mem_singleton.1 inside ▸ List.mem_cons_self)
      have own : (step.sent s loggers).filter (fun e => keep e.1) = step.sent s loggers :=
        List.filter_eq_self.2 fun e inside => by rw [logger_of_mem_sent inside, kept]
      rw [own, ih (h.family kept here) later, List.filter_cons, if_pos kept, sentAll, h.sent kept]
    | false =>
      have none : (step.sent s loggers).filter (fun e => keep e.1) = [] :=
        List.filter_eq_nil_iff.2 fun e inside => by simp [logger_of_mem_sent inside, kept]
      rw [none, ih (h.family_left kept) later, List.filter_cons, if_neg (by simp [kept])]
      rfl

theorem sentAll_watched (name : Text) (root : Logger) (s : LogState) (steps : List LoggerStep) :
    sentAll s [(name, root.watched)] steps = sentAll s [(name, root)] steps := by
  have agree : AgreeOn (fun _ => true) [(name, root)] [(name, root.watched)] := by
    intro other _
    rw [Members.get?_singleton, Members.get?_singleton]
    split <;> rfl
  have closed : ClosedUnder (fun _ => true) steps := fun _ _ _ _ _ => rfl
  simpa using (agree.sentAll_filter closed s).symm

/-- What a family of loggers has done when its steps are through: each sink of the root was given the entries
that were passed on, in order and nothing else; these are the entries of the calls whose level is high enough,
one for each; and the entries of some loggers are the same without the steps of the others, as long as these
are made of the first. -/
structure Delivers (name : Text) (root : Logger) (steps : List LoggerStep) (s s' : LogState) : Prop where
  given : ∀ index < root.sinks.length,
    s'.kept index = s.kept index ++ (sentAll s [(name, root)] steps).map Prod.snd
  called : List.Forall₂ (Describes s)
    ((calls [(name, [root.bound])] steps).filter fun c => root.level.rank ≤ c.level.rank)
    (sentAll s [(name, root)] steps)
  apart : ∀ keep : Text → Bool, ClosedUnder keep steps →
    (sentAll s [(name, root)] steps).filter (fun e => keep e.1) =
      sentAll s [(name, root)] (steps.filter fun step => keep step.logger)

/-- A root whose sinks pass on what they are given, with contexts in which no name occurs twice, delivers
each call on a logger of its family exactly once to each sink. -/
theorem performAll_delivers (name : Text) (root : Logger) (steps : List LoggerStep) (s : LogState)
    (bound : root.bound.IsDistinct) (contexts : ∀ step ∈ steps, step.context.IsDistinct)
    (passing : ∀ e ∈ sentAll s [(name, root)] steps, ∀ sink ∈ root.sinks,
      sink.PassesOn root.sinks.length e.2) :
    ∃ loggers s', performAll [(name, root.watched)] steps s = .ok loggers s' ∧
      Delivers name root steps s s' := by
  have start : Follows root.watched [(name, [root.bound])] [(name, root.watched)] :=
    follows_root name bound
  obtain ⟨loggers, s', performed, given⟩ := start.exists_performAll rfl contexts
    (by rw [sentAll_watched]; exact passing)
  have described := start.sentAll_describes s contexts
  rw [sentAll_watched] at given described
  exact ⟨loggers, s', performed, given, described,
    fun keep closed => AgreeOn.sentAll_filter (fun _ _ => rfl) closed s⟩

/-- A child of a child that binds a name again, and a call of the root below its level. The first sink cannot
write its file. -/
theorem performAll_delivers_nested :
    let root : Logger :=
      ⟨[LogSink.file "x.log", LogSink.record 2], .info, .record [("a", .ofNat 1), ("b", .ofNat 1)]⟩
    let steps := [child "first" "root" (.record [("b", .ofNat 2), ("c", .ofNat 2)]),
      child "second" "first" (.record [("c", .ofNat 3)]), log "root" .debug "hidden" (.record []),
      log "second" .warn "shown" (.record [("d", .ofNat 4)])]
    let s : LogState := ⟨[], none, none, [], [], []⟩
    root.bound.IsDistinct ∧ (∀ step ∈ steps, step.context.IsDistinct) ∧
      (∀ e ∈ sentAll s [("root", root)] steps, ∀ sink ∈ root.sinks,
        sink.PassesOn root.sinks.length e.2) ∧
      ∃ loggers s', performAll [("root", root.watched)] steps s = .ok loggers s' ∧
        Delivers "root" root steps s s' := by
  intro root steps s
  have bound : root.bound.IsDistinct := Datum.isDistinct_object (show List.Nodup _ by decide)
  have contexts : ∀ step ∈ steps, step.context.IsDistinct := by
    intro step inside
    simp only [steps, List.mem_cons, List.not_mem_nil, or_false] at inside
    rcases inside with rfl | rfl | rfl | rfl <;>
      exact Datum.isDistinct_object (show List.Nodup _ by decide)
  have passing : ∀ e ∈ sentAll s [("root", root)] steps, ∀ sink ∈ root.sinks,
      sink.PassesOn root.sinks.length e.2 := by
    intro e _ sink inside
    simp only [root, List.mem_cons, List.not_mem_nil, or_false] at inside
    rcases inside with rfl | rfl
    · exact LogSink.passesOn_file _ _ _
    · exact LogSink.passesOn_record le_rfl _
  exact ⟨bound, contexts, passing, performAll_delivers "root" root steps s bound contexts passing⟩

def given? (root : Logger) (steps : List LoggerStep) (index : Nat) : Option (List LogEntry) :=
  match performAll [("root", root.watched)] steps ⟨[], none, none, [], [], []⟩ with
  | .ok _ s => some (s.kept index)
  | .error _ _ => none

/-- Sinks that never fail and do not pass on what they are given. The first clears the context, which is gone
for the sink after it. The second logs itself, so that the sink after it gets the calls the other way round.
The third starts a run, which the entries of other loggers carry from then on. And of an error that is logged
as context only the name is a member, so that a bound message stays. -/
theorem not_delivers_of_changing :
    let context : Datum := .record [("k", .string "v")]
    let clearing : LogSink := fun e => return { e with context := .object [] }
    let inner : Logger := ⟨[fun e => return e, fun e => LogSink.record 1 e], .info, .object []⟩
    let logging : LogSink := fun e => do
      inner.log .info "second" .undefined
      return e
    let starting : LogSink := fun e => do
      modify fun s => { s with run := some "new" }
      return e
    let file : LogSink := LogSink.file "x.log"
    let bound : Datum := .record [("message", .string "m")]
    let error : Datum := .error "E" "x" (some "s")
    (given? ⟨[clearing, file], .info, .object []⟩ [log "root" .info "first" context] 1 =
        some [⟨none, .info, none, "first", .object []⟩] ∧
      Datum.rightmost? [.object [], context] "k" = some (.string "v")) ∧
      (given? ⟨[logging, file], .info, .object []⟩ [log "root" .info "first" context] 1).map
        (List.map LogEntry.message) = some [("second" : Text), ("first" : Text)] ∧
      (given? ⟨[starting], .info, .object []⟩ [child "other" "root" .undefined,
        log "other" .info "first" .undefined, log "root" .info "second" .undefined] 0).map
        (List.map LogEntry.run) = some [none, some ("new" : Text)] ∧
      given? ⟨[file], .info, bound⟩ [log "root" .info "first" error] 0 =
        some [⟨none, .info, none, "first", bound.spread error⟩] ∧
      (bound.spread error).members.get? "message" = some (.string "m") := by
  intro context clearing inner logging starting file bound error
  have distinct : bound.IsDistinct := Datum.isDistinct_object (show List.Nodup _ by decide)
  have distinct' : error.IsDistinct := show List.Nodup _ by decide
  have shown : context.members.get? "k" = some (.string "v") :=
    Datum.get?_object (show List.Nodup _ by decide) _
  have stays : bound.members.get? "message" = some (.string "m") :=
    Datum.get?_object (show List.Nodup _ by decide) _
  refine ⟨⟨rfl, ?_⟩, rfl, rfl, rfl, ?_⟩
  · change Datum.rightmost? ([.object []] ++ [context]) "k" = _
    rw [Datum.rightmost?_append, shown]
    rfl
  · rw [distinct.get?_spread distinct', stays]
    rfl

end LoggerStep

end LineTemplate

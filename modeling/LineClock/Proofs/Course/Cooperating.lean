import LineClock.Proofs.Counter
import LineClock.Proofs.Course.Accompanying
import LineClock.Proofs.Course.Parallel
import LineClock.Proofs.Course.Registering
import LineClock.Proofs.Course.Sharing

/-!
# Two registries and a hook that was there first

A course on a machine with a hook and two registries, which are switched one inside the other or one
after the other. Every profiler books all that is announced while it is on. The hook is told of what it
would be told of without profilers and has its place again afterwards, unless it was told of something
while both registries listened.

Main statement: `registries_cooperate`.
-/

namespace LineClock.Course

open Machine Engine

/-! ## Before the hook in the slot and before the tool at the id -/

/-- Two registries for the trace slot, in which there is a script. Nobody monitors. -/
structure SlotReady (h : ScriptId) (a b : RegistryId) (e : Engine) : Prop where
  backend : ∀ r ∈ [a, b], (e.registry r).backend = .slot
  there : 0 < e.registries.entries.length
  hook : e.traceHook? = some (.script h)
  silent : ∀ tool kind, e.facility.callback? tool kind = none

/-- Two registries for the tool id, which a tool holds that switched no location off. Neither of them
took it over, and nobody traces. -/
structure ToolReady (a b : RegistryId) (e : Engine) : Prop where
  unguarded : ∀ r ∈ [a, b], Unguarded r e
  monitored : e.monitored = true
  bare : e.traceHook? = none
  held : HeldByTool e.facility
  taken : (e.facility.holder? Facility.profilerTool).isSome
  clear : e.facility.Clear
  vacated : ∀ r ∈ [a, b], Vacated e.facility False (e.share r)

section

variable {a b : RegistryId} {h : ScriptId} {start : Engine}

theorem SlotReady.attends (ready : SlotReady h a b start) :
    Attentive .slot a b start
      (fun | .trace _ _ => some h | .monitor _ => none)
      (SlotStand start.registries start.facility h a b) where
  piling _ := SlotPile.piling ready.backend
  spends {torn pile e} q clock frames := by
    obtain ⟨bottom, hook, below, slot, stacked⟩ := q.stacked
    exact ⟨q.registries, q.facility,
      ⟨bottom, hook, below, slot, stacked.congr fun _ _ _ _ perched => perched⟩, q.once⟩
  trace q manned sound wraps lit event := slot_heeded q manned sound lit ready.there wraps event
  monitor {_ _ x} q manned _ _ event := ⟨x, slot_unheard ready.silent q manned event⟩
  traceAlone {y frame clock frames} alone lit event := by
    have there : (Overheard.scripts.engine y).traceHook? = some (.script h) := by
      show y.engine.traceHook? = _
      rw [alone]
      exact ready.hook
    rw [Scripts.answer_announceTrace, there, ← lit]
    cases Overheard.scripts.hopsAt y <;> rfl
  monitorAlone {y clock frames} alone event := by
    have targets : (Overheard.scripts.engine y).facility.targets event = [] := by
      refine targets_silent (fun tool kind => ?_) event
      show y.engine.facility.callback? tool kind = none
      rw [alone]
      exact ready.silent tool kind
    rw [Scripts.answer_announceEvent, targets]
    exact ite_self _
  begins _ _ := ⟨rfl, rfl, ⟨.script h, .script h, .inl rfl, ready.hook, rfl⟩, List.nodup_nil⟩
  back whole q := by
    obtain ⟨bottom, hook, below, slot, rfl⟩ := q.stacked
    have own := below.resolve_right fun there => whole there.1
    rw [slot, own, ready.hook, q.facility]
    exact ⟨rfl, .refl _⟩

theorem ToolReady.attends (ready : ToolReady a b start) :
    Attentive .tool a b start
      (fun | .trace _ _ => none | .monitor event => listener start.facility event)
      (ToolStand start.facility a b) where
  piling torn := ToolPile.piling _ torn ready.taken
  spends {torn pile e} q clock frames := by
    obtain ⟨bottom, ground, tiered⟩ := q.tiered
    refine ⟨fun r mem => (q.unguarded r mem).same rfl rfl, q.monitored, q.bare, q.borrowed,
      ⟨bottom, ground, ?_⟩, q.idle, q.once⟩
    refine tiered.congr ?_ ?_
    · exact fun _ _ => rfl
    · exact fun _ _ => rfl
  trace {_ _ x _} q manned _ _ lit event := ⟨x, tool_unheard lit q manned event⟩
  monitor q manned sound wraps event :=
    tool_heeded ready.held ready.clear ready.taken q manned sound wraps event
  traceAlone {y frame clock frames} alone lit event := by
    have bare : (Overheard.scripts.engine y).traceHook? = none := by
      show y.engine.traceHook? = _
      rw [alone]
      exact ready.bare
    rw [Scripts.answer_announceTrace, bare]
    exact congrArg (fun on => (Except.ok on, y)) lit
  monitorAlone {y clock frames} alone event := by
    have same : y.engine.facility = start.facility := by rw [alone]
    have monitored : y.engine.monitored = true := by
      rw [alone]
      exact ready.monitored
    have scripted : ∀ {tool kind hook}, y.engine.facility.callback? tool kind = some hook →
        tool = Facility.profilerTool ∧ ∃ id, hook = .script id := by
      rw [same]
      exact ready.held _ _ _
    have others : ∀ tool kind, tool ≠ Facility.profilerTool →
        y.engine.facility.callback? tool kind = none := by
      intro tool kind other
      cases there : y.engine.facility.callback? tool kind with
      | none => rfl
      | some hook => exact absurd (scripted there).1 other
    have inert : ∀ hook, y.engine.facility.callback? Facility.profilerTool event.kind = some hook →
      Inert event.kind y.engine hook := fun hook there => .inl (scripted there).2
    have announced := announce_inert monitored others inert
    rw [same] at announced
    exact announced
  begins _ whole := by
    refine ⟨ready.unguarded, ready.monitored, ready.bare, ⟨rfl, rfl, fun _ _ _ => rfl, rfl, rfl⟩,
      ⟨_, .inl fun _ _ => rfl, fun _ _ => rfl⟩, fun r mem _ => ?_, List.nodup_nil⟩
    exact (ready.vacated r mem).mono whole
  back {torn e} whole q := by
    obtain ⟨bottom, ground, tiered⟩ := q.tiered
    have own := ground.resolve_right fun there => whole there.1
    refine ⟨q.bare.trans ready.bare.symm, q.borrowed.holder, fun tool kind => ?_, q.borrowed.events⟩
    by_cases ours : tool = Facility.profilerTool ∧ kind ∈ ourKinds
    · rw [ours.1, tiered kind ours.2, own kind ours.2]
    · exact q.borrowed.others tool kind ours

end

/-- Two registries that listen in the same way. Neither listens now, and wrappers switch profilers of
theirs that wrap. -/
structure AtRest (k : Backend) (a b : RegistryId) (e : Engine) : Prop where
  idle : Manned [a, b] {} e
  scopes : ∀ id scope, (e.routine id).scope = some scope → Wrapping a b e scope.registry scope.profiler
  hooks : match k with
    | .slot => ∃ h, SlotReady h a b e
    | .tool => ToolReady a b e

/-! ## Moves -/

/-- Whether a move runs a program, lets time pass, or switches a profiler that wraps of one of two
registries. -/
def Move.Admitted (a b : RegistryId) (e : Engine) : Move → Prop
  | .task (.enable p) | .task (.disable p) => Wrapping a b e (e.profiler p).registry p
  | .task (.advance _) | .call _ | .generator _ | .resume _ => True
  | .task _ => False

instance (a b : RegistryId) (e : Engine) (m : Move) : Decidable (m.Admitted a b e) := by
  unfold Move.Admitted
  split <;> infer_instance

/-- Who is on after a move. -/
def Move.switch (owner : ProfilerId → RegistryId) (m : Muster) : Move → Muster
  | .task (.enable p) => m.raise (owner p) p
  | .task (.disable p) => m.lower (owner p) p
  | _ => m

/-- Whether a registry stops to listen only before those that began earlier. -/
def inOrder (owner : ProfilerId → RegistryId) : Muster → List Move → Bool
  | _, [] => true
  | m, .task (.disable p) :: rest =>
    (!m.closes (owner p) p || m.pile.head? == some (owner p)) &&
      inOrder owner (m.lower (owner p) p) rest
  | m, move :: rest => inOrder owner (move.switch owner m) rest

/-- Whether a reply says how a program went. -/
def Reply.ends : Reply → Bool
  | .ran _ | .left _ => true
  | _ => false

section

variable {k : Backend} {a b r : RegistryId} {start e : Engine} {p : ProfilerId}
  {audience : Announcement → Option ScriptId} {Q : Prop → List RegistryId → Engine → Prop}
  {m : Muster} {x y : Overheard} {st st' : Stage Overheard}

/-- A profiler belongs to the registry to which it belonged at the start. -/
theorem Accompanied.registry (h : Accompanied k a b start Q m x y)
    (own : (start.profiler p).registry ∈ [a, b]) :
    (x.engine.profiler p).registry = (start.profiler p).registry := by
  rw [h.booked p own, booked_registry]

/-- Doing a task. -/
theorem perform_task (t : Task) (profiled : Bool) (budget : Nat) (st : Stage Overheard) :
    (Move.task t).perform Overheard.scripts (Overheard.host profiled) budget st =
      ((t.act.run st.state.engine).1,
        { st with state := { st.state with engine := (t.act.run st.state.engine).2 } }) := rfl

/-- Where a profiler would be switched nothing is done instead. -/
theorem perform_still {t : Task} (switches : t.switches = true) (budget : Nat) (st : Stage Overheard) :
    (Move.task t).still.perform Overheard.scripts (Overheard.host false) budget st = (.done, st) := by
  have instead : (Move.task t).still = .task (.advance 0) := congrArg Move.task (if_pos switches)
  have clock : st.state.engine.clock.satAdd 0 = st.state.engine.clock := Counter.satAdd_zero _
  rw [instead, perform_task]
  show (Reply.done, { st with state := { st.state with
    engine := { st.state.engine with clock := st.state.engine.clock.satAdd 0 } } }) = _
  rw [clock]

/-- A move leads to related machines, and says the same of how a program went. -/
def Paired (k : Backend) (a b : RegistryId) (start : Engine)
    (Q : Prop → List RegistryId → Engine → Prop) (m : Muster) (left right : Reply × Stage Overheard) :
    Prop :=
  [left.1].filter Reply.ends = [right.1].filter Reply.ends ∧
    Concert (Accompanied k a b start Q) m left.2 right.2

/-- A profiler is switched on the first machine. -/
theorem switch_together (concert : Concert (Accompanied k a b start Q) m st st') {t : Task}
    (switches : t.switches = true) {n : Nat} {m' : Muster}
    (run : t.act.run st.state.engine = (.number n, e))
    (after : Accompanied k a b start Q m' { st.state with engine := e } st'.state) (budget : Nat) :
    Paired k a b start Q m'
      ((Move.task t).perform Overheard.scripts (Overheard.host true) budget st)
      ((Move.task t).still.perform Overheard.scripts (Overheard.host false) budget st') := by
  rw [perform_task, run, perform_still switches]
  exact ⟨rfl, concert.withState after⟩

/-- **A move** on both machines. -/
theorem move_together (attends : Attentive k a b start audience Q)
    (scopes : ∀ id scope, (start.routine id).scope = some scope →
      Wrapping a b start scope.registry scope.profiler)
    (concert : Concert (Accompanied k a b start Q) m st st') {move : Move}
    (admitted : move.Admitted a b start) {rest : List Move}
    (order : inOrder (fun p => (start.profiler p).registry) m (move :: rest) = true) (budget : Nat) :
    inOrder (fun p => (start.profiler p).registry)
        (move.switch (fun p => (start.profiler p).registry) m) rest = true ∧
      Paired k a b start Q (move.switch (fun p => (start.profiler p).registry) m)
        (move.perform Overheard.scripts (Overheard.host true) budget st)
        (move.still.perform Overheard.scripts (Overheard.host false) budget st') := by
  have rapport := Accompanied.rapport attends scopes
  have related := concert.related
  -- programs answer the same
  have runs : ∀ {left right : Reply × Stage Overheard},
      Concert.After (fun _ => False) (Accompanied k a b start Q) m left right →
        Paired k a b start Q m left right := fun after => by
    obtain ⟨reply, after⟩ := after.resolve_left id
    exact ⟨congrArg (fun reply => [reply].filter Reply.ends) reply, after⟩
  cases move with
  | call routine => exact ⟨order, runs (concert.call rapport routine)⟩
  | generator routine => exact ⟨order, runs (concert.generator rapport routine)⟩
  | resume i => exact ⟨order, runs (concert.resume rapport i)⟩
  | task t =>
    cases t with
    | enable p =>
      have crew : Wrapping a b start (start.profiler p).registry p := admitted
      obtain ⟨n, e, enabled, after⟩ := related.enable attends crew
      have run := run_enable_act (related.registry crew.1.1)
      rw [enabled] at run
      exact ⟨order, switch_together concert rfl run after budget⟩
    | disable p =>
      have crew : Wrapping a b start (start.profiler p).registry p := admitted
      obtain ⟨last, order⟩ := Bool.and_eq_true_iff.mp order
      have top : m.closes (start.profiler p).registry p = true →
          m.pile.head? = some (start.profiler p).registry := by
        intro closes
        rw [closes] at last
        exact eq_of_beq last
      obtain ⟨n, e, disabled, after⟩ := related.disable attends crew top
      have run := run_disable_act (related.registry crew.1.1)
      rw [disabled] at run
      exact ⟨order, switch_together concert rfl run after budget⟩
    | advance ticks =>
      refine ⟨order, rfl, concert.withState ?_⟩
      exact related.spends attends (congrArg (Counter.satAdd · ticks) related.abides.clock)
        related.abides.frames
    | _ => exact admitted.elim

/-- **Moves** on both machines, one after the other. -/
theorem moves_together (attends : Attentive k a b start audience Q)
    (scopes : ∀ id scope, (start.routine id).scope = some scope →
      Wrapping a b start scope.registry scope.profiler) (budget : Nat) (moves : List Move) :
    ∀ {m : Muster} {st st' : Stage Overheard}, Concert (Accompanied k a b start Q) m st st' →
      (∀ move ∈ moves, move.Admitted a b start) →
      inOrder (fun p => (start.profiler p).registry) m moves = true →
      let left := play Overheard.scripts (Overheard.host true) budget (onThread start.thread moves) st
      let right := play Overheard.scripts (Overheard.host false) budget
        (onThread start.thread (moves.map Move.still)) st'
      left.1.filter Reply.ends = right.1.filter Reply.ends ∧
        ∃ m', Concert (Accompanied k a b start Q) m' left.2 right.2 := by
  induction moves with
  | nil => exact fun concert _ _ => ⟨rfl, _, concert⟩
  | cons move rest ih =>
    intro m st st' concert admitted order
    obtain ⟨clock, frames, alone⟩ := concert.related.alone
    have thread' : st'.state.engine.thread = start.thread := by rw [alone]
    have thread : st.state.engine.thread = start.thread := concert.related.abides.thread.trans thread'
    have here : (Turn.mk start.thread move).enter Overheard.scripts st = st := by
      rw [← thread]
      rfl
    have here' : (Turn.mk start.thread move.still).enter Overheard.scripts st' = st' := by
      rw [← thread']
      rfl
    obtain ⟨order', reply, after⟩ := move_together attends scopes concert
      (admitted move List.mem_cons_self) order budget
    obtain ⟨replies, last⟩ := ih after (fun m mem => admitted m (List.mem_cons_of_mem _ mem)) order'
    rw [List.map_cons, play_onThread here, play_onThread here']
    refine ⟨?_, last⟩
    have first : ∀ (r : Reply) (rs : List Reply),
        (r :: rs).filter Reply.ends = [r].filter Reply.ends ++ rs.filter Reply.ends := fun r rs =>
      List.filter_append [r] rs
    exact (first _ _).trans ((congrArg₂ (· ++ ·) reply replies).trans (first _ _).symm)

/-- Hooks are attended to in one way or the other. -/
theorem AtRest.attends (ready : AtRest k a b start) :
    ∃ audience Q, Attentive k a b start audience Q := by
  have hooks := ready.hooks
  cases k with
  | slot =>
    obtain ⟨h, there⟩ := hooks
    exact ⟨_, _, there.attends⟩
  | tool => exact ⟨_, _, ToolReady.attends hooks⟩

/-- **Two registries and a hook that was there first.** A course switches profilers of two registries
around calls on one thread, so that the registry that began to listen last is the first to stop. What
programs do is as without profilers, and every profiler books all that is announced while it is on. If
the hook was told of nothing while both registries listened, it was told of the same as without
profilers, and has its place again when both are idle. -/
theorem registries_cooperate (ready : AtRest k a b start) (budget : Nat) (moves : List Move)
    (admitted : ∀ move ∈ moves, move.Admitted a b start)
    (order : inOrder (fun p => (start.profiler p).registry) {} moves = true) :
    let profiled := play Overheard.scripts (Overheard.host true) budget (onThread start.thread moves)
      ⟨{ engine := start }, []⟩
    let alone := play Overheard.scripts (Overheard.host false) budget
      (onThread start.thread (moves.map Move.still)) ⟨{ engine := start }, []⟩
    let x := profiled.2.state
    profiled.1.filter Reply.ends = alone.1.filter Reply.ends ∧
      (∀ p, (start.profiler p).registry ∈ [a, b] →
        x.engine.profiler p = booked k p (start.profiler p) x.soundings) ∧
      ((∀ h ∈ x.heard, h.2.overlaps a b = false) →
        x.told = alone.2.state.told ∧
          ((∀ r ∈ [a, b], (x.engine.dispatchOf r).active = []) →
            x.engine.traceHook? = start.traceHook? ∧ start.facility.Alike x.engine.facility)) := by
  intro profiled alone x
  obtain ⟨audience, Q, attends⟩ := ready.attends
  have whole : ¬ Torn a b { engine := start } := by
    rintro ⟨h, none, -⟩
    cases none
  have beside : Accompanied k a b start Q {} { engine := start } { engine := start } :=
    ⟨⟨_, _, rfl⟩, .refl _, ready.idle, .nobody _, attends.begins _ whole, .inr rfl, fun _ _ => rfl⟩
  have concert : Concert (Accompanied k a b start Q) {} (⟨{ engine := start }, []⟩ : Stage Overheard)
      (⟨{ engine := start }, []⟩ : Stage Overheard) := ⟨rfl, fun _ mem => (by cases mem), beside⟩
  obtain ⟨replies, m, last⟩ := moves_together attends ready.scopes budget moves concert admitted order
  have related : Accompanied k a b start Q m x alone.2.state := last.related
  refine ⟨replies, related.booked, fun apart => ?_⟩
  have whole : ¬ Torn a b x := by
    rintro ⟨h, told, overlaps⟩
    rw [apart h told] at overlaps
    cases overlaps
  refine ⟨related.told.resolve_left whole, fun idle => attends.back whole ?_⟩
  have pile : m.pile = [] := by
    refine List.eq_nil_iff_forall_not_mem.mpr fun r listens => ?_
    have mem := within related.owned listens
    refine (related.sound.listens r).mp listens ?_
    rw [← related.manned.active r mem]
    exact idle r mem
  have q := related.pile
  rw [pile] at q
  exact q

end

/-! ## Two profilers of one routine -/

/-- Two registries before a hook, each with a profiler for the same routine, which a wrapper of the
second profiler calls as well. -/
def duo (k : Backend) : Engine :=
  let two := (answer (newRegistry (.fixed k) true false) (start k true true)).2
  let made := ((newProfiler 1 none .shared .files).run
    ((newProfiler 0 none .shared .files).run two).2).2
  let tasks : List Task := [.define (oneUnit "f" "f.py"), .add 0 0, .wrapper 1 0]
  let given := tasks.foldl (fun e t => (t.act.run e).2) made
  match k with
  | .slot => given.withHook (some (.script 0))
  | .tool => { given with facility := listening }

theorem ready_duo (k : Backend) : AtRest k 0 1 (duo k) := by
  have idle : ∀ r ∈ [0, 1], (duo k).dispatchOf r = {} := by
    cases k <;> decide +kernel
  refine ⟨⟨fun r mem => ?_, fun r mem => ?_, fun r mem => ?_, fun r mem => ?_⟩, fun id scope there => ?_,
    ?_⟩
  · rw [idle r mem]
  · rw [idle r mem]
    rfl
  · rw [idle r mem]
  · rw [idle r mem]
  · have once : (duo k).routines.keys.Nodup := by cases k <;> decide +kernel
    have all : ∀ r ∈ (duo k).routines.entries, ∀ scope ∈ r.2.scope,
        Wrapping 0 1 (duo k) scope.registry scope.profiler := by
      cases k <;> decide +kernel
    unfold Engine.routine Assoc.getD at there
    cases found : (duo k).routines.get? id with
    | none =>
      rw [found] at there
      cases there
    | some routine =>
      rw [found] at there
      exact all (id, routine) ((Assoc.mem_entries_iff once id routine).mpr found) scope there
  · cases k with
    | slot =>
      refine ⟨0, by decide +kernel, by decide +kernel, by decide +kernel, fun tool kind => ?_⟩
      have blank : (duo .slot).facility = {} := by decide +kernel
      rw [blank]
      rfl
    | tool =>
      refine ⟨fun r mem => ⟨?_, ?_, ?_, ?_⟩, by decide +kernel, by decide +kernel, heldByTool_listening,
        by decide +kernel, by decide +kernel, fun r mem => ⟨?_, ?_, False.elim⟩⟩
      all_goals
        revert r
        decide +kernel

/-- Moves around two registries, with their profilers or without. -/
def playDuo (k : Backend) (profiled : Bool) (moves : List Move) : Overheard :=
  (play Overheard.scripts (Overheard.host profiled) 9 (onThread 0 moves) ⟨{ engine := duo k }, []⟩).2.state

/-- The first profiler is on around a call, and later the wrapper switches the second one. -/
def inTurn : List Move := [.task (.enable 0), .call 0, .task (.disable 0), .call 1]

theorem registries_cooperate_in_turn :
    let x := playDuo .slot true inTurn
    AtRest .slot 0 1 (duo .slot) ∧ (∀ move ∈ inTurn, move.Admitted 0 1 (duo .slot)) ∧
      inOrder (fun p => ((duo .slot).profiler p).registry) {} inTurn = true ∧
      (∀ h ∈ x.heard, h.2.overlaps 0 1 = false) ∧
      (∀ r ∈ [0, 1], (x.engine.dispatchOf r).active = []) ∧
      x.told = (playDuo .slot false (inTurn.map Move.still)).told ∧ x.told.length = 6 ∧
      (∀ p ∈ [0, 1], x.engine.profiler p = booked .slot p ((duo .slot).profiler p) x.soundings ∧
        x.engine.profiler p ≠ (duo .slot).profiler p) ∧
      x.engine.traceHook? = some (.script 0) ∧ (duo .slot).facility.Alike x.engine.facility := by
  have thread : (duo .slot).thread = 0 := by decide +kernel
  have admitted : ∀ move ∈ inTurn, move.Admitted 0 1 (duo .slot) := by decide +kernel
  have order : inOrder (fun p => ((duo .slot).profiler p).registry) {} inTurn = true := by
    decide +kernel
  have apart : ∀ h ∈ (playDuo .slot true inTurn).heard, h.2.overlaps 0 1 = false := by
    decide +kernel
  have idle : ∀ r ∈ [0, 1], ((playDuo .slot true inTurn).engine.dispatchOf r).active = [] := by
    decide +kernel
  have own : ∀ p ∈ [0, 1], ((duo .slot).profiler p).registry ∈ [0, 1] := by decide +kernel
  have changed : ∀ p ∈ [0, 1],
      (playDuo .slot true inTurn).engine.profiler p ≠ (duo .slot).profiler p := by decide +kernel
  have cooperate := registries_cooperate (ready_duo .slot) 9 inTurn admitted order
  rw [thread] at cooperate
  unfold playDuo at apart idle changed ⊢
  obtain ⟨-, booked, whole⟩ := cooperate
  obtain ⟨told, back⟩ := whole apart
  refine ⟨ready_duo .slot, admitted, order, apart, idle, told, by decide +kernel,
    fun p mem => ⟨booked p (own p mem), changed p mem⟩, ?_, (back idle).2⟩
  rw [(back idle).1]
  decide +kernel

/-- Both profilers are on, one inside the other, around two calls. -/
def nested : List Move :=
  [.task (.enable 0), .task (.enable 1), .call 0, .call 0, .task (.disable 1), .task (.disable 0)]

/-- The first profiler is switched off before the second one, around a call. -/
def crossed : List Move :=
  [.task (.enable 0), .task (.enable 1), .task (.disable 0), .call 0, .task (.disable 1)]

/-- Whether in the slot or at the tool id, the hook is not told of a second call while both registries
listen, and does not get its place back. Where the first one stops before the second one, that records
nothing any more, and the hook does not get its place back either. -/
theorem nested_hook_lost :
    let slot := playDuo .slot true nested
    let tool := playDuo .tool true nested
    let torn := playDuo .slot true crossed
    slot.told.length < (playDuo .slot false (nested.map Move.still)).told.length ∧
      slot.engine.traceHook? ≠ (duo .slot).traceHook? ∧
      tool.told.length < (playDuo .tool false (nested.map Move.still)).told.length ∧
      tool.engine.facility.callback? Facility.profilerTool .line ≠
        (duo .tool).facility.callback? Facility.profilerTool .line ∧
      torn.engine.profiler 1 = (duo .slot).profiler 1 ∧
      torn.engine.traceHook? ≠ (duo .slot).traceHook? ∧
      ∀ x ∈ [slot, tool, torn], ∀ r ∈ [0, 1], (x.engine.dispatchOf r).active = [] := by
  decide +kernel

end LineClock.Course

import LineClock.Engine.Host
import LineClock.Proofs.Machine.Simulation

/-!
# Delivery of events

What announcing an event leaves, over any scripts, from what the hooks that hear of it leave.
-/

namespace LineClock

open Machine Engine

variable {σ : Type} (s : Scripts σ)

namespace Engine

/-- The trace slots with a hook, or none, in that of a thread. -/
def hookAt (slots : Assoc ThreadKey TraceHook) (th : ThreadKey) :
    Option TraceHook → Assoc ThreadKey TraceHook
  | some hook => slots.set th hook
  | none => slots.erase th

/-- The engine with a hook, or none, in the trace slot of the running thread. -/
def withHook (e : Engine) (hook : Option TraceHook) : Engine :=
  { e with slots := hookAt e.slots e.thread hook }

@[simp] theorem run_setTraceHook (e : Engine) (hook : Option TraceHook) :
    (setTraceHook hook).run e = ((), e.withHook hook) := by
  cases hook <;> rfl

theorem withHook_slots (e : Engine) (hook : Option TraceHook) (th : ThreadKey) :
    (e.withHook hook).slots.get? th = if th = e.thread then hook else e.slots.get? th := by
  cases hook with
  | some h =>
    change (e.slots.set e.thread h).get? th = _
    rw [Assoc.get?_set]
    by_cases here : th = e.thread
    · simp [here]
    · simp [here, Ne.symm here]
  | none =>
    change (e.slots.erase e.thread).get? th = _
    rw [Assoc.get?_erase]
    by_cases here : th = e.thread
    · simp [here]
    · simp [here, Ne.symm here]

@[simp] theorem withHook_traceHook? (e : Engine) (hook : Option TraceHook) :
    (e.withHook hook).traceHook? = hook := by
  have slots := withHook_slots e hook e.thread
  rw [if_pos rfl] at slots
  cases hook <;> exact slots

end Engine

namespace Scripts

@[simp] theorem run_run {α : Type} (act : StateM Engine α) (st : σ) :
    (s.run act).run st =
      ((act.run (s.engine st)).1, s.withEngine st (act.run (s.engine st)).2) := rfl

/-- Over the bare engine there is nothing around it. -/
theorem quiet_run {α : Type} (act : StateM Engine α) : quiet.run act = act := rfl

@[simp] theorem answer_tryRun {ε α : Type} (act : ExceptT ε (StateM Engine) α) (st : σ) :
    answer (s.tryRun act) st =
      ((answer act (s.engine st)).1, s.withEngine st (answer act (s.engine st)).2) := rfl

/-- How many profilers' hooks can pass on one event. -/
def hopsAt (st : σ) : Nat := (s.engine st).registries.entries.length + 1

theorem run_hops (st : σ) : s.hops.run st = (s.hopsAt st, st) := rfl

/-! ## Trace events -/

theorem answer_announceTrace (frame : Frame) (event : TraceEvent) (st : σ) :
    answer (s.announceTrace frame event) st =
      match (s.engine st).traceHook? with
      | none => (.ok frame.linesOn, st)
      | some hook =>
        match answer (s.deliverTrace (s.hopsAt st) hook frame event) st with
        | (.ok on, st') => (.ok on, st')
        | (.error err, st') => (.error err, s.withEngine st' ((s.engine st').withHook none)) := by
  unfold announceTrace
  rw [answer_get_bind]
  cases (s.engine st).traceHook? with
  | none => rfl
  | some hook =>
    simp only
    rw [answer_liftM_bind (s.run_hops st), answer_tryCatch]
    rcases answer (s.deliverTrace (s.hopsAt st) hook frame event) st with ⟨o, st'⟩
    cases o <;> rfl

/-- An event that the profilers' hook keeps to itself. -/
theorem answer_deliverTrace_kept {registry : RegistryId} {frame : Frame} {event : TraceEvent} {st : σ}
    {e' : Engine} (h : (takeTrace registry frame event).run (s.engine st) = (none, e'))
    (hops serial : Nat) :
    answer (s.deliverTrace (hops + 1) (.profiler registry serial) frame event) st =
      (.ok frame.linesOn, s.withEngine st e') := by
  unfold deliverTrace
  have taken : (s.run (takeTrace registry frame event)).run st = (none, s.withEngine st e') := by
    rw [run_run, h]
  rw [answer_liftM_bind taken]
  rfl

/-- An event that goes on from the profilers' hook. -/
theorem answer_deliverTrace_passed {registry : RegistryId} {frame : Frame} {event : TraceEvent}
    {st : σ} {e' : Engine} {wrapped : TraceHook}
    (h : (takeTrace registry frame event).run (s.engine st) = (some wrapped, e'))
    (hops serial : Nat) :
    answer (s.deliverTrace (hops + 1) (.profiler registry serial) frame event) st =
      let passed := answer (s.deliverTrace hops wrapped frame event) (s.withEngine st e')
      answer (s.tryRun (absorbTrace registry frame passed.1)) passed.2 := by
  rw [deliverTrace]
  have taken : (s.run (takeTrace registry frame event)).run st =
      (some wrapped, s.withEngine st e') := by
    rw [run_run, h]
  rw [answer_liftM_bind taken]
  rfl

section

variable {registry : RegistryId} {frame : Frame} {event : TraceEvent} {st : σ} {serial : Nat}
  {e' : Engine} (stands : (s.engine st).traceHook? = some (.profiler registry serial))

include stands

/-- An event that the profilers' hook in the slot keeps to itself. -/
theorem announceTrace_kept (h : (takeTrace registry frame event).run (s.engine st) = (none, e')) :
    answer (s.announceTrace frame event) st = (.ok frame.linesOn, s.withEngine st e') := by
  rw [answer_announceTrace, stands]
  simp only
  rw [hopsAt, s.answer_deliverTrace_kept h]

/-- An event that goes on from the profilers' hook in the slot. -/
theorem announceTrace_passed {wrapped : TraceHook}
    (h : (takeTrace registry frame event).run (s.engine st) = (some wrapped, e')) :
    answer (s.announceTrace frame event) st =
      let told := answer (s.deliverTrace (s.engine st).registries.entries.length wrapped frame event)
        (s.withEngine st e')
      match answer (s.tryRun (absorbTrace registry frame told.1)) told.2 with
      | (.ok on, st') => (.ok on, st')
      | (.error err, st') => (.error err, s.withEngine st' ((s.engine st').withHook none)) := by
  rw [answer_announceTrace, stands]
  simp only
  rw [hopsAt, s.answer_deliverTrace_passed h]

end

/-! ## Monitoring events -/

theorem answer_deliverTo (event : MonitorEvent) (target : ToolId × ToolHook) (st : σ) :
    answer (s.deliverTo event target) st =
      match answer (s.deliverEvent (s.hopsAt st) target.2 event) st with
      | (.error err, st') =>
        (.error err, s.withEngine st' { s.engine st' with
          facility := (s.engine st').facility.silence target.1 })
      | (.ok action, st') =>
        if action = .disable ∧ event.kind.canDisable then
          (.ok (), s.withEngine st' { s.engine st' with
            facility := (s.engine st').facility.disable target.1 event.location })
        else (.ok (), st') := by
  unfold deliverTo
  rw [answer_liftM_bind (s.run_hops st), answer_bind, answer_tryCatch]
  rcases answer (s.deliverEvent (s.hopsAt st) target.2 event) st with ⟨o, st'⟩
  cases o with
  | error err => rfl
  | ok action =>
    simp only
    split <;> rfl

/-- An event that the profilers' callback keeps to itself. -/
theorem answer_deliverEvent_kept {registry : RegistryId} {event : MonitorEvent} {st : σ}
    {e' : Engine} (h : (takeEvent registry event).run (s.engine st) = (none, e'))
    (lawful : ∀ st, s.withEngine st (s.engine st) = st) (hops serial : Nat) :
    answer (s.deliverEvent (hops + 1) (.profiler registry serial) event) st =
      (.ok .goOn, s.withEngine st e') := by
  unfold deliverEvent
  have bare : (s.run (uncover event (.profiler registry serial))).run st =
      (some (.profiler registry serial), st) := by
    rw [run_run]
    exact congrArg (Prod.mk _) (lawful st)
  have taken : (s.run (takeEvent registry event)).run st = (none, s.withEngine st e') := by
    rw [run_run, h]
  rw [answer_liftM_bind bare]
  simp only
  rw [answer_liftM_bind taken]
  rfl

theorem answer_announceEvent (event : MonitorEvent) (st : σ) :
    answer (s.announceEvent event) st =
      if (s.engine st).monitored then
        answer (((s.engine st).facility.targets event).forM (s.deliverTo event)) st
      else (.ok (), st) := by
  unfold announceEvent
  rw [answer_get_bind]
  simp only
  split <;> rfl

/-- One tool hears of an event. -/
theorem answer_forM_one (event : MonitorEvent) (target : ToolId × ToolHook) (st : σ) :
    answer ([target].forM (s.deliverTo event)) st = answer (s.deliverTo event target) st := by
  show answer (s.deliverTo event target >>= fun _ => pure ()) st = _
  rw [answer_bind]
  rcases answer (s.deliverTo event target) st with ⟨o, st'⟩
  cases o <;> rfl

/-! ## Scopes -/

theorem answer_enter (routine : RoutineId) (st : σ) :
    answer (s.host.enter routine) st =
      match ((s.engine st).routine routine).scope with
      | none => (.ok (), st)
      | some scope =>
        match answer (enable scope.registry scope.profiler) (s.engine st) with
        | (.ok _, e') => (.ok (), s.withEngine st e')
        | (.error err, e') => (.error (HookError.ofProfilerError err), s.withEngine st e') := by
  unfold host
  simp only
  rw [answer_get_bind]
  cases ((s.engine st).routine routine).scope with
  | none => rfl
  | some scope =>
    simp only
    rw [answer_discard, answer_tryRun, answer_adapt]
    rcases answer (enable scope.registry scope.profiler) (s.engine st) with ⟨o, e'⟩
    cases o <;> rfl

theorem host_leave (routine : RoutineId) (st : σ) :
    (s.host.leave routine st).2 =
      match ((s.engine st).routine routine).scope with
      | none => st
      | some scope =>
        s.withEngine st (answer (disable scope.registry scope.profiler) (s.engine st)).2 := by
  change ((get >>= fun st : σ => match ((s.engine st).routine routine).scope with
    | none => (pure () : StateM σ Unit)
    | some scope => discard <| s.run (disable scope.registry scope.profiler).run).run st).2 = _
  rw [run_state_get_bind]
  cases ((s.engine st).routine routine).scope <;> rfl

/-! ## What no event ends -/

/-- A relation between an engine and what it becomes that covers all that the machine does to it, answers
apart that are written back to the facility. -/
structure Attends (R : Engine → Engine → Prop) : Prop where
  takeTrace : ∀ registry frame event e, R e ((takeTrace registry frame event).run e).2
  absorbTrace : ∀ registry frame out e, R e (answer (absorbTrace registry frame out) e).2
  unhook : ∀ e, R e (e.withHook none)
  uncover : ∀ event hook e, R e ((uncover event hook).run e).2
  takeEvent : ∀ registry event e, R e ((takeEvent registry event).run e).2
  absorbEvent : ∀ registry event out e, R e (answer (absorbEvent registry event out) e).2
  enable : ∀ registry p e, R e (answer (enable registry p) e).2
  disable : ∀ registry p e, R e (answer (disable registry p) e).2
  frame : ∀ e, R e { e with frames := e.frames + 1 }
  spend : ∀ ticks e, R e { e with clock := e.clock.satAdd ticks }

/-- A relation between an engine and what it becomes that covers all that the machine does to it. -/
structure Covers (R : Engine → Engine → Prop) : Prop extends Attends R where
  facility : ∀ facility e, R e { e with facility }

/-- Something that neither the scripts nor any change of the engine that `R` admits ends, where `R` covers
what the machine does to it, answers apart that are written back. -/
structure Bears (R : Engine → Engine → Prop) (P : σ → Prop) : Prop where
  attends : Attends R
  put : ∀ {x}, P x → ∀ {e}, R (s.engine x) e → P (s.withEngine x e)
  trace : ∀ {x}, P x → ∀ id frame event, P (answer (s.trace id frame event) x).2
  monitor : ∀ {x}, P x → ∀ id event, P (answer (s.monitor id event) x).2

/-- Something that neither the scripts nor any change of the engine that `R` admits ends. -/
structure Lasts (R : Engine → Engine → Prop) (P : σ → Prop) : Prop where
  covers : Covers R
  put : ∀ {x}, P x → ∀ {e}, R (s.engine x) e → P (s.withEngine x e)
  trace : ∀ {x}, P x → ∀ id frame event, P (answer (s.trace id frame event) x).2
  monitor : ∀ {x}, P x → ∀ id event, P (answer (s.monitor id event) x).2

theorem Covers.any : Covers fun _ _ => True where
  takeTrace _ _ _ _ := trivial
  absorbTrace _ _ _ _ := trivial
  unhook _ := trivial
  uncover _ _ _ := trivial
  takeEvent _ _ _ := trivial
  absorbEvent _ _ _ _ := trivial
  facility _ _ := trivial
  enable _ _ _ := trivial
  disable _ _ _ := trivial
  frame _ := trivial
  spend _ _ := trivial

namespace Bears

variable {s} {R : Engine → Engine → Prop} {P : σ → Prop} {x : σ}

theorem run (bears : s.Bears R P) {α : Type} (m : StateM Engine α) (h : P x)
    (step : R (s.engine x) (m.run (s.engine x)).2) : P ((s.run m).run x).2 :=
  bears.put h step

theorem deliverTrace (bears : s.Bears R P) (frame : Frame) (event : TraceEvent) (hops : Nat) :
    ∀ (hook : TraceHook) (x : σ), P x → P (answer (s.deliverTrace hops hook frame event) x).2 := by
  induction hops with
  | zero =>
    rintro (id | ⟨registry, serial⟩) x h
    · exact bears.trace h id frame event
    · exact h
  | succ hops ih =>
    rintro (id | ⟨registry, serial⟩) x h
    · exact bears.trace h id frame event
    · have step := bears.attends.takeTrace registry frame event (s.engine x)
      rcases taken : (takeTrace registry frame event).run (s.engine x) with ⟨_ | wrapped, e⟩
      · rw [taken] at step
        rw [s.answer_deliverTrace_kept taken]
        exact bears.put h step
      · rw [taken] at step
        rw [s.answer_deliverTrace_passed taken]
        exact bears.put (ih wrapped _ (bears.put h step)) (bears.attends.absorbTrace _ _ _ _)

theorem announceTrace (bears : s.Bears R P) (frame : Frame) (event : TraceEvent) (h : P x) :
    P (answer (s.announceTrace frame event) x).2 := by
  rw [answer_announceTrace]
  cases (s.engine x).traceHook? with
  | none => exact h
  | some hook =>
    have delivered := bears.deliverTrace frame event (s.hopsAt x) hook x h
    simp only
    rcases there : answer (s.deliverTrace (s.hopsAt x) hook frame event) x with ⟨_ | on, x'⟩
    · rw [there] at delivered
      exact bears.put delivered (bears.attends.unhook _)
    · rw [there] at delivered
      exact delivered

theorem deliverEvent (bears : s.Bears R P) (event : MonitorEvent) (hops : Nat) :
    ∀ (hook : ToolHook) (x : σ), P x → P (answer (s.deliverEvent hops hook event) x).2 := by
  have layers : ∀ (hook : ToolHook) (x : σ), P x → P ((s.run (uncover event hook)).run x).2 :=
    fun hook _ h => bears.run _ h (bears.attends.uncover event hook _)
  induction hops with
  | zero =>
    intro hook x h
    have kept := layers hook x h
    rcases below : (s.run (uncover event hook)).run x with ⟨core, y⟩
    rw [below] at kept
    unfold Scripts.deliverEvent
    rw [answer_liftM_bind below]
    rcases core with _ | ⟨id⟩ | _ | _
    · exact kept
    · exact bears.monitor kept id event
    · exact kept
    · exact kept
  | succ hops ih =>
    intro hook x h
    have kept := layers hook x h
    rcases below : (s.run (uncover event hook)).run x with ⟨core, y⟩
    rw [below] at kept
    rw [Scripts.deliverEvent, answer_liftM_bind below]
    rcases core with _ | ⟨id⟩ | ⟨registry, serial⟩ | _
    · exact kept
    · exact bears.monitor kept id event
    · simp only
      have kept := bears.run (takeEvent registry event) kept (bears.attends.takeEvent _ _ _)
      rcases taken : (s.run (takeEvent registry event)).run y with ⟨next, z⟩
      rw [taken] at kept
      rw [answer_liftM_bind taken]
      cases next with
      | none => exact kept
      | some wrapped => exact bears.put (ih wrapped z kept) (bears.attends.absorbEvent _ _ _ _)
    · exact kept

theorem enter (bears : s.Bears R P) (routine : RoutineId) (h : P x) :
    P (answer (s.host.enter routine) x).2 := by
  rw [answer_enter]
  cases ((s.engine x).routine routine).scope with
  | none => exact h
  | some scope =>
    have step := bears.attends.enable scope.registry scope.profiler (s.engine x)
    simp only
    rcases there : answer (Engine.enable scope.registry scope.profiler) (s.engine x) with ⟨_ | _, e⟩ <;>
      (rw [there] at step; exact bears.put h step)

theorem leave (bears : s.Bears R P) (routine : RoutineId) (h : P x) :
    P (s.host.leave routine x).2 := by
  rw [host_leave]
  cases ((s.engine x).routine routine).scope with
  | none => exact h
  | some scope => exact bears.put h (bears.attends.disable _ _ _)

/-- What is borne, and announcing monitoring events does not end, lasts through programs. -/
theorem keeps (bears : s.Bears R P)
    (announce : ∀ event x, P x → P (answer (s.announceEvent event) x).2) : Keeps P s.host where
  newFrame _ h := bears.put h (bears.attends.frame _)
  work _ _ h := bears.put h (bears.attends.spend _ _)
  trace frame event _ h := bears.announceTrace frame event h
  monitor := announce
  enter routine _ h := bears.enter routine h
  leave routine _ h := bears.leave routine h

end Bears

namespace Lasts

variable {s} {R : Engine → Engine → Prop} {P : σ → Prop} {x : σ}

theorem bears (lasts : s.Lasts R P) : s.Bears R P :=
  ⟨lasts.covers.toAttends, lasts.put, lasts.trace, lasts.monitor⟩

theorem deliverTo (lasts : s.Lasts R P) (event : MonitorEvent) (target : ToolId × ToolHook)
    (h : P x) : P (answer (s.deliverTo event target) x).2 := by
  have delivered := lasts.bears.deliverEvent event (s.hopsAt x) target.2 x h
  rw [answer_deliverTo]
  rcases there : answer (s.deliverEvent (s.hopsAt x) target.2 event) x with ⟨_ | action, x'⟩
  · rw [there] at delivered
    exact lasts.put delivered (lasts.covers.facility _ _)
  · rw [there] at delivered
    simp only
    split
    · exact lasts.put delivered (lasts.covers.facility _ _)
    · exact delivered

theorem announceEvent (lasts : s.Lasts R P) (event : MonitorEvent) (h : P x) :
    P (answer (s.announceEvent event) x).2 := by
  have all : ∀ (targets : List (ToolId × ToolHook)) (x : σ), P x →
      P (answer (targets.forM (s.deliverTo event)) x).2 := by
    intro targets
    induction targets with
    | nil => exact fun _ h => h
    | cons target rest ih =>
      intro x h
      have first := lasts.deliverTo event target h
      show P (answer (s.deliverTo event target >>= fun _ => rest.forM (s.deliverTo event)) x).2
      rw [answer_bind]
      rcases there : answer (s.deliverTo event target) x with ⟨_ | _, x'⟩
      · rw [there] at first
        exact first
      · rw [there] at first
        exact ih x' first
  rw [answer_announceEvent]
  split
  · exact all _ x h
  · exact h

/-- What lasts through everything that the machine asks of its surroundings lasts through programs. -/
theorem keeps (lasts : s.Lasts R P) : Keeps P s.host :=
  lasts.bears.keeps fun event _ h => lasts.announceEvent event h

end Lasts

end Scripts

end LineClock

import LineClock.Engine.Switch

/-!
# The host of the machine

How events find their hooks. A trace event goes to the hook in the thread's slot; a hook that fails
is removed from there. A monitoring event goes to every tool that subscribes to it, in the order of
their ids, until one fails; a tool that fails is silenced. The profilers' hooks pass events on to
the hooks they replaced. Hooks that are scripts are asked through `Scripts`, which may do anything
to the state the engine is part of.
-/

namespace LineClock

/-- How scripts answer, over a state `σ` with an engine in it. -/
structure Scripts (σ : Type) where
  engine : σ → Engine
  withEngine : σ → Engine → σ
  trace : ScriptId → Frame → TraceEvent → ExceptT HookError (StateM σ) Bool
  monitor : ScriptId → MonitorEvent → ExceptT HookError (StateM σ) MonitorAction

namespace Scripts

/-- Scripts that do nothing, over the bare engine. -/
def quiet : Scripts Engine where
  engine e := e
  withEngine _ e := e
  trace _ frame _ := pure frame.linesOn
  monitor _ _ := pure .goOn

variable {σ : Type} (s : Scripts σ)

/-- Act on the engine of a state. -/
def run {α : Type} (act : StateM Engine α) : StateM σ α := fun st =>
  let (a, e) := act (s.engine st)
  (a, s.withEngine st e)

/-- Act on the engine of a state, with failure. -/
def tryRun {ε α : Type} (act : ExceptT ε (StateM Engine) α) : ExceptT ε (StateM σ) α :=
  ExceptT.mk (s.run act.run)

/-- Deliver a trace event to a hook. At most `hops` profilers' hooks pass it on. -/
def deliverTrace (hops : Nat) (hook : TraceHook) (frame : Frame) (event : TraceEvent) :
    ExceptT HookError (StateM σ) Bool :=
  match hook, hops with
  | .script id, _ => s.trace id frame event
  | .profiler _ _, 0 => pure frame.linesOn
  | .profiler registry _, hops + 1 => do
    match ← (s.run (Engine.takeTrace registry frame event) : StateM σ _) with
    | none => pure frame.linesOn
    | some wrapped =>
      let answer ← ExceptT.lift (deliverTrace hops wrapped frame event).run
      s.tryRun (Engine.absorbTrace registry frame answer)

/-- Deliver a monitoring event to a callback. At most `hops` profilers' callbacks pass it on. -/
def deliverEvent (hops : Nat) (hook : ToolHook) (event : MonitorEvent) :
    ExceptT HookError (StateM σ) MonitorAction :=
  match hops with
  | 0 => do
    match ← (s.run (Engine.uncover event hook) : StateM σ _) with
    | none => pure .disable
    | some (.script id) => s.monitor id event
    | some _ => pure .goOn
  | hops + 1 => do
    match ← (s.run (Engine.uncover event hook) : StateM σ _) with
    | none => pure .disable
    | some (.script id) => s.monitor id event
    | some (.profiler registry _) =>
      match ← (s.run (Engine.takeEvent registry event) : StateM σ _) with
      | none => pure .goOn
      | some wrapped =>
        let answer ← ExceptT.lift (deliverEvent hops wrapped event).run
        s.tryRun (Engine.absorbEvent registry event answer)
    | some (.replay ..) => pure .goOn

/-- How many profilers' hooks can pass on one event: while one of them waits for the hook to which
it passed the event on, its registry is busy. -/
def hops : StateM σ Nat := return (s.engine (← get)).registries.entries.length + 1

/-- Announce a trace event on the running thread. -/
def announceTrace (frame : Frame) (event : TraceEvent) : ExceptT HookError (StateM σ) Bool := do
  match (s.engine (← get)).traceHook? with
  | none => pure frame.linesOn
  | some hook =>
    let hops ← (s.hops : StateM σ Nat)
    tryCatch (s.deliverTrace hops hook frame event) fun e => do
      (s.run (Engine.setTraceHook none) : StateM σ Unit)
      throw e

/-- Deliver a monitoring event to one tool. -/
def deliverTo (event : MonitorEvent) (target : ToolId × ToolHook) :
    ExceptT HookError (StateM σ) Unit := do
  let hops ← (s.hops : StateM σ Nat)
  let action ← tryCatch (s.deliverEvent hops target.2 event) fun e => do
    (s.run (modify fun e => { e with facility := e.facility.silence target.1 }) : StateM σ Unit)
    throw e
  if action = .disable ∧ event.kind.canDisable then
    (s.run (modify fun e => { e with facility := e.facility.disable target.1 event.location }) :
      StateM σ Unit)

/-- Announce a monitoring event. Who hears of it is settled before the first tool does. -/
def announceEvent (event : MonitorEvent) : ExceptT HookError (StateM σ) Unit := do
  let e := s.engine (← get)
  if e.monitored then
    (e.facility.targets event).forM (s.deliverTo event)

/-- How many ticks a unit of work takes. -/
def ticksPerUnit : Counter := 1000

/-- The machine's surroundings. -/
def host : Host σ where
  code st routine := (s.engine st).codeOf routine
  newFrame := s.run do
    let e ← get
    set { e with frames := e.frames + 1 }
    return e.frames
  work n := s.run <| modify fun e => { e with clock := e.clock.satAdd (n.toUInt64 * ticksPerUnit) }
  trace := s.announceTrace
  monitor := s.announceEvent
  enter routine := do
    match ((s.engine (← get)).routine routine).scope with
    | none => pure ()
    | some scope =>
      discard <| s.tryRun ((Engine.enable scope.registry scope.profiler).adapt HookError.ofProfilerError)
  leave routine := do
    match ((s.engine (← get)).routine routine).scope with
    | none => pure ()
    | some scope => discard <| s.run (Engine.disable scope.registry scope.profiler).run

end Scripts

end LineClock

import LineClock.Engine.Slot
import LineClock.Engine.Tool

/-!
# Switching profilers on and off

A profiler is switched on per thread, and as often as it is switched on it has to be switched off
again. The registry listens on a thread from the first profiler that is on there to the last.
-/

namespace LineClock.Engine

/-- Start listening on the running thread. -/
def activate (registry : RegistryId) : ExceptT ProfilerError (StateM Engine) Unit := do
  match ((← get).registry registry).backend with
  | .slot => activateSlot registry
  | .tool => activateTool registry
  modifyDispatch registry fun d => { d with activated := true }

/-- Stop listening on the running thread, if the registry listens there. -/
def deactivate (registry : RegistryId) : ExceptT ProfilerError (StateM Engine) Unit := do
  if ((← get).dispatchOf registry).activated then
    modifyDispatch registry fun d => { d with activated := false }
    match ((← get).registry registry).backend with
    | .slot => deactivateSlot registry
    | .tool => deactivateTool registry

/-- Switch a profiler on; the answer is how often it is on now. -/
def enable (registry : RegistryId) (p : ProfilerId) : ExceptT ProfilerError (StateM Engine) Nat := do
  unless ((← get).dispatchOf registry).isActive do
    activate registry
  modifyDispatch registry fun d => d.raise p
  return ((← get).dispatchOf registry).countOf p

/-- Set how often a profiler is on to `left` of what it is; switching off the last one ends
listening. -/
def lower (registry : RegistryId) (p : ProfilerId) (left : Nat → Nat) :
    ExceptT ProfilerError (StateM Engine) Nat := do
  let d := (← get).dispatchOf registry
  unless d.isOn p do
    return 0
  let remaining := left (d.countOf p)
  modifyDispatch registry fun d => d.lower p remaining
  unless ((← get).dispatchOf registry).isActive do
    deactivate registry
  return remaining

/-- Undo one switching on; the answer is how often the profiler is on still. -/
def disable (registry : RegistryId) (p : ProfilerId) : ExceptT ProfilerError (StateM Engine) Nat :=
  lower registry p fun n => n - 1

/-- Switch a profiler off altogether. -/
def remove (registry : RegistryId) (p : ProfilerId) : ExceptT ProfilerError (StateM Engine) Nat :=
  lower registry p fun _ => 0

/-- Forget a registry on the running thread. A failure to stop listening stays without effect. -/
def forget (registry : RegistryId) : StateM Engine Unit := do
  modifyDispatch registry fun d => { d with active := [] }
  discard <| (deactivate registry).run
  modify fun e => { e with dispatch := e.dispatch.erase (e.thread, registry) }

/-- The running thread ends: it stops listening for all registries, and its trace slot is gone. -/
def endThread : StateM Engine Unit := do
  let e ← get
  let here := e.dispatch.keys.filterMap fun k => if k.1 = e.thread then some k.2 else none
  (here.mergeSort fun a b => a ≤ b).forM forget
  setTraceHook none

end LineClock.Engine

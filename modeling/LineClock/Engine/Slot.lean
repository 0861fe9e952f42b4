import LineClock.Engine.Basic

/-!
# Listening through the trace slot

Switching on saves the hook that is in the thread's trace slot and puts the profilers' own there.
Each event is recorded first and then goes on to the saved hook, if an active profiler wants that.
What the saved hook did to the slot or to the frame is absorbed: a hook that left the slot is not
put back later, a hook that came takes its place, and line events that were switched off for a frame
are kept from that hook only. The profilers' own hook stands in the slot again in every case.
-/

namespace LineClock.Engine

/-- Put the profilers' hook into the trace slot of the running thread. -/
def activateSlot (registry : RegistryId) : StateM Engine Unit := do
  let previous := (← get).traceHook?
  let ours := .profiler registry (← newSerial)
  modifyDispatch registry fun d =>
    { d with saved := previous, wrapped := previous, muted := [], ours := some ours }
  setTraceHook (some ours)

/-- Put the saved hook back. -/
def deactivateSlot (registry : RegistryId) : StateM Engine Unit := do
  let saved := ((← get).dispatchOf registry).saved
  modifyDispatch registry fun d =>
    { d with saved := none, wrapped := none, ours := none, muted := [] }
  setTraceHook saved

/-- Record a trace event. -/
def recordTrace (registry : RegistryId) (frame : Frame) (event : TraceEvent) : StateM Engine Unit :=
  match event with
  | .line => recordLine registry frame.block.identity frame.line
  | .ret => recordExit registry frame.block.identity
  | .call | .exception => pure ()

/-- Whether a frame is muted. The last event of a frame ends its being muted. -/
def muted (registry : RegistryId) (frame : Frame) (event : TraceEvent) : StateM Engine Bool := do
  let found := ((← get).dispatchOf registry).muted.contains frame.id
  if event = .ret ∧ ¬ frame.suspended then
    modifyDispatch registry fun d => d.unmute frame.id
  return found

/-- Take a trace event. The answer is the hook to which it goes on; until that has answered, the
registry is busy. -/
def takeTrace (registry : RegistryId) (frame : Frame) (event : TraceEvent) :
    StateM Engine (Option TraceHook) := do
  if ((← get).dispatchOf registry).busy then
    return none
  recordTrace registry frame event
  let muted ← muted registry frame event
  let e ← get
  if ¬ e.wantsWrap registry ∨ (event = .line ∧ muted) then
    return none
  match (e.dispatchOf registry).wrapped with
  | none => return none
  | some wrapped =>
    modifyDispatch registry fun d => { d with busy := true }
    return some wrapped

/-- Set the hook that events go on to and that is put back in the end. -/
def adopt (registry : RegistryId) (hook : Option TraceHook) : StateM Engine Unit :=
  modifyDispatch registry fun d => { d with wrapped := hook, saved := hook }

/-- Take the answer of the hook to which an event went on: whether line events of the frame stay
on, or an error. The answer is that of the profilers' own hook. -/
def absorbTrace (registry : RegistryId) (frame : Frame) (answer : Except HookError Bool) :
    ExceptT HookError (StateM Engine) Bool := do
  modifyDispatch registry fun d => { d with busy := false }
  let e ← get
  let d := e.dispatchOf registry
  match d.activated, d.ours with
  | true, some ours =>
    match answer with
    | .error err =>
      adopt registry none
      forgetPending registry
      throw err
    | .ok linesOn =>
      unless e.traceHook? = some ours do
        adopt registry e.traceHook?
        setTraceHook (some ours)
      unless linesOn do
        modifyDispatch registry fun d => d.mute frame.id
      return true
  | _, _ => answer

end LineClock.Engine

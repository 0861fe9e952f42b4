import LineClock.Engine.Basic

/-!
# Listening through the tool id

The first thread on which a profiler is switched on claims the profilers' tool id, or shares it with
the tool that holds it: that tool's callbacks and event set are taken over, and events go on to its
callbacks. The last thread gives everything back, or frees the id. Callbacks run on every thread; on
those where no profiler is on, events are not recorded.

After each event that went on, what the tool did to the id is absorbed: callbacks that it changed
are taken over, a changed event set is remembered as the tool's own, and locations that it switched
off are remembered here, so the machine goes on to deliver them. When the callbacks are given back,
those with locations still off are covered with a layer that answers for them.
-/

namespace LineClock.Engine

/-! ## The facility as a registry sees it -/

/-- A call of the facility through a registry, refused if a refusal strikes. -/
def calling {α : Type} (registry : RegistryId) (call : FacilityCall)
    (act : ExceptT HostError (StateM Engine) α) : ExceptT HostError (StateM Engine) α := do
  match ← refused ((← get).registry registry).guarded call with
  | some err => throw err
  | none => act

/-- Whether a registry finds the facility. -/
def reach (registry : RegistryId) : StateM Engine Bool := do
  findsFacility ((← get).registry registry).guarded

/-- An operation on the facility. -/
def onFacility {α : Type} (f : Facility → Except HostError (α × Facility)) :
    ExceptT HostError (StateM Engine) α := do
  let e ← get
  match f e.facility with
  | .ok (a, facility) =>
    set { e with facility }
    return a
  | .error err => throw err

/-- The holder of the profilers' id; none if the call is refused. -/
def holder (registry : RegistryId) : StateM Engine (Option String) := do
  match ← refused ((← get).registry registry).guarded .holder with
  | some _ => return none
  | none => return (← get).facility.holder? Facility.profilerTool

/-- Claim the profilers' id. -/
def claim (registry : RegistryId) : ExceptT HostError (StateM Engine) Unit :=
  calling registry .claim <| onFacility fun f =>
    (f.claim Facility.profilerTool toolName).map fun f => ((), f)

/-- Register a callback, or none, under the profilers' id. -/
def register (registry : RegistryId) (kind : EventKind) (hook : Option ToolHook) :
    ExceptT HostError (StateM Engine) (Option ToolHook) :=
  calling registry .register <| onFacility fun f => f.register Facility.profilerTool kind hook

/-- The event set of the profilers' id. -/
def getEvents (registry : RegistryId) : ExceptT HostError (StateM Engine) EventSet :=
  calling registry .getEvents <| onFacility fun f =>
    (f.getEvents Facility.profilerTool).map fun s => (s, f)

/-- Set the event set of the profilers' id. -/
def setEvents (registry : RegistryId) (events : EventSet) : ExceptT HostError (StateM Engine) Unit :=
  calling registry .setEvents <| onFacility fun f =>
    (f.setEvents Facility.profilerTool events).map fun f => ((), f)

/-! ## Switching on and off -/

/-- Claim the id if nobody holds it; the answer says whether it was claimed. -/
def claimOrShare (registry : RegistryId) : ExceptT HostError (StateM Engine) Bool := do
  if (← holder registry).isSome then
    return false
  tryCatch (do claim registry; return true) fun
    | .toolInUse _ => return false
    | e => throw e

/-- Register a callback of ours for a kind and take over the one that was there. -/
def takeOver (registry : RegistryId) (kind : EventKind) : ExceptT HostError (StateM Engine) Unit := do
  let ours := .profiler registry (← newSerial)
  let previous ← register registry kind (some ours)
  modifyShare registry fun s =>
    { s with
      wrapped := match previous with
        | some hook => s.wrapped.set kind hook
        | none => s.wrapped
      ours := s.ours.set kind ours }

/-- Install our callbacks under the tool id. -/
def install (registry : RegistryId) : ExceptT HostError (StateM Engine) Unit := do
  let owned ← claimOrShare registry
  modifyShare registry fun s => { s with owned }
  let prior ← if owned then pure .empty else getEvents registry
  modifyShare registry fun s =>
    { s with ours := {}, wrapped := {}, disabled := [], reclaimed := false }
  ourKinds.forM (takeOver registry)
  let restarts := (← get).facility.restarts
  modifyShare registry fun s => { s with wrappedEvents := prior, seenRestart := restarts }
  setEvents registry (prior.union ourEvents)

/-- The callback that is given back for a kind: `wrapped`, covered where locations are off. -/
def restored (registry : RegistryId) (kind : EventKind) (wrapped : ToolHook)
    (disabled : List Location) (restarts : Nat) : ToolHook :=
  match disabled.filter fun l => l.kind = kind with
  | [] => wrapped
  | off => .replay wrapped (off.map fun l => (l.block, l.offset)) restarts registry

/-- Give a callback back. -/
def giveBack (registry : RegistryId) (disabled : List Location) (restarts : Nat) (kind : EventKind) :
    ExceptT HostError (StateM Engine) Unit := do
  let wrapped := (← shareOf registry).wrapped.get? kind
  modifyShare registry fun s => { s with wrapped := s.wrapped.erase kind }
  discard <| register registry kind (wrapped.map (restored registry kind · disabled restarts))

/-- Give the tool id back. -/
def uninstall (registry : RegistryId) : ExceptT HostError (StateM Engine) Unit := do
  let share ← shareOf registry
  modifyShare registry fun s => { s with ours := {}, disabled := [] }
  if share.owned ∨ share.reclaimed then
    modifyShare registry fun s => { s with wrapped := {} }
    modify fun e => { e with facility := e.facility.free Facility.profilerTool }
  else
    let restarts := (← get).facility.restarts
    let disabled := if share.seenRestart = restarts then share.disabled else []
    ourKinds.forM (giveBack registry disabled restarts)
    setEvents registry share.wrappedEvents

/-- The error of a registry that does not find the facility. -/
def noFacility : ProfilerError := .unsupportedBackend Backend.tool.name

/-- Run an operation on the facility for a profiler. -/
def hosted {α : Type} (act : ExceptT HostError (StateM Engine) α) :
    ExceptT ProfilerError (StateM Engine) α :=
  act.adapt .host

/-- Switch on on one more thread. -/
def activateTool (registry : RegistryId) : ExceptT ProfilerError (StateM Engine) Unit := do
  unless ← reach registry do
    throw noFacility
  if (← shareOf registry).threads = 0 then
    hosted (install registry)
  modifyShare registry fun s => { s with threads := s.threads + 1 }

/-- Switch off on one thread. -/
def deactivateTool (registry : RegistryId) : ExceptT ProfilerError (StateM Engine) Unit := do
  unless ← reach registry do
    throw noFacility
  modifyShare registry fun s => { s with threads := s.threads - 1 }
  if (← shareOf registry).threads = 0 then
    hosted (uninstall registry)

/-! ## Events -/

/-- Record a monitoring event. -/
def recordEvent (registry : RegistryId) (event : MonitorEvent) : StateM Engine Unit :=
  match event.kind with
  | .line => recordLine registry event.block.identity event.line
  | .ret | .yield | .unwind => recordExit registry event.block.identity
  | .start | .raise | .reraise => pure ()

/-- Whether an event goes on to the wrapped tool from a thread. -/
def goesOn (e : Engine) (registry : RegistryId) : Bool :=
  if (e.dispatchOf registry).isActive then e.wantsWrap registry else (e.registry registry).wrap

/-- Notice that the facility was restarted: nothing is switched off any more. -/
def noticeRestart (registry : RegistryId) : StateM Engine Unit := do
  let restarts := (← get).facility.restarts
  modifyShare registry fun s =>
    if s.seenRestart = restarts then s else { s with seenRestart := restarts, disabled := [] }

/-- The wrapped callback for an event, if the wrapped tool would hear of it. -/
def wrappedFor (registry : RegistryId) (event : MonitorEvent) : StateM Engine (Option ToolHook) := do
  unless (← get).isAttached registry do
    return none
  unless ← reach registry do
    return none
  noticeRestart registry
  let share ← shareOf registry
  if share.wrappedEvents.contains event.kind ∧ ¬ share.disabled.contains event.location then
    return share.wrapped.get? event.kind
  else
    return none

/-- Take a monitoring event. The answer is the callback to which it goes on; until that has
answered, the registry is busy. -/
def takeEvent (registry : RegistryId) (event : MonitorEvent) :
    StateM Engine (Option ToolHook) := do
  if ((← get).dispatchOf registry).busy then
    return none
  recordEvent registry event
  unless goesOn (← get) registry do
    return none
  match ← wrappedFor registry event with
  | none => return none
  | some wrapped =>
    modifyDispatch registry fun d => { d with busy := true }
    return some wrapped

/-- Claim the id again if the wrapped tool let it go. The answer says whether it has a holder. -/
def reclaim (registry : RegistryId) : StateM Engine Bool := do
  if (← holder registry).isSome then
    return true
  modifyShare registry fun s => { s with wrapped := {}, wrappedEvents := .empty }
  match ← (claim registry).run with
  | .ok () =>
    modifyShare registry fun s => { s with reclaimed := true }
    return true
  | .error _ => return false

/-- Register our callback for a kind again and take over what was there instead. -/
def reinstate (registry : RegistryId) (kind : EventKind) : StateM Engine Unit := do
  match (← shareOf registry).ours.get? kind with
  | none => pure ()
  | some ours =>
    match ← (register registry kind (some ours)).run with
    | .ok (some current) =>
      if current ≠ ours then
        modifyShare registry fun s => { s with wrapped := s.wrapped.set kind current }
    | .ok none => modifyShare registry fun s => { s with wrapped := s.wrapped.erase kind }
    | .error _ => pure ()

/-- Subscribe to our kinds again if the wrapped tool changed the event set, and remember its own. -/
def resubscribe (registry : RegistryId) : StateM Engine Unit := do
  let expected := (← shareOf registry).wrappedEvents.union ourEvents
  match ← (getEvents registry).run with
  | .ok events =>
    if events ≠ expected then
      modifyShare registry fun s => { s with wrappedEvents := events }
      discard <| (setEvents registry (events.union ourEvents)).run
  | .error _ => pure ()

/-- Undo what the wrapped tool did to the id while its callback ran. -/
def absorbTool (registry : RegistryId) : StateM Engine Unit := do
  if (← shareOf registry).ours.entries.isEmpty then
    return
  if ← reclaim registry then
    ourKinds.forM (reinstate registry)
    resubscribe registry

/-- Take the answer of the callback to which an event went on. Our own callback never switches a
location off. -/
def absorbEvent (registry : RegistryId) (event : MonitorEvent)
    (answer : Except HookError MonitorAction) : ExceptT HookError (StateM Engine) MonitorAction := do
  absorbTool registry
  match answer with
  | .ok action =>
    if action = .disable ∧ event.kind.canDisable then
      modifyShare registry fun s =>
        if s.disabled.contains event.location then s
        else { s with disabled := event.location :: s.disabled }
    modifyDispatch registry fun d => { d with busy := false }
    return .goOn
  | .error err =>
    modifyShare registry fun s => { s with wrapped := {}, wrappedEvents := .empty }
    modifyDispatch registry fun d => { d with busy := false }
    forgetPending registry
    throw err

/-! ## Layers left behind -/

/-- Whether a layer answers for an event: nothing was restarted since it was put there, and the
location is one of those that were off. -/
def replays (registry : RegistryId) (locations : List (BlockId × Nat)) (restarts : Nat)
    (event : MonitorEvent) : StateM Engine Bool := do
  unless (← get).isAttached registry do
    return false
  unless ← reach registry do
    return false
  return (← get).facility.restarts = restarts ∧ locations.contains (event.block.id, event.offset)

/-- The callback below all layers, unless one of them answers for it. -/
def uncover (event : MonitorEvent) : ToolHook → StateM Engine (Option ToolHook)
  | .replay wrapped locations restarts registry => do
    if ← replays registry locations restarts event then return none
    else uncover event wrapped
  | hook => return some hook

end LineClock.Engine

import LineClock.Session.State

/-!
# Steps that run programs, and steps on hooks
-/

namespace LineClock.Session

/-- How many units one resumption of a frame may execute. -/
def budget : Nat := 1000000000000

/-- Call a routine. -/
def call (host : Host State) (routine : String) : TryPlay Answer := do
  let id ← find State.routines routine
  match ← ((Machine.call host budget id).run : Play (Except ExecError Unit)) with
  | .ok () => return .done
  | .error e => throw (.exec e)

/-- Make a generator that runs the block a routine has now. -/
def makeGenerator (host : Host State) (name routine : String) : TryPlay Answer := do
  let id ← find State.routines routine
  let frame ← (host.newFrame : Play FrameId)
  let s ← get
  let g := s.frames.entries.length
  let made : Generator := { routine := id, frame := some (Machine.fresh frame (s.engine.codeOf id)) }
  set { s with frames := s.frames.set g made, generators := s.generators.set name g }
  return .done

/-- Change a generator. -/
def setGenerator (id : GeneratorId) (g : Generator) : Play Unit :=
  modify fun s => { s with frames := s.frames.set id g }

/-- Resume a generator. One that is finished stays finished. -/
def resume (host : Host State) (name : String) : TryPlay Answer := do
  let id ← find State.generators name
  let g := (← get).frames.getD id default
  if g.running then
    throw .generatorRunning
  match g.frame with
  | none => return .resumed (.ok .returned) true
  | some act =>
    setGenerator id { g with running := true }
    let outcome ← ((Machine.step host budget g.routine act).run :
      Play (Except ExecError (Flow × Activation)))
    let frame := match outcome with
      | .ok (.yielded, act) => some act
      | _ => none
    setGenerator id { g with frame }
    return .resumed (outcome.map Prod.fst) frame.isNone

/-- Move the clock. -/
def advance (ticks : Counter) : Play Answer := do
  modify fun s => { s with engine := { s.engine with clock := s.engine.clock.satAdd ticks } }
  return .count (← get).engine.clock.toNat

/-- Define a hook. -/
def makeHook (name : String) (rules : List Rule) : Play Answer := do
  modify fun s =>
    let id := s.scripts.entries.length
    { s with
      scripts := s.scripts.set id { name, rules := rules.map fun r => (r, 0) }
      hooks := s.hooks.set name id }
  return .done

/-- The hook with a name, if a name is given. -/
def findHook (hook : Option String) : TryPlay (Option ScriptId) := do
  match hook with
  | none => return none
  | some name => return some (← find State.hooks name)

/-- Put a hook into the trace slot. -/
def setTrace (hook : Option String) : TryPlay Answer := do
  let id ← findHook hook
  (onEngine (Engine.setTraceHook (id.map .script)) : Play Unit)
  return .done

/-- What is in the trace slot. -/
def getTrace : Play Answer := do
  let s ← get
  return .text (s.engine.traceHook?.map s.traceHookName)

/-- An operation on the facility of the machine. -/
def facility {α : Type} (f : Facility → Except HostError (α × Facility)) : TryPlay α := do
  unless (← get).engine.monitored do
    throw .noFacility
  match ← (onEngine (Engine.onFacility f).run : Play (Except HostError α)) with
  | .ok a => return a
  | .error e => throw (.host e)

/-- Claim a tool id. -/
def claimTool (tool : ToolId) (name : String) : TryPlay Answer :=
  facility fun f => (f.claim tool name).map fun f => (.done, f)

/-- Free a tool id. -/
def freeTool (tool : ToolId) : TryPlay Answer :=
  facility fun f => .ok (.done, f.free tool)

/-- The holder of a tool id. -/
def holder (tool : ToolId) : TryPlay Answer :=
  facility fun f => .ok (.text (f.holder? tool), f)

/-- Register a hook. The answer is the one before. -/
def register (tool : ToolId) (kind : EventKind) (hook : Option String) : TryPlay Answer := do
  let id ← findHook hook
  let before ← facility fun f => f.register tool kind (id.map .script)
  return .previous (before.map (← get).toolHookName)

/-- The hook that is registered. -/
def registered (tool : ToolId) (kind : EventKind) : TryPlay Answer := do
  let found ← facility fun f => (Facility.check tool).map fun _ => (f.callback? tool kind, f)
  return .text (found.map (← get).toolHookName)

/-- The kinds a tool subscribes to. -/
def getEvents (tool : ToolId) : TryPlay Answer :=
  facility fun f => (f.getEvents tool).map fun s => (.kinds s.toList, f)

/-- Subscribe to kinds. -/
def setEvents (tool : ToolId) (events : EventSet) : TryPlay Answer :=
  facility fun f => (f.setEvents tool events).map fun f => (.done, f)

/-- Restart the facility. -/
def restart : TryPlay Answer :=
  facility fun f => .ok (.count f.restart.restarts, f.restart)

/-- How often the facility was restarted. -/
def restarts : TryPlay Answer := facility fun f => .ok (.count f.restarts, f)

/-- Have a call of the facility refused from now on. -/
def refuse (refusal : Refusal) : Play Answer := do
  modify fun s => { s with engine := { s.engine with refusals := s.engine.refusals ++ [refusal] } }
  return .done

/-- A worker thread ends. The answer says whether it was there. -/
def endThread (thread : String) : Play Answer := do
  let s ← get
  match s.threads.get? thread with
  | none => return .flag false
  | some key =>
    let here := s.engine.thread
    modify fun s => { s with engine := { s.engine with thread := key } }
    onEngine Engine.endThread
    collect
    modify fun s => { s with
      engine := { s.engine with thread := here }
      threads := s.threads.erase thread }
    return .flag true

end LineClock.Session

import LineClock.Code.Block
import LineClock.Dispatch
import LineClock.Machine.Run
import LineClock.Profiler

/-!
# The engine

The `Engine` is everything that lives while programs run under profilers: the machine's clock, code
and hooks, the registries and profilers, and what each thread knows of them. One thread runs at a
time.
-/

namespace LineClock

/-- Around each call of a wrapper its profiler is switched on. -/
structure Scope where
  registry : RegistryId
  profiler : ProfilerId
  deriving DecidableEq, Repr, Inhabited

/-- A routine: whose code it runs, and in which scope. -/
structure Routine where
  /-- The routine whose code slot this one shares, itself unless it is a wrapper. -/
  slot : RoutineId
  scope : Option Scope := none
  /-- The routine that a wrapper wraps. -/
  wrapped : Option RoutineId := none
  deriving DecidableEq, Repr, Inhabited

/-- The calls of the facility that can be refused. -/
inductive FacilityCall where
  /-- Asking whether there is a facility at all. -/
  | reach
  | claim
  | holder
  | register
  | getEvents
  | setEvents
  deriving DecidableEq, Repr, Inhabited

/-- A call to be refused `count` times after it went through `skip` times. -/
structure Refusal where
  call : FacilityCall
  skip : Nat := 0
  count : Nat := 1
  error : HostError
  deriving DecidableEq, Repr, Inhabited

/-- Ask the first open refusal of a call whether it strikes now. -/
def Refusal.consult (call : FacilityCall) : List Refusal → Option HostError × List Refusal
  | [] => (none, [])
  | r :: rest =>
    if r.call = call ∧ 0 < r.count then
      if 0 < r.skip then (none, { r with skip := r.skip - 1 } :: rest)
      else (some r.error, { r with count := r.count - 1 } :: rest)
    else
      let (struck, rest) := consult call rest
      (struck, r :: rest)

/-- All that lives while programs run under profilers. -/
structure Engine where
  clock : Counter := 0
  /-- How many block objects were made. -/
  blocks : Nat := 0
  /-- How many frames were made. -/
  frames : Nat := 0
  /-- How many hooks were made for profilers. -/
  hooks : Nat := 0
  /-- The block in each code slot. -/
  code : Assoc RoutineId Block := {}
  routines : Assoc RoutineId Routine := {}
  /-- Whether the machine shows its facility. -/
  monitored : Bool := true
  facility : Facility := {}
  /-- The trace slot of each thread. -/
  slots : Assoc ThreadKey TraceHook := {}
  /-- The thread that runs. -/
  thread : ThreadKey := 0
  refusals : List Refusal := []
  registries : Assoc RegistryId Registry := {}
  profilers : Assoc ProfilerId Profiler := {}
  dispatch : Assoc (ThreadKey × RegistryId) Dispatch := {}
  files : Files := {}
  deriving DecidableEq, Inhabited

namespace Engine

/-! ## Code -/

/-- The block of a code slot. -/
def slotCode (e : Engine) (slot : RoutineId) : Block := e.code.getD slot default

/-- The routine with a given number. -/
def routine (e : Engine) (id : RoutineId) : Routine := e.routines.getD id { slot := id }

/-- The block a routine would run now. -/
def codeOf (e : Engine) (id : RoutineId) : Block := e.slotCode (e.routine id).slot

/-- Put a block into the code slot of a routine. -/
def replaceCode (e : Engine) (id : RoutineId) (block : Block) : Engine :=
  { e with code := e.code.set (e.routine id).slot block }

/-- The number of the next block object. -/
def newBlock : StateM Engine BlockId := do
  let e ← get
  set { e with blocks := e.blocks + 1 }
  return e.blocks

/-- A new routine that runs a block in a code slot of its own. -/
def newRoutine (block : Block) : StateM Engine RoutineId := do
  let e ← get
  let id := e.routines.entries.length
  set { e with routines := e.routines.set id { slot := id }, code := e.code.set id block }
  return id

/-- A new routine that runs the code of `inner` in a scope. -/
def newWrapper (inner : RoutineId) (scope : Scope) : StateM Engine RoutineId := do
  let e ← get
  let id := e.routines.entries.length
  let slot := (e.routine inner).slot
  set { e with routines := e.routines.set id { slot, scope := some scope, wrapped := some inner } }
  return id

/-- Build a draft into a new routine. -/
def define (draft : Draft) : StateM Engine RoutineId := do
  newRoutine (draft.build (← newBlock))

/-! ## Registries, profilers and threads -/

/-- The registry with a given number. -/
def registry (e : Engine) (id : RegistryId) : Registry := e.registries.getD id default

/-- The profiler with a given number. -/
def profiler (e : Engine) (id : ProfilerId) : Profiler := e.profilers.getD id default

/-- Change a registry. -/
def modifyRegistry (id : RegistryId) (f : Registry → Registry) : StateM Engine Unit :=
  modify fun e => { e with registries := e.registries.modify id f }

/-- Change what a registry keeps of the tool id. -/
def modifyShare (id : RegistryId) (f : ToolShare → ToolShare) : StateM Engine Unit :=
  modifyRegistry id fun r => { r with share := f r.share }

/-- What a registry keeps of the tool id. -/
def shareOf (id : RegistryId) : StateM Engine ToolShare := return ((← get).registry id).share

/-- Change a profiler. -/
def modifyProfiler (id : ProfilerId) (f : Profiler → Profiler) : StateM Engine Unit :=
  modify fun e => { e with profilers := e.profilers.modify id f }

/-- Do something with a profiler that may fail. -/
def withProfiler {ε α : Type} (id : ProfilerId) (act : ExceptT ε (StateM Profiler) α) :
    ExceptT ε (StateM Engine) α := fun e =>
  let (out, p) := act.run.run (e.profiler id)
  (out, { e with profilers := e.profilers.modify id fun _ => p })

/-- What the running thread knows of a registry. -/
def dispatchOf (e : Engine) (registry : RegistryId) : Dispatch :=
  e.dispatch.getD (e.thread, registry) {}

/-- Change what the running thread knows of a registry. -/
def modifyDispatch (registry : RegistryId) (f : Dispatch → Dispatch) : StateM Engine Unit :=
  modify fun e =>
    { e with dispatch := e.dispatch.set (e.thread, registry) (f (e.dispatchOf registry)) }

/-- The hook in the trace slot of the running thread. -/
def traceHook? (e : Engine) : Option TraceHook := e.slots.get? e.thread

/-- Put a hook, or none, into the trace slot of the running thread. -/
def setTraceHook (hook : Option TraceHook) : StateM Engine Unit :=
  modify fun e =>
    match hook with
    | some h => { e with slots := e.slots.set e.thread h }
    | none => { e with slots := e.slots.erase e.thread }

/-- A new serial number for a hook. -/
def newSerial : StateM Engine Nat := do
  let e ← get
  set { e with hooks := e.hooks + 1 }
  return e.hooks

/-- Whether a registry still has a machine: someone holds it, or it listens on some thread. -/
def isAttached (e : Engine) (registry : RegistryId) : Bool :=
  !(e.registry registry).released ||
    e.dispatch.entries.any fun d => d.1.2 = registry && d.2.activated

/-- What a profiler's clock shows. -/
def now (e : Engine) (p : Profiler) : Counter :=
  match p.clock with
  | .shared => e.clock
  | .frozen => 0

/-! ## Refusals -/

/-- Why a call of the facility is refused now, if it is. Unguarded calls never are. -/
def refused (guarded : Bool) (call : FacilityCall) : StateM Engine (Option HostError) := do
  if guarded then
    let e ← get
    let (struck, refusals) := Refusal.consult call e.refusals
    set { e with refusals }
    return struck
  else
    return none

/-- Whether the facility is found. -/
def findsFacility (guarded : Bool) : StateM Engine Bool := do
  match ← refused guarded .reach with
  | some _ => return false
  | none => return (← get).monitored

/-! ## Recording -/

/-- Change every profiler that is on for a registry on the running thread. -/
def forEachActive (registry : RegistryId) (f : Engine → Profiler → Profiler) : StateM Engine Unit :=
  modify fun e =>
    (e.dispatchOf registry).active.foldl
      (fun e a => { e with profilers := e.profilers.modify a.1 (f e) }) e

/-- A line of a block starts. -/
def recordLine (registry : RegistryId) (block : BlockHash) (line : UInt32) : StateM Engine Unit :=
  forEachActive registry fun e p => p.lineStarts e.thread block line (e.now p)

/-- A block is left. -/
def recordExit (registry : RegistryId) (block : BlockHash) : StateM Engine Unit :=
  forEachActive registry fun e p => p.blockLeft e.thread block (e.now p)

/-- Drop all that is pending on the running thread. -/
def forgetPending (registry : RegistryId) : StateM Engine Unit :=
  forEachActive registry fun e p => { p with tally := p.tally.forgetThread e.thread }

/-- Whether an active profiler wants events to go on to the hooks that were there before. -/
def wantsWrap (e : Engine) (registry : RegistryId) : Bool :=
  (e.dispatchOf registry).active.any fun a => (e.profiler a.1).wrap

end Engine

end LineClock

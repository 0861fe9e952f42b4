import LineClock.Engine.Basic

/-!
# Watching routines

A routine is added to a profiler by admitting its block to the registry, which may swap it for a
padded copy, and watching the block that came out. Profilers that watch the routine already follow
it to the new block.
-/

namespace LineClock.Engine

/-- A new registry on the machine, unless it asks for what the machine does not have. -/
def newRegistry (choice : BackendChoice) (wrap guarded : Bool) :
    ExceptT ProfilerError (StateM Engine) RegistryId := do
  match choice.pick? (← findsFacility guarded) with
  | none => throw (.unsupportedBackend choice.name)
  | some backend =>
    let e ← get
    let id := e.registries.entries.length
    set { e with registries := e.registries.set id { backend, wrap, guarded } }
    return id

/-- A new profiler of a registry. -/
def newProfiler (registry : RegistryId) (wrap : Option Bool) (clock : Timepiece)
    (sources : Sources) : StateM Engine ProfilerId := do
  let e ← get
  let id := e.profilers.entries.length
  let wrap := wrap.getD (e.registry registry).wrap
  set { e with profilers := e.profilers.set id { registry, wrap, clock, sources } }
  return id

/-- Watch a block with a profiler. -/
def watch (id : ProfilerId) (block : Block) : ExceptT ProfilerError (StateM Engine) Bool := do
  withProfiler id (Profiler.watch (← get).files block)

/-- Make a routine's block fit to be watched: admit it, put the admitted block into the routine's
slot, and enrol the profiler. The other profilers of the routine follow; one that cannot stays
behind. -/
def prepare (registry : RegistryId) (routine : RoutineId) (id : ProfilerId) :
    StateM Engine Block := do
  let before := (← get).codeOf routine
  let copy ← newBlock
  let (block, padding) := ((← get).registry registry).padding.accept before copy
  let (others, padding) := padding.enrol routine before.id block.id id
  modifyRegistry registry fun r => { r with padding }
  if block.id ≠ before.id then
    modify fun e => e.replaceCode routine block
  others.forM fun other => discard <| (watch other block).run
  return block

/-- Add a routine to a profiler; the answer says whether its block was not watched before. -/
def addRoutine (id : ProfilerId) (routine : RoutineId) :
    ExceptT ProfilerError (StateM Engine) Bool := do
  match Profiler.refusal? ((← get).codeOf routine) with
  | some e => throw e
  | none =>
    let block ← prepare ((← get).profiler id).registry routine id
    let added ← watch id block
    modifyProfiler id fun p => p.addRoutine routine
    return added

/-- Add each routine of a list that can be added; the answer counts those whose blocks were not
watched before. -/
def addRoutines (id : ProfilerId) (routines : List RoutineId) : StateM Engine Nat :=
  routines.foldlM (fun n routine => do
    match ← (addRoutine id routine).run with
    | .ok true => return n + 1
    | _ => return n) 0

/-- Add a routine and make a wrapper that switches the profiler on around each of its calls. -/
def wrapRoutine (id : ProfilerId) (routine : RoutineId) :
    ExceptT ProfilerError (StateM Engine) RoutineId := do
  discard <| addRoutine id routine
  newWrapper routine { registry := ((← get).profiler id).registry, profiler := id }

end LineClock.Engine

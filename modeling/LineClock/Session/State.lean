import LineClock.Engine.Host
import LineClock.Session.Step

/-!
# The state of a session

An engine, the tables of names, the scripts with their counters, the generators, and what hooks
wrote down during the running step.
-/

namespace LineClock

namespace Session

/-- The number of a generator. -/
abbrev GeneratorId := Nat

/-- A hook with its rules and how many events fitted each of them. -/
structure Script where
  name : String
  rules : List (Rule × Nat)
  deriving Inhabited

/-- A generator: the routine it was made from and its frame, until it is finished. -/
structure Generator where
  routine : RoutineId
  frame : Option Activation
  running : Bool := false
  deriving Inhabited

/-- Things that go away when nobody holds them any more. -/
inductive Thing where
  | routine (id : RoutineId)
  | profiler (id : ProfilerId)
  | registry (id : RegistryId)
  deriving DecidableEq, Repr, Inhabited

/-- The state of a session. -/
structure State where
  engine : Engine := {}
  registries : Assoc String RegistryId := {}
  profilers : Assoc String ProfilerId := {}
  routines : Assoc String RoutineId := {}
  generators : Assoc String GeneratorId := {}
  hooks : Assoc String ScriptId := {}
  threads : Assoc String ThreadKey := {}
  scripts : Assoc ScriptId Script := {}
  frames : Assoc GeneratorId Generator := {}
  /-- How many worker threads were started. -/
  started : Nat := 0
  /-- Profilers that a running step holds. -/
  held : List ProfilerId := []
  /-- How many steps are running inside one another. -/
  depth : Nat := 0
  /-- Things that went away. -/
  gone : List Thing := []
  /-- The names of native blocks by their identity. -/
  natives : Assoc BlockHash String := {}
  /-- What hooks wrote down, newest first. -/
  notes : List Note := []
  deriving Inhabited

/-- Actions on a session. -/
abbrev Play := StateM State

/-- Actions on a session that may fail. -/
abbrev TryPlay := ExceptT Failure Play

namespace State

/-- The first name in alphabetical order under which a table has a thing. -/
def nameIn {α : Type} [DecidableEq α] (table : Assoc String α) (a : α) : Option String :=
  (table.entries.filter fun e => e.2 = a).foldl
    (fun best e => match best with
      | none => some e.1
      | some b => some (if compare e.1 b = .lt then e.1 else b)) none

/-- The name of a routine. -/
def routineName (s : State) (id : RoutineId) : Option String := nameIn s.routines id

/-- How a reader refers to something that has no name in its table. -/
def otherHook : String := "<other>"

/-- The name of what stands in a trace slot. -/
def traceHookName (s : State) : TraceHook → String
  | .script id => (nameIn s.hooks id).getD otherHook
  | .profiler _ _ => otherHook

/-- The name of a registered callback. -/
def toolHookName (s : State) : ToolHook → String
  | .script id => (nameIn s.hooks id).getD otherHook
  | _ => otherHook

/-- The identity of a block for the reader: a native block by its name. -/
def label (s : State) (hash : BlockHash) : String :=
  match s.natives.get? hash with
  | some name => "native:" ++ name
  | none => Bytes.wordHex hash

end State

/-! ## Names -/

/-- Look a name up. -/
def find {α : Type} (table : State → Assoc String α) (name : String) : TryPlay α := do
  match (table (← get)).get? name with
  | some a => pure a
  | none => throw .unknownName

/-- Act on the engine. -/
def onEngine {α : Type} (act : StateM Engine α) : Play α := fun s =>
  let (a, engine) := act s.engine
  (a, { s with engine })

/-- Act on the engine for a profiler, with failure. -/
def profiling {α : Type} (act : ExceptT ProfilerError (StateM Engine) α) : TryPlay α := do
  match ← (onEngine act.run : Play (Except ProfilerError α)) with
  | .ok a => pure a
  | .error e => throw (.profiler e)

/-- Write a note. -/
def note (n : Note) : Play Unit := modify fun s => { s with notes := n :: s.notes }

/-! ## What goes away -/

namespace State

/-- What a scope holds. -/
def scopeRefs (scope : Option Scope) : List Thing :=
  match scope with
  | none => []
  | some scope => [.registry scope.registry, .profiler scope.profiler]

/-- What a routine holds: the callees of its block, the routine it wraps, and its scope. -/
def routineRefs (s : State) (id : RoutineId) : List Thing :=
  let r := s.engine.routine id
  (s.engine.slotCode r.slot).callees.map .routine ++ (r.wrapped.map Thing.routine).toList ++
    scopeRefs r.scope

/-- What a generator holds: its scope, and the callees of its block until it is finished. -/
def generatorRefs (s : State) (g : Generator) : List Thing :=
  scopeRefs (s.engine.routine g.routine).scope ++
    match g.frame with
    | none => []
    | some act => act.frame.block.callees.map .routine

/-- The profilers that are held as profilers, by name or by a running step. -/
def handles (s : State) : List ProfilerId := s.profilers.values ++ s.held

/-- The generators that are held. -/
def heldGenerators (s : State) : List Generator :=
  s.frames.entries.filterMap fun (id, g) =>
    if g.running ∨ s.generators.values.contains id then some g else none

/-- What a thing holds. -/
def refs (s : State) : Thing → List Thing
  | .routine id => s.routineRefs id
  | .profiler id => (s.engine.profiler id).routines.map .routine
  | .registry _ => []

/-- Everything that came into being. -/
def things (s : State) : List Thing :=
  s.engine.routines.keys.map .routine ++ s.engine.profilers.keys.map .profiler ++
    s.engine.registries.keys.map .registry

/-- What is held directly by the session: by names, running steps, generators and threads. -/
def roots (s : State) : List Thing :=
  s.routines.values.map .routine ++ s.registries.values.map .registry ++
    s.handles.flatMap (fun p => [.profiler p, .registry (s.engine.profiler p).registry]) ++
    s.heldGenerators.flatMap s.generatorRefs ++
    s.engine.dispatch.values.flatMap fun d => d.active.map fun a => .profiler a.1

/-- The things that nothing holds which is still there. -/
def orphans (s : State) : List Thing :=
  let alive := s.things.filter fun t => ¬ s.gone.contains t
  let held := s.roots ++ alive.flatMap s.refs
  alive.filter fun t => ¬ held.contains t

end State

/-- Let a thing go. When a registry goes, the running thread forgets it. -/
def release (t : Thing) : Play Unit := do
  modify fun s => { s with gone := t :: s.gone }
  match t with
  | .registry id =>
    onEngine (Engine.modifyRegistry id fun r => { r with released := true })
    onEngine (Engine.forget id)
  | _ => pure ()

/-- Let everything go that nothing holds, and then what only that held. While steps run inside one
another, blocks are running, so routines stay. -/
def sweep : Nat → Play Unit
  | 0 => pure ()
  | fuel + 1 => do
    let s ← get
    let orphans := s.orphans.filter fun t =>
      match t with
      | .routine _ => s.depth = 0
      | _ => true
    if orphans.isEmpty then
      pure ()
    else
      orphans.forM release
      sweep fuel

/-- Let everything go that nothing holds. -/
def collect : Play Unit := do
  sweep ((← get).things.length + 1)

/-- A profiler that is no longer held as a profiler is switched off on the running thread. -/
def letGo (id : ProfilerId) : Play Unit := do
  let s ← get
  unless s.handles.contains id do
    discard <| onEngine (Engine.remove (s.engine.profiler id).registry id).run

end Session

end LineClock

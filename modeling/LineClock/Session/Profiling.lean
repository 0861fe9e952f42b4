import LineClock.Report.Basic
import LineClock.Session.Code
import LineClock.Settings.Document
import LineClock.Snapshot.File

/-!
# Steps on registries and profilers
-/

namespace LineClock.Session

/-- A supply of source text. Files that come with it are written first. -/
def supply : SourceChoice → Play Sources
  | .none => pure .none
  | .files => pure .files
  | .texts texts => pure (.ofTexts texts)
  | .written files => do
    files.forM fun f => modify fun s =>
      match s.engine.files.write f.1 f.2 with
      | .ok files => { s with engine := { s.engine with files } }
      | .error _ => s
    pure .files

/-- What a wish for a registry asks for. -/
def RegistryWish.read : RegistryWish → Except ConfigError (BackendChoice × Bool)
  | .plain choice wrap => .ok (choice, wrap)
  | .settings text =>
    match Settings.overlayText? {} text with
    | some s => .ok (s.backend, s.wrapTrace)
    | none => .error (.parse "")

/-- Make a registry. -/
def makeRegistry (name : String) (wish : RegistryWish) (guarded : Bool) : TryPlay Answer := do
  match wish.read with
  | .error e => throw (.profiler (.config e))
  | .ok (choice, wrap) =>
    let id ← profiling (Engine.newRegistry choice wrap guarded)
    modify fun s => { s with registries := s.registries.set name id }
    return .registry ((← get).engine.registry id).backend wrap

/-- Whether a profiler of a registry is on here. -/
def isActive (registry : String) : TryPlay Answer := do
  let id ← find State.registries registry
  return .flag ((← get).engine.dispatchOf id).isActive

/-- How many blocks a registry has admitted. -/
def knownBlocks (registry : String) : TryPlay Answer := do
  let id ← find State.registries registry
  return .count ((← get).engine.registry id).padding.known.length

/-- Make a profiler. One that had the name is no longer held by it. -/
def makeProfiler (name registry : String) (wrap : Option Bool) (clock : Timepiece)
    (sources : SourceChoice) : TryPlay Answer := do
  let r ← find State.registries registry
  let sources ← (supply sources : Play Sources)
  let id ← (onEngine (Engine.newProfiler r wrap clock sources) : Play ProfilerId)
  let before := (← get).profilers.get? name
  modify fun s => { s with profilers := s.profilers.set name id }
  before.toList.forM fun old => (letGo old : Play Unit)
  let e := (← get).engine
  return .profiler (e.registry r).backend (e.profiler id).wrap Profiler.unit

/-- Add a routine. -/
def add (profiler routine : String) : TryPlay Answer := do
  let p ← find State.profilers profiler
  let r ← find State.routines routine
  return .flag (← profiling (Engine.addRoutine p r))

/-- Add routines. -/
def addAll (profiler : String) (routines : List String) : TryPlay Answer := do
  let p ← find State.profilers profiler
  let rs ← routines.mapM (find State.routines)
  return .count (← (onEngine (Engine.addRoutines p rs) : Play Nat))

/-- Add the routines behind a callable. -/
def addCallable (profiler : String) (c : Callable String) : TryPlay Answer := do
  let p ← find State.profilers profiler
  let c ← resolve c
  return .count (← (onEngine (Engine.addRoutines p c.routines) : Play Nat))

/-- Wrap a routine. -/
def wrap (profiler routine name : String) : TryPlay Answer := do
  let p ← find State.profilers profiler
  let r ← find State.routines routine
  nameRoutine name (← profiling (Engine.wrapRoutine p r))
  return .done

/-- The registry of a profiler. -/
def registryOf (p : ProfilerId) : Play RegistryId := return ((← get).engine.profiler p).registry

/-- Switch a profiler on. -/
def enable (profiler : String) : TryPlay Answer := do
  let p ← find State.profilers profiler
  return .count (← profiling (Engine.enable (← registryOf p) p))

/-- Switch a profiler off. -/
def disable (profiler : String) : TryPlay Answer := do
  let p ← find State.profilers profiler
  return .count (← profiling (Engine.disable (← registryOf p) p))

/-- How often a profiler is on here. -/
def enableCount (profiler : String) : TryPlay Answer := do
  let p ← find State.profilers profiler
  return .count (((← get).engine.dispatchOf (← registryOf p)).countOf p)

/-- Hold a profiler switched on while steps run. If it cannot be switched on, they do not run; a
failure to switch it off stays without effect. -/
def runWith (profiler : String) (steps : Play (List Answer)) : TryPlay Answer := do
  let p ← find State.profilers profiler
  let registry ← registryOf p
  discard <| profiling (Engine.enable registry p)
  modify fun s => { s with held := p :: s.held }
  let answers ← (steps : Play (List Answer))
  discard <| (onEngine (Engine.disable registry p).run : Play _)
  modify fun s => { s with held := s.held.erase p }
  (letGo p : Play Unit)
  return .all answers

/-- A profiler as it is now. -/
def profilerNow (profiler : String) : TryPlay Profiler := do
  return (← get).engine.profiler (← find State.profilers profiler)

/-- The snapshot of a profiler. -/
def stats (profiler : String) : TryPlay Answer := do
  return .stats (← profilerNow profiler).snapshot

/-- The rows of a function. -/
def rows (profiler name : String) : TryPlay Answer := do
  return .rows ((← profilerNow profiler).snapshot.byName? name)

/-- The routines of a profiler. -/
def routines (profiler : String) : TryPlay Answer := do
  let p ← profilerNow profiler
  return .names (p.routines.map (← get).routineName)

/-- The identities a profiler watches, by site. -/
def hashes (profiler : String) : TryPlay Answer := do
  let p ← profilerNow profiler
  let s ← get
  return .hashes (p.sites.entries.map fun e => (e.1, e.2.map s.label))

/-- The lines a profiler watches in the block of a routine. -/
def blockLines (profiler routine : String) : TryPlay Answer := do
  let p ← profilerNow profiler
  let block ← blockOf (← find State.routines routine)
  return .lines ((p.blocks.get? block.identity).map Watch.lines)

/-- The order of pending marks for the reader. -/
def markLe (a b : String × UInt32 × Counter) : Bool :=
  ((compare a.1 b.1).then ((compare a.2.1 b.2.1).then (compare a.2.2 b.2.2))).isLE

/-- What is pending here for a profiler. -/
def pending (profiler : String) : TryPlay Answer := do
  let p ← profilerNow profiler
  let s ← get
  let marks := (p.tally.pendingOn s.engine.thread).map fun m => (s.label m.1, m.2.line, m.2.ticks)
  return .pending (marks.mergeSort markLe)

/-- Write the snapshot of a profiler as a report. -/
def render (profiler : String) (options : Report.Options) (sources : SourceChoice) :
    TryPlay Answer := do
  let p ← profilerNow profiler
  let sources ← (supply sources : Play Sources)
  let files := (← get).engine.files
  return .text (some (Report.text options (sources.lines files) p.snapshot))

/-- Store the snapshot of a profiler in a file. The answer is what was stored. -/
def dump (profiler path : String) : TryPlay Answer := do
  let p ← profilerNow profiler
  let stored ← (onEngine (fun e =>
    let (stored, files) := Snapshot.write Files.disk p.snapshot path e.files
    (stored, { e with files })) : Play (Except StatsError Unit))
  match stored with
  | .ok () => return .bytes p.snapshot.encode
  | .error e => throw (.profiler (.stats e))

/-- Take a name out of its table. The answer says whether it was there. -/
def dropName (table : Table) (name : String) : TryPlay Answer := do
  let s ← get
  match table with
  | .profilers =>
    set { s with profilers := s.profilers.erase name }
    (s.profilers.get? name).toList.forM fun p => (letGo p : Play Unit)
    return .flag (s.profilers.contains name)
  | .registries =>
    set { s with registries := s.registries.erase name }
    return .flag (s.registries.contains name)
  | .generators =>
    set { s with generators := s.generators.erase name }
    return .flag (s.generators.contains name)
  | .routines =>
    set { s with routines := s.routines.erase name }
    return .flag (s.routines.contains name)

end LineClock.Session

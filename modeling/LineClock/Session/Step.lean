import LineClock.Callable
import LineClock.Engine.Watch
import LineClock.Report.Options

/-!
# Steps of a session

A session is a list of steps that define code, make profilers and run programs. Things are called by
names. A hook is a script: rules that say what to do when an event comes by, among it steps again.
-/

namespace LineClock

namespace Session

/-- Where the text of a source line comes from. -/
inductive SourceChoice where
  | none
  | files
  | texts (texts : List (String × String))
  /-- Files that are written first. -/
  | written (files : List (String × Bytes))
  deriving Inhabited

/-- The outline of a routine to be defined. -/
structure Outline where
  name : String
  title : String
  file : String
  firstLine : UInt32
  generator : Bool := false
  native : Bool := false
  deriving Inhabited

/-- One instruction of a definition. -/
inductive Piece where
  | op (op : Op)
  /-- A call of the routine with a given name. -/
  | call (routine : String)
  deriving Inhabited

/-- An instruction and, where the line changes, its line. -/
structure Entry where
  line : Option UInt32
  piece : Piece
  deriving Inhabited

/-- How a registry is asked for. -/
inductive RegistryWish where
  | plain (choice : BackendChoice) (wrap : Bool)
  /-- By settings as they stand in a settings file. -/
  | settings (text : String)
  deriving Inhabited

/-- The tables of names. -/
inductive Table where
  | profilers
  | registries
  | generators
  | routines
  deriving DecidableEq, Inhabited

/-- When a rule of a script applies. A field that is absent holds for every event. -/
structure Trigger where
  event : Option String := none
  line : Option UInt32 := none
  name : Option String := none
  /-- Which of the events that fit. -/
  nth : Option Nat := none
  /-- How many of the events that fit. -/
  times : Option Nat := none
  deriving Inhabited

mutual
/-- One step. -/
inductive Step where
  | define (outline : Outline) (body : List Entry)
  | share (routine name : String)
  | replaceCode (routine source : String)
  | pad (routine : String) (units : Nat)
  | code (routine : String)
  | lineAt (routine : String) (offset : Nat)
  | about (routine : String)
  | compare (routine other : String)
  | classify (callable : Callable String)
  | registry (name : String) (wish : RegistryWish) (guarded : Bool)
  | isActive (registry : String)
  | knownBlocks (registry : String)
  | profiler (name registry : String) (wrap : Option Bool) (clock : Timepiece)
      (sources : SourceChoice)
  | add (profiler routine : String)
  | addAll (profiler : String) (routines : List String)
  | addCallable (profiler : String) (callable : Callable String)
  | wrap (profiler routine name : String)
  | enable (profiler : String)
  | disable (profiler : String)
  | enableCount (profiler : String)
  | run (profiler : String) (steps : List Step)
  | stats (profiler : String)
  | rows (profiler name : String)
  | routines (profiler : String)
  | hashes (profiler : String)
  | blockLines (profiler routine : String)
  | pending (profiler : String)
  | dump (profiler path : String)
  | render (profiler : String) (options : Report.Options) (sources : SourceChoice)
  | drop (table : Table) (name : String)
  | call (routine : String)
  | generator (name routine : String)
  | resume (generator : String)
  | clock
  | advance (ticks : Counter)
  | hook (name : String) (rules : List Rule)
  | setTrace (hook : Option String)
  | getTrace
  | claimTool (tool : ToolId) (name : String)
  | freeTool (tool : ToolId)
  | holder (tool : ToolId)
  | register (tool : ToolId) (kind : EventKind) (hook : Option String)
  | registered (tool : ToolId) (kind : EventKind)
  | getEvents (tool : ToolId)
  | setEvents (tool : ToolId) (events : EventSet)
  | restart
  | restarts
  | refuse (refusal : Refusal)
  | endThread (thread : String)

/-- What a rule does. -/
inductive Action where
  /-- Fail at once. -/
  | fail (text : String)
  /-- Switch line events of the frame on or off once all rules are done. -/
  | lines (on : Bool)
  /-- Ask not to hear of this location any more. -/
  | disable
  | step (step : Step)

/-- A rule of a script. -/
inductive Rule where
  | mk (trigger : Trigger) (actions : List Action)
end

instance : Inhabited Step := ⟨.clock⟩

instance : Inhabited Rule := ⟨.mk {} []⟩

/-- A step and the thread it runs on, the main thread if none is named. -/
structure Command where
  thread : Option String := none
  step : Step
  deriving Inhabited

/-! ## Answers -/

/-- Why a step failed. -/
inductive Failure where
  | profiler (error : ProfilerError)
  | host (error : HostError)
  | exec (error : ExecError)
  /-- The generator is being resumed already. -/
  | generatorRunning
  /-- The machine has no facility. -/
  | noFacility
  /-- A name is not in its table. -/
  | unknownName
  deriving DecidableEq, Repr, Inhabited

/-- What a step answers. -/
inductive Answer where
  | done
  | failed (failure : Failure)
  | flag (value : Bool)
  | count (n : Nat)
  /-- A text, or none. -/
  | text (text : Option String)
  | line (line : Option UInt32)
  | lines (lines : Option (List UInt32))
  /-- A block with its identity and its callees, written for the reader. -/
  | code (block : Block) (identity : String) (callees : List (Option String))
  | about (name : String) (hasScope : Bool) (wrapped : Option String)
  /-- Whether two routines have one block, blocks of one identity, or are one routine. -/
  | compared (block identity routine : Bool)
  /-- The name of a callable and its routines, each with whether its code is native. -/
  | classified (name : String) (routines : List (Option String × Bool))
  | registry (backend : Backend) (wrap : Bool)
  | profiler (backend : Backend) (wrap : Bool) (unit : Float)
  | all (answers : List Answer)
  | stats (snapshot : Snapshot)
  | rows (rows : Option (List Row))
  | names (names : List (Option String))
  | hashes (hashes : List (Site × List String))
  | pending (marks : List (String × UInt32 × Counter))
  | bytes (bytes : Bytes)
  /-- How a generator was left, and whether it is finished. -/
  | resumed (outcome : Except ExecError Flow) (finished : Bool)
  | previous (hook : Option String)
  | kinds (kinds : List EventKind)
  deriving Inhabited

/-- What hooks write down. -/
inductive Note where
  | trace (hook : String) (event : TraceEvent) (frame : Frame)
  | monitor (hook : String) (event : MonitorEvent)
  | did (answer : Answer)
  deriving Inhabited

end Session

end LineClock

import LineClock.Engine.Host
import LineClock.Engine.Watch
import LineClock.Proofs.Machine.Outcome

/-!
# Courses

A `Course` is what is done with a machine on which one registry lives: a list of turns, each a move
on a thread. Moves define code, make profilers, register code with them, switch them, and run
programs, the frames of generators one step at a time. `play` plays a course over any state that has
an engine in it, on any machine over that state.
-/

namespace LineClock.Course

open Machine Engine

/-- The registry to which all profilers of a course belong. -/
def registry : RegistryId := 0

/-- What can be done without running a program. -/
inductive Task where
  | profiler (wrap : Option Bool) (clock : Timepiece) (sources : Sources)
  | define (draft : Draft)
  /-- A new routine of the block of another. -/
  | share (routine : RoutineId)
  | replaceCode (routine source : RoutineId)
  /-- A padded copy instead of the block of a routine. -/
  | pad (routine : RoutineId) (units : Nat)
  | write (path : String) (bytes : Bytes)
  | add (p : ProfilerId) (routine : RoutineId)
  | addAll (p : ProfilerId) (routines : List RoutineId)
  | wrapper (p : ProfilerId) (routine : RoutineId)
  | enable (p : ProfilerId)
  | disable (p : ProfilerId)
  | advance (ticks : Counter)

/-- What can be done. -/
inductive Move where
  | task (t : Task)
  | call (routine : RoutineId)
  | generator (routine : RoutineId)
  | resume (generator : Nat)

/-- A move on a thread. -/
structure Turn where
  thread : ThreadKey := 0
  move : Move

/-- What a move answers. -/
inductive Reply where
  | done
  | number (n : Nat)
  | flag (value : Bool)
  | refused (error : ProfilerError)
  | ran (outcome : Except ExecError Unit)
  | left (outcome : Except ExecError Flow)

/-- What something that may be refused answers. -/
def Reply.ofTry {α : Type} (reply : α → Reply) : Except ProfilerError α → Reply
  | .ok a => reply a
  | .error e => .refused e

/-- A generator: its routine, and its frame until it is finished. -/
structure Generator where
  routine : RoutineId
  frame : Option Activation

/-- The state of a course. -/
structure Stage (σ : Type) where
  state : σ
  generators : List Generator := []

/-- Do a task. -/
def Task.act : Task → StateM Engine Reply
  | .profiler wrap clock sources => return .number (← newProfiler registry wrap clock sources)
  | .define draft => return .number (← Engine.define draft)
  | .share routine => do
    let block := (← get).codeOf routine
    return .number (← newRoutine block)
  | .replaceCode routine source => do
    let block := (← get).codeOf source
    modify fun e => e.replaceCode routine block
    return .done
  | .pad routine units => do
    let copy ← newBlock
    let block := ((← get).codeOf routine).withPadding units copy
    modify fun e => e.replaceCode routine block
    return .done
  | .write path bytes => do
    modify fun e =>
      match e.files.write path bytes with
      | .ok files => { e with files }
      | .error _ => e
    return .done
  | .add p routine => return .ofTry .flag (← (addRoutine p routine).run)
  | .addAll p routines => return .number (← addRoutines p routines)
  | .wrapper p routine => return .ofTry .number (← (wrapRoutine p routine).run)
  | .enable p => do
    let own := ((← get).profiler p).registry
    return .ofTry .number (← (Engine.enable own p).run)
  | .disable p => do
    let own := ((← get).profiler p).registry
    return .ofTry .number (← (Engine.disable own p).run)
  | .advance ticks => do
    modify fun e => { e with clock := e.clock.satAdd ticks }
    return .done

/-- A file that cannot be written leaves everything as it was. -/
theorem Task.run_write (path : String) (bytes : Bytes) (e : Engine) :
    ((Task.write path bytes).act.run e).2 =
      match e.files.write path bytes with
      | .ok files => { e with files }
      | .error _ => e := rfl

variable {σ : Type} (s : Scripts σ) (host : Host σ) (budget : Nat)

/-- A generator once its frame was resumed. -/
def Generator.after (g : Generator) : Except ExecError (Flow × Activation) → Generator
  | .ok (.yielded, act) => { g with frame := some act }
  | _ => { g with frame := none }

/-- Make a move. A generator that is finished stays finished. -/
def Move.perform (m : Move) (st : Stage σ) : Reply × Stage σ :=
  match m with
  | .task t =>
    let (reply, x) := (s.run t.act).run st.state
    (reply, { st with state := x })
  | .call routine =>
    let (o, x) := (Machine.call host budget routine).out st.state
    (.ran o, { st with state := x })
  | .generator routine =>
    let (id, x) := host.newFrame.run st.state
    let g : Generator := { routine, frame := some (fresh id (host.code st.state routine)) }
    (.number st.generators.length, { state := x, generators := st.generators ++ [g] })
  | .resume i =>
    match st.generators[i]? with
    | none => (.done, st)
    | some g =>
      match g.frame with
      | none => (.left (.ok .returned), st)
      | some act =>
        let (o, x) := (Machine.step host budget g.routine act).out st.state
        (.left (o.map Prod.fst), { state := x, generators := st.generators.set i (g.after o) })

/-- Go to a thread. -/
def Turn.enter (t : Turn) (st : Stage σ) : Stage σ :=
  { st with state := s.withEngine st.state { s.engine st.state with thread := t.thread } }

/-- Play a course. The answers are those of the moves, in order. -/
def play : List Turn → Stage σ → List Reply × Stage σ
  | [], st => ([], st)
  | t :: rest, st =>
    let (reply, st) := t.move.perform s host budget (t.enter s st)
    let (replies, st) := play rest st
    (reply :: replies, st)

/-- A machine with one registry, before anything was done. -/
def start (b : Backend) (monitored wrap : Bool) : Engine :=
  (answer (newRegistry (.fixed b) wrap false) { monitored }).2

end LineClock.Course

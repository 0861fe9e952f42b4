import LineClock.Error
import LineClock.Machine.Event

/-!
# The machine

The machine runs blocks and announces events. It knows nothing of who listens: a `Host` over a
state `σ` supplies the code of routines, takes the announcements and moves the clock. A line is
announced when it differs from the line of the unit before it and after every jump back.

A run is bounded twice: calls nest at most `maxDepth` deep, and each resumption of a frame executes
at most `budget` units. Using up the budget is an outcome of its own, `ExecError.unfinished`.
-/

namespace LineClock

/-- What the machine asks of its surroundings. -/
structure Host (σ : Type) where
  /-- The block a routine would run now. -/
  code : σ → RoutineId → Block
  newFrame : StateM σ FrameId
  /-- Spend units of work. -/
  work : UInt8 → StateM σ Unit
  /-- Announce an event of a frame; the answer says whether line events of the frame stay on. -/
  trace : Frame → TraceEvent → ExceptT HookError (StateM σ) Bool
  /-- Announce a monitoring event. -/
  monitor : MonitorEvent → ExceptT HookError (StateM σ) Unit
  /-- Enter the scope of a wrapper, if the routine is one. -/
  enter : RoutineId → ExceptT HookError (StateM σ) Unit
  /-- Leave the scope of a wrapper. -/
  leave : RoutineId → StateM σ Unit

/-- A frame with its control state: the next unit and the counters of the open loops, innermost
first. -/
structure Activation where
  frame : Frame
  next : Nat := 0
  loops : List Nat := []
  started : Bool := false
  deriving DecidableEq, Repr, Inhabited

/-- How a frame gives control back. -/
inductive Flow where
  | returned
  | yielded
  deriving DecidableEq, Repr, Inhabited

/-- What to do after a unit. -/
inductive Outcome where
  | stop (flow : Flow)
  /-- Go on with the next unit; `jumped` says that it was reached by a jump back. -/
  | goOn (jumped : Bool)
  deriving DecidableEq, Repr, Inhabited

namespace Machine

/-- The deepest nesting of calls. -/
def maxDepth : Nat := 256

/-- The activation of a block that has not run yet. -/
def fresh (id : FrameId) (block : Block) : Activation where
  frame := { id, block, line := block.firstLine }

variable {σ : Type}

/-- Calls and their outcome, over the state of a host. -/
abbrev Exec (σ : Type) := ExceptT ExecError (StateM σ)

/-- Steps of one activation. -/
abbrev Act (σ : Type) := ExceptT ExecError (StateT Activation (StateM σ))

/-- Use a hook's outcome: its failure is raised in the running frame. -/
def lift {α : Type} (x : ExceptT HookError (StateM σ) α) : Act σ α := do
  match ← (x.run : StateM σ (Except HookError α)) with
  | .ok a => pure a
  | .error e => throw (.hook e)

/-- Announce an event of the running frame to the trace hook. -/
def signal (host : Host σ) (event : TraceEvent) (suspended : Bool) : Act σ Unit := do
  let act ← get
  if event ≠ .line ∨ act.frame.linesOn then
    let linesOn ← lift (host.trace { act.frame with suspended } event)
    modify fun act => { act with frame := { act.frame with linesOn } }

/-- Announce a monitoring event at the place where the frame stands. -/
def notify (host : Host σ) (kind : EventKind) : Act σ Unit := do
  let frame := (← get).frame
  lift (host.monitor ⟨kind, frame.block, frame.offset, frame.line⟩)

/-- Announce that a line starts. -/
def startLine (host : Host σ) : Act σ Unit := do
  signal host .line false
  notify host .line

/-- Move the frame to the unit that comes next. -/
def arrive (instr : Instr) : Act σ Unit :=
  modify fun act =>
    { act with frame := { act.frame with offset := act.next, line := instr.line } }

/-- Count down the innermost loop: back to `target` while it is not done. A loop whose counter is
used up is closed; without an open loop nothing happens. -/
def endLoop (target : UInt8) (act : Activation) : Activation × Bool :=
  match act.loops with
  | [] => (act, false)
  | n :: outer =>
    if 0 < n - 1 then ({ act with next := target.toNat, loops := (n - 1) :: outer }, true)
    else ({ act with loops := outer }, false)

/-- Carry out one unit, with `call` for the calls in it. -/
def perform (host : Host σ) (call : RoutineId → Exec σ Unit) (instr : Instr) : Act σ Outcome := do
  let block := (← get).frame.block
  match instr.op with
  | .nop => pure (.goOn false)
  | .work n =>
    (host.work n : StateM σ Unit)
    pure (.goOn false)
  | .call index =>
    match block.callees[index.toNat]? with
    | none => throw (.badCallee block.name index)
    | some callee =>
      match ← ((call callee).run : StateM σ (Except ExecError Unit)) with
      | .ok () => pure (.goOn false)
      | .error e => throw e
  | .loopStart n =>
    modify fun act => { act with loops := n.toNat :: act.loops }
    pure (.goOn false)
  | .loopEnd target =>
    let (act, jumped) := endLoop target (← get)
    set act
    pure (.goOn jumped)
  | .yield => pure (if block.generator then .stop .yielded else .goOn false)
  | .raise => throw (.raised block.name instr.line)
  | .ret => pure (.stop .returned)

/-- Run the units of a frame from where it stands. `last` is the line of the unit before, if the
next unit was not reached by a jump. -/
def execute (host : Host σ) (call : RoutineId → Exec σ Unit) :
    Nat → Option UInt32 → Act σ Flow
  | 0, _ => throw .unfinished
  | budget + 1, last => do
    let act ← get
    match act.frame.block.instrs[act.next]? with
    | none => pure .returned
    | some instr =>
      arrive instr
      if last ≠ some instr.line then
        startLine host
      modify fun act => { act with next := act.next + 1 }
      match ← perform host call instr with
      | .stop flow => pure flow
      | .goOn jumped => execute host call budget (if jumped then none else some instr.line)

/-- An exception passes through the frame and ends it. A hook that fails on the way replaces the
error. -/
def unwind (host : Host σ) (error : ExecError) : Act σ Flow := do
  signal host .exception false
  notify host .raise
  signal host .ret false
  notify host .unwind
  throw error

/-- Announce that a frame is entered, and when it is entered first that it starts. -/
def enterFrame (host : Host σ) : Act σ Unit := do
  signal host .call false
  let act ← get
  unless act.started do
    set { act with started := true }
    lift (host.monitor ⟨.start, act.frame.block, 0, act.frame.block.firstLine⟩)

/-- Announce that the frame is left. -/
def depart (host : Host σ) (flow : Flow) : Act σ Unit := do
  signal host .ret (flow = .yielded)
  notify host (if flow = .yielded then .yield else .ret)

/-- Enter a frame, run it until it returns, yields or fails, and leave it. -/
def resume (host : Host σ) (call : RoutineId → Exec σ Unit) (budget : Nat) : Act σ Flow := do
  enterFrame host
  let flow ← tryCatch (execute host call budget none) (unwind host)
  depart host flow
  pure flow

/-- Resume a frame inside the scope of the routine it belongs to. -/
def resumeScoped (host : Host σ) (call : RoutineId → Exec σ Unit) (budget : Nat)
    (routine : RoutineId) (act : Activation) : Exec σ (Flow × Activation) := do
  match ← ((host.enter routine).run : StateM σ (Except HookError Unit)) with
  | .error e => throw (.hook e)
  | .ok () =>
    let (outcome, act) ← ((resume host call budget).run.run act : StateM σ _)
    (host.leave routine : StateM σ Unit)
    match outcome with
    | .ok flow => pure (flow, act)
    | .error e => throw e

/-- Resume a frame until it returns. -/
def drain (host : Host σ) (call : RoutineId → Exec σ Unit) (budget : Nat) (routine : RoutineId) :
    Nat → Activation → Exec σ Unit
  | 0, _ => throw .unfinished
  | rounds + 1, act => do
    let (flow, act) ← resumeScoped host call budget routine act
    match flow with
    | .returned => pure ()
    | .yielded => drain host call budget routine rounds act

/-- Call a routine where calls may nest `depth` deep. A generator is drained. -/
def invoke (host : Host σ) (budget : Nat) : Nat → RoutineId → Exec σ Unit
  | 0, _ => throw (.recursionLimit maxDepth)
  | depth + 1, routine => do
    let block := host.code (← get) routine
    let id ← (host.newFrame : StateM σ FrameId)
    drain host (invoke host budget depth) budget routine budget (fresh id block)

/-- Call a routine from outside. -/
def call (host : Host σ) (budget : Nat) (routine : RoutineId) : Exec σ Unit :=
  invoke host budget maxDepth routine

/-- Resume a suspended frame from outside; its calls nest below it. -/
def step (host : Host σ) (budget : Nat) (routine : RoutineId) (act : Activation) :
    Exec σ (Flow × Activation) :=
  resumeScoped host (invoke host budget (maxDepth - 1)) budget routine act

end Machine

end LineClock

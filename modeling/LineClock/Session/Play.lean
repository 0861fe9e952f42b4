import LineClock.Session.Profiling
import LineClock.Session.Running

/-!
# Playing a session

Steps run one after another. A hook that is a script notes the event and then applies its rules in
order; what its rules do are steps again, on the thread on which the event came by. Scripts nest at
most `maxNesting` deep; deeper events find hooks that do nothing.
-/

namespace LineClock.Session

/-- Perform a step as part of a session: count it as running, and let go what it no longer holds. -/
def conclude (act : TryPlay Answer) : Play Answer := do
  modify fun s => { s with depth := s.depth + 1 }
  let answer ← act.run
  modify fun s => { s with depth := s.depth - 1 }
  collect
  match answer with
  | .ok a => return a
  | .error f => return .failed f

mutual
/-- Perform a step on the running thread. -/
def Step.perform (host : Host State) : Step → Play Answer
  | .define outline body => conclude (define outline body)
  | .share routine name => conclude (Session.share routine name)
  | .replaceCode routine source => conclude (Session.replaceCode routine source)
  | .pad routine units => conclude (Session.pad routine units)
  | .code routine => conclude (showCode routine)
  | .lineAt routine offset => conclude (Session.lineAt routine offset)
  | .about routine => conclude (Session.about routine)
  | .compare routine other => conclude (compareRoutines routine other)
  | .classify callable => conclude (Session.classify callable)
  | .registry name wish guarded => conclude (makeRegistry name wish guarded)
  | .isActive registry => conclude (Session.isActive registry)
  | .knownBlocks registry => conclude (Session.knownBlocks registry)
  | .profiler name registry wrap clock sources =>
    conclude (makeProfiler name registry wrap clock sources)
  | .add profiler routine => conclude (Session.add profiler routine)
  | .addAll profiler routines => conclude (Session.addAll profiler routines)
  | .addCallable profiler callable => conclude (Session.addCallable profiler callable)
  | .wrap profiler routine name => conclude (Session.wrap profiler routine name)
  | .enable profiler => conclude (Session.enable profiler)
  | .disable profiler => conclude (Session.disable profiler)
  | .enableCount profiler => conclude (Session.enableCount profiler)
  | .run profiler steps => conclude (runWith profiler (performAll host steps))
  | .stats profiler => conclude (Session.stats profiler)
  | .rows profiler name => conclude (Session.rows profiler name)
  | .routines profiler => conclude (Session.routines profiler)
  | .hashes profiler => conclude (Session.hashes profiler)
  | .blockLines profiler routine => conclude (Session.blockLines profiler routine)
  | .pending profiler => conclude (Session.pending profiler)
  | .dump profiler path => conclude (Session.dump profiler path)
  | .render profiler options sources => conclude (Session.render profiler options sources)
  | .drop table name => conclude (dropName table name)
  | .call routine => conclude (Session.call host routine)
  | .generator name routine => conclude (makeGenerator host name routine)
  | .resume generator => conclude (Session.resume host generator)
  | .clock => conclude (return .count (← get).engine.clock.toNat)
  | .advance ticks => conclude (Session.advance ticks : Play Answer)
  | .hook name rules => conclude (makeHook name rules : Play Answer)
  | .setTrace hook => conclude (Session.setTrace hook)
  | .getTrace => conclude (Session.getTrace : Play Answer)
  | .claimTool tool name => conclude (Session.claimTool tool name)
  | .freeTool tool => conclude (Session.freeTool tool)
  | .holder tool => conclude (Session.holder tool)
  | .register tool kind hook => conclude (Session.register tool kind hook)
  | .registered tool kind => conclude (Session.registered tool kind)
  | .getEvents tool => conclude (Session.getEvents tool)
  | .setEvents tool events => conclude (Session.setEvents tool events)
  | .restart => conclude Session.restart
  | .restarts => conclude Session.restarts
  | .refuse refusal => conclude (Session.refuse refusal : Play Answer)
  | .endThread thread => conclude (Session.endThread thread : Play Answer)

/-- Perform steps in order. -/
def performAll (host : Host State) : List Step → Play (List Answer)
  | [] => pure []
  | step :: rest => do
    let answer ← step.perform host
    let answers ← performAll host rest
    return answer :: answers
end

/-! ## Scripts -/

/-- An event as the rules of scripts see it. -/
structure Occasion where
  event : String
  line : UInt32
  name : String
  deriving Inhabited

/-- What the rules of a script ask for. -/
structure Wishes where
  lines : Option Bool := none
  disable : Bool := false
  deriving Inhabited

/-- Whether an event fits a rule. -/
def Trigger.fits (t : Trigger) (o : Occasion) : Bool :=
  t.event.all (· = o.event) && t.line.all (· = o.line) && t.name.all (· = o.name)

/-- Whether a rule applies to the `n`-th event that fits it. -/
def Trigger.applies (t : Trigger) (n : Nat) : Bool := t.nth.all (· = n) && t.times.all (n ≤ ·)

/-- Carry out an action of a rule. -/
def Action.act (perform : Step → Play Answer) (w : Wishes) :
    Action → ExceptT HookError Play Wishes
  | .fail text => throw ⟨text⟩
  | .lines on => pure { w with lines := some on }
  | .disable => pure { w with disable := true }
  | .step next => do
    let answer ← (perform next : Play Answer)
    (note (.did answer) : Play Unit)
    pure w

/-- Count an event that fits the rule at an index of a script; the answer is its number. -/
def countFit (script : ScriptId) (index : Nat) : Play Nat := do
  let s ← get
  let rules := (s.scripts.getD script default).rules
  let n := ((rules[index]?.map Prod.snd).getD 0) + 1
  set { s with scripts := s.scripts.modify script fun sc =>
    { sc with rules := sc.rules.modify index fun r => (r.1, n) } }
  return n

/-- Apply the rule at an index of a script. -/
def applyRule (perform : Step → Play Answer) (script : ScriptId) (o : Occasion) (w : Wishes)
    (rule : Rule × Nat) : ExceptT HookError Play Wishes := do
  let (.mk trigger actions, index) := rule
  if trigger.fits o then
    if trigger.applies (← countFit script index) then
      return ← actions.foldlM (Action.act perform) w
  return w

/-- Apply all rules of a script. -/
def applyRules (perform : Step → Play Answer) (script : ScriptId) (o : Occasion) :
    ExceptT HookError Play Wishes := do
  let rules := ((← get).scripts.getD script default).rules.map Prod.fst
  rules.zipIdx.foldlM (applyRule perform script o) {}

/-- The name of a hook. -/
def hookName (script : ScriptId) : Play String :=
  return ((← get).scripts.getD script default).name

/-- A script answers a trace event. -/
def answerTrace (perform : Step → Play Answer) (script : ScriptId) (frame : Frame)
    (event : TraceEvent) : ExceptT HookError Play Bool := do
  note (.trace (← hookName script) event frame)
  let w ← applyRules perform script ⟨event.name, frame.line, frame.block.name⟩
  return w.lines.getD frame.linesOn

/-- A script answers a monitoring event. -/
def answerEvent (perform : Step → Play Answer) (script : ScriptId) (event : MonitorEvent) :
    ExceptT HookError Play MonitorAction := do
  note (.monitor (← hookName script) event)
  let w ← applyRules perform script ⟨event.kind.name, event.line, event.block.name⟩
  return if w.disable then .disable else .goOn

/-- Scripts over a session whose steps are performed by `perform`. -/
def scriptsWith (perform : Step → Play Answer) : Scripts State where
  engine := State.engine
  withEngine s engine := { s with engine }
  trace := answerTrace perform
  monitor := answerEvent perform

/-- Scripts that nest at most `n` deep. -/
def scripts : Nat → Scripts State
  | 0 => scriptsWith fun _ => pure .done
  | n + 1 => scriptsWith (Step.perform (scripts n).host)

/-- How deep scripts nest. -/
def maxNesting : Nat := 400

/-! ## Commands -/

/-- The key of a worker thread, which is started on first use. -/
def threadKey (name : String) : Play ThreadKey := do
  let s ← get
  match s.threads.get? name with
  | some key => return key
  | none =>
    let key := s.started + 1
    set { s with started := key, threads := s.threads.set name key }
    return key

/-- Perform a command with a host. The answer comes with what hooks noted, oldest first. -/
def Command.perform (host : Host State) (c : Command) : Play (Answer × List Note) := do
  let key ← match c.thread with
    | none => pure 0
    | some name => threadKey name
  modify fun s => { s with engine := { s.engine with thread := key }, notes := [] }
  let answer ← c.step.perform host
  modify fun s => { s with engine := { s.engine with thread := 0 } }
  return (answer, (← get).notes.reverse)

/-- Play a session on a machine with or without the facility. -/
def play (monitored : Bool) (commands : List Command) : List (Answer × List Note) :=
  let host := (scripts maxNesting).host
  ((commands.mapM (Command.perform host)).run { engine := { monitored } }).run.1

end LineClock.Session

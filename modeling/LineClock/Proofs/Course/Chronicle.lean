import LineClock.Proofs.Course.Abreast
import LineClock.Proofs.Course.Concert
import LineClock.Proofs.Engine.Sparing
import Mathlib.Logic.Relation

/-!
# Chronicles

A `Chronicle` is an engine with all the engines it was before, newest first. Hooks are `Agents`: they
have a memory, look at everything, and may do to the engine whatever can happen to it, at any event,
programs run from inside a hook among it.

Main statements: `Agents.play_extends`, and what a chronicle tells of one profiler, `Extends.since`
and `Extends.clear`.
-/

namespace LineClock

open Machine Engine

namespace Course

/-- What can happen to an engine: somebody does something with profilers, an event is taken or its
answer absorbed, or something else changes that is neither a profiler nor who is on. -/
inductive Happens : Engine → Engine → Prop where
  | task (t : Task) (e : Engine) : Happens e (t.act.run e).2
  | enable (registry : RegistryId) (p : ProfilerId) (e : Engine) :
    Happens e (answer (Engine.enable registry p) e).2
  | disable (registry : RegistryId) (p : ProfilerId) (e : Engine) :
    Happens e (answer (Engine.disable registry p) e).2
  | remove (registry : RegistryId) (p : ProfilerId) (e : Engine) :
    Happens e (answer (Engine.remove registry p) e).2
  | forget (registry : RegistryId) (e : Engine) : Happens e ((Engine.forget registry).run e).2
  | endThread (e : Engine) : Happens e (Engine.endThread.run e).2
  | takeTrace (registry : RegistryId) (frame : Frame) (event : TraceEvent) (e : Engine) :
    Happens e ((Engine.takeTrace registry frame event).run e).2
  | absorbTrace (registry : RegistryId) (frame : Frame) (out : Except HookError Bool) (e : Engine) :
    Happens e (answer (Engine.absorbTrace registry frame out) e).2
  | uncover (event : MonitorEvent) (hook : ToolHook) (e : Engine) :
    Happens e ((Engine.uncover event hook).run e).2
  | takeEvent (registry : RegistryId) (event : MonitorEvent) (e : Engine) :
    Happens e ((Engine.takeEvent registry event).run e).2
  | absorbEvent (registry : RegistryId) (event : MonitorEvent)
      (out : Except HookError MonitorAction) (e : Engine) :
    Happens e (answer (Engine.absorbEvent registry event out) e).2
  | other {e e' : Engine} (profilers : e'.profilers = e.profilers)
      (dispatch : e'.dispatch = e.dispatch) : Happens e e'

/-- Tasks that switch nothing get routines to profilers, or have to do with neither. -/
theorem Task.enlisted {R : Engine → Engine → Prop} [IsPreorder Engine R] (h : Enlists R) {t : Task}
    (still : t.switches = false) : Leads R t.act := by
  cases t with
  | profiler wrap clock sources =>
    exact (h.newProfiler _ wrap clock sources).bind fun _ => Leads.pure _
  | define draft =>
    exact (h.newBlock.bind fun _ => h.newRoutine _).bind fun _ => Leads.pure _
  | share routine => exact Leads.get.bind fun _ => (h.newRoutine _).bind fun _ => Leads.pure _
  | replaceCode routine source =>
    exact Leads.get.bind fun _ => (h.replaceCode routine _).bind fun _ => Leads.pure _
  | pad routine units =>
    exact h.newBlock.bind fun _ => Leads.get.bind fun _ =>
      (h.replaceCode routine _).bind fun _ => Leads.pure _
  | advance ticks =>
    exact Leads.bind (Leads.modify fun _ => h.same rfl rfl rfl) fun _ => Leads.pure _
  | write path bytes =>
    refine Leads.bind (Leads.modify fun e => ?_) fun _ => Leads.pure _
    split <;> exact h.same rfl rfl rfl
  | add q routine => exact (h.addRoutine q routine).bind fun _ => Leads.pure _
  | addAll q routines => exact (h.addRoutines q routines).bind fun _ => Leads.pure _
  | wrapper q routine => exact (h.wrapRoutine q routine).bind fun _ => Leads.pure _
  | enable q | disable q => cases still

/-- Tasks are admitted. -/
theorem Task.admitted {R : Engine → Engine → Prop} [IsPreorder Engine R] (h : Admits R) (t : Task) :
    Leads R t.act := by
  cases t with
  | enable q => exact Leads.get.bind fun _ => (h.enable _ q).bind fun _ => Leads.pure _
  | disable q => exact Leads.get.bind fun _ => (h.lower _ q _).bind fun _ => Leads.pure _
  | _ => exact Task.enlisted h.enlists rfl

/-- Whatever happens is either done with profilers or recorded. -/
theorem Happens.related {R S : Engine → Engine → Prop} [IsPreorder Engine R] [IsPreorder Engine S]
    (admits : Admits R) (notes : Notes S) {e e' : Engine} (h : Happens e e') : R e e' ∨ S e e' := by
  cases h with
  | task t => exact .inl (t.admitted admits e)
  | enable registry q => exact .inl (admits.enable registry q e)
  | disable registry q => exact .inl (admits.lower registry q _ e)
  | remove registry q => exact .inl (admits.lower registry q _ e)
  | forget registry => exact .inl (admits.forget registry e)
  | endThread => exact .inl (admits.endThread e)
  | takeTrace registry frame event => exact .inr (notes.takeTrace registry frame event e)
  | absorbTrace registry frame out => exact .inr (notes.absorbTrace registry frame out e)
  | uncover event hook => exact .inl (admits.listens (Idles.listens.uncover event hook) e)
  | takeEvent registry event => exact .inr (notes.takeEvent registry event e)
  | absorbEvent registry event out => exact .inr (notes.absorbEvent registry event out e)
  | other profilers dispatch => exact .inl (admits.same profilers)

/-- Whatever happens, a profiler is spared or something is recorded. -/
theorem Happens.noticed {e e' : Engine} (h : Happens e e') (p : ProfilerId) :
    Spares p e e' ∨ Records p e e' := h.related Spares.admits Records.notes

/-- All that the machine does to an engine can happen. -/
theorem Happens.covers : Scripts.Covers Happens where
  takeTrace := .takeTrace
  absorbTrace := .absorbTrace
  unhook _ := .other rfl rfl
  uncover := .uncover
  takeEvent := .takeEvent
  absorbEvent := .absorbEvent
  facility _ _ := .other rfl rfl
  enable := .enable
  disable := .disable
  frame _ := .other rfl rfl
  spend _ _ := .other rfl rfl

/-- An engine with what it was before, newest first, and what hooks remember. -/
structure Chronicle (τ : Type) where
  now : Engine
  past : List Engine := []
  memory : τ

namespace Chronicle

variable {τ : Type}

/-- All engines of a chronicle, newest first. -/
def engines (x : Chronicle τ) : List Engine := x.now :: x.past

/-- The chronicle goes on with an engine. -/
def push (x : Chronicle τ) (e : Engine) : Chronicle τ := { x with now := e, past := x.engines }

/-- One thing happens, or none and only what hooks remember changes. -/
def Follows (x y : Chronicle τ) : Prop :=
  y.engines = x.engines ∨ Happens x.now y.now ∧ y.past = x.engines

/-- Things happen one after the other. -/
def Extends (x y : Chronicle τ) : Prop := Relation.ReflTransGen Follows x y

theorem Extends.push {x y : Chronicle τ} (h : Extends x y) {e : Engine} (step : Happens y.now e) :
    Extends x (y.push e) := h.tail (.inr ⟨step, rfl⟩)

end Chronicle

/-- Hooks that do to the engine what can happen to it. -/
structure Agents (τ : Type) where
  trace : ScriptId → Frame → TraceEvent → ExceptT HookError (StateM (Chronicle τ)) Bool
  monitor : ScriptId → MonitorEvent → ExceptT HookError (StateM (Chronicle τ)) MonitorAction
  traces : ∀ id frame event (x : Chronicle τ), x.Extends (answer (trace id frame event) x).2
  monitors : ∀ id event (x : Chronicle τ), x.Extends (answer (monitor id event) x).2

namespace Agents

variable {τ : Type} (a : Agents τ)

/-- How agents answer. -/
def scripts : Scripts (Chronicle τ) where
  engine := Chronicle.now
  withEngine := Chronicle.push
  trace := a.trace
  monitor := a.monitor

/-- Agents that do nothing. -/
def idle : Agents τ where
  trace _ frame _ := pure frame.linesOn
  monitor _ _ := pure .goOn
  traces _ _ _ _ := .refl
  monitors _ _ _ := .refl

theorem lasts (x : Chronicle τ) : a.scripts.Lasts Happens x.Extends where
  covers := Happens.covers
  put h _ step := h.push step
  trace h id frame event := h.trans (a.traces id frame event _)
  monitor h id event := h.trans (a.monitors id event _)

/-- **A call extends the chronicle**, so agents may run programs too. -/
theorem call_extends (budget : Nat) (routine : RoutineId) (x : Chronicle τ) :
    x.Extends ((Machine.call a.scripts.host budget routine).out x).2 :=
  (a.lasts x).keeps.invoke budget maxDepth routine x .refl

/-- **A course extends the chronicle.** -/
theorem play_extends (budget : Nat) (turns : List Turn) (st : Stage (Chronicle τ)) :
    st.state.Extends (play a.scripts a.scripts.host budget turns st).2.state := by
  have stable : Stable st.state.Extends a.scripts a.scripts.host :=
    ⟨(a.lasts st.state).keeps, fun h _ => h.push (.other rfl rfl), fun h t => h.push (.task t _)⟩
  exact stable.play budget turns st .refl

end Agents

/-! ## What a chronicle tells of a profiler -/

/-- What was pending on a thread each time a profiler was switched off there, newest first. -/
def leftAtDrops (p : ProfilerId) (th : ThreadKey) : List Engine → List (List (BlockHash × Mark))
  | e' :: e :: rest =>
    if e.isOnAt th p && !e'.isOnAt th p then
      (e'.profiler p).tally.pendingOn th :: leftAtDrops p th (e :: rest)
    else leftAtDrops p th (e :: rest)
  | _ => []

/-- A line has been running on a thread since it started, at a moment in the past at which the
profiler was on there. -/
structure Since (p : ProfilerId) (th : ThreadKey) (block : BlockHash) (mark : Mark)
    (during : List Engine) (start : Engine) : Prop where
  time : start.timeOf p = mark.ticks
  on : start.isOnAt th p = true
  runs : ∀ e ∈ during ++ [start], e.markOf p th block = some mark

/-- A beginning: a chronicle without a past, in which nothing is pending. -/
structure Chronicle.Begins {τ : Type} (p : ProfilerId) (x : Chronicle τ) : Prop where
  past : x.past = []
  known : p < x.now.profilers.entries.length
  clear : ∀ th, (x.now.profiler p).tally.pendingOn th = []

namespace Chronicle

variable {τ : Type} {p : ProfilerId} {x y : Chronicle τ}

theorem Begins.markOf (begins : x.Begins p) (th : ThreadKey) (block : BlockHash) :
    x.now.markOf p th block = none := Tally.mark?_of_pendingOn (begins.clear th) block

/-- A profiler stays known. -/
theorem Extends.known (begins : x.Begins p) (h : x.Extends y) :
    p < y.now.profilers.entries.length := by
  induction h with
  | refl => exact begins.known
  | tail _ step ih =>
    rcases step with same | ⟨happens, -⟩
    · exact (List.cons.inj same).1 ▸ ih
    · rcases happens.noticed p with spares | records
      · exact spares.known ih
      · exact records.known ih

end Chronicle

/-- What one thing that happens does to a running line: it runs on, or something is recorded on this
thread while the profiler is on there, and then no line runs or one since now. -/
theorem Happens.markOf {e e' : Engine} (h : Happens e e') {p : ProfilerId}
    (known : p < e.profilers.entries.length) (th : ThreadKey) (block : BlockHash) :
    e'.markOf p th block = e.markOf p th block ∨
      e.thread = th ∧ e.isOnAt th p = true ∧ e'.isOnAt th p = true ∧
        ∀ mark, e'.markOf p th block = some mark → mark.ticks = e'.timeOf p := by
  rcases h.noticed p with spares | records
  · exact .inl ((spares.tally known).mark? th block)
  · by_cases here : th = e.thread
    · subst here
      by_cases on : e.isOnAt e.thread p = true
      · rcases records.settles.here block with ⟨stays, -⟩ | ⟨fresh, -⟩
        · exact .inl stays
        · refine .inr ⟨rfl, on, (records.on _).trans on, fun mark running => ?_⟩
          rw [records.time]
          exact fresh mark running
      · refine .inl ?_
        unfold Engine.markOf
        rw [records.off (Bool.not_eq_true _ ▸ on)]
    · exact .inl (records.settles.others th here block)

/-- What one thing that happens adds to a line: nothing, or the ticks since the line started to run,
and then it was running on this thread, where the profiler is on before and after. -/
theorem Happens.ticksOf {e e' : Engine} (h : Happens e e') {p : ProfilerId}
    (known : p < e.profilers.entries.length) (block : BlockHash) (line : UInt32) :
    e'.ticksOf p block line = e.ticksOf p block line ∨
      e'.isOnAt e.thread p = true ∧ ∃ mark, e.markOf p e.thread block = some mark ∧ mark.line = line ∧
        e'.ticksOf p block line =
          (e.ticksOf p block line).satAdd ((e.timeOf p).satSub mark.ticks) := by
  rcases h.noticed p with spares | records
  · exact .inl (congrArg Cell.ticks ((spares.tally known).cell block line))
  · by_cases on : e.isOnAt e.thread p = true
    · rcases records.settles.here block with ⟨-, same⟩ | ⟨-, charged⟩
      · exact .inl (same line)
      · rcases charged line with same | charged
        · exact .inl same
        · exact .inr ⟨(records.on _).trans on, charged⟩
    · refine .inl ?_
      unfold Engine.ticksOf
      rw [records.off (Bool.not_eq_true _ ▸ on)]

namespace Chronicle

variable {τ : Type} {p : ProfilerId} {x y : Chronicle τ}

/-- **A line that runs has been running since** a moment of the chronicle. -/
theorem Extends.since (begins : x.Begins p) (h : x.Extends y) {th : ThreadKey} {block : BlockHash}
    {mark : Mark} (running : y.now.markOf p th block = some mark) :
    ∃ during start rest, y.engines = during ++ start :: rest ∧ Since p th block mark during start := by
  induction h with
  | refl =>
    rw [begins.markOf] at running
    cases running
  | @tail y z earlier step ih =>
    rcases step with same | ⟨happens, past⟩
    · have now : z.now = y.now := (List.cons.inj same).1
      rw [same]
      exact ih (now ▸ running)
    · have history : z.engines = z.now :: y.engines := congrArg (z.now :: ·) past
      rcases happens.markOf (Extends.known begins earlier) th block with stays | ⟨-, -, on, fresh⟩
      · obtain ⟨during, start, rest, split, since⟩ := ih (stays ▸ running)
        refine ⟨z.now :: during, start, rest, ?_, since.time, since.on, fun e mem => ?_⟩
        · rw [history, split]
          rfl
        · rcases List.mem_cons.mp mem with rfl | mem
          · exact running
          · exact since.runs e mem
      · -- The line started just now.
        refine ⟨[], z.now, y.engines, history, (fresh mark running).symm, on, fun e mem => ?_⟩
        cases List.mem_singleton.mp mem
        exact running

/-- **Where a profiler is off nothing is pending**, if nothing ever was when it was switched off. -/
theorem Extends.clear (begins : x.Begins p) (h : x.Extends y) {th : ThreadKey}
    (dropped : ∀ left ∈ leftAtDrops p th y.engines, left = []) :
    ∀ e ∈ y.engines, e.isOnAt th p = false → ∀ block, e.markOf p th block = none := by
  induction h with
  | refl =>
    intro e mem _ block
    unfold engines at mem
    rw [begins.past, List.mem_singleton] at mem
    rw [mem]
    exact begins.markOf th block
  | @tail y z earlier step ih =>
    rcases step with same | ⟨happens, past⟩
    · rw [same] at dropped ⊢
      exact ih dropped
    · have history : z.engines = z.now :: y.now :: y.past := congrArg (z.now :: ·) past
      rw [history] at dropped ⊢
      unfold leftAtDrops at dropped
      have before : ∀ left ∈ leftAtDrops p th y.engines, left = [] := by
        intro left mem
        refine dropped left ?_
        split
        · exact List.mem_cons_of_mem _ mem
        · exact mem
      intro e mem off block
      rcases List.mem_cons.mp mem with rfl | mem
      · cases was : y.now.isOnAt th p with
        | true =>
          -- Just now it was switched off.
          rw [was, off] at dropped
          have none := dropped _ (List.mem_cons_self)
          exact Tally.mark?_of_pendingOn none block
        | false =>
          rcases happens.markOf (Extends.known begins earlier) th block with stays | ⟨-, on, -⟩
          · exact stays.trans (ih before _ List.mem_cons_self was block)
          · rw [was] at on
            cases on
      · exact ih before e mem off block

end Chronicle

end Course

end LineClock

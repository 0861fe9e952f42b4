import LineClock.Proofs.Course.Attribution
import LineClock.Proofs.Course.Concert
import LineClock.Proofs.Engine.Scopes

/-!
# Wrappers profile while they run

A course that switches no profiler but by wrappers. Beside the engine it is kept which routines are
running, and each announcement is noted with them: whenever something is announced a profiler is on as
often as wrappers of it are running, and its hits are the lines that started meanwhile in blocks that it
watches. Between the moves nothing is running, nobody is on and nobody listens.

Main statement: `wrappers_profile_extent`.
-/

namespace LineClock.Course

open Machine Engine

/-! ## Keeping count of what runs -/

/-- What is announced to hooks. -/
inductive Announcement where
  | trace (frame : Frame) (event : TraceEvent)
  | monitor (event : MonitorEvent)

/-- An announcement, the scene in which it is made and the routines that are running then: those of
which a call or a resumed frame was entered and not left, the innermost first. -/
structure Moment where
  scene : Scene
  running : List RoutineId
  what : Announcement

namespace Moment

/-- The trace event that is announced, if it is one. -/
def sighting? (m : Moment) : Option Sighting :=
  match m.what with
  | .trace frame event => some ⟨m.scene, frame, event⟩
  | .monitor _ => none

/-- Whether a line of a block starts that a profiler watches, while a wrapper of the profiler runs. -/
def earns (m : Moment) (p : ProfilerId) (block : BlockHash) (line : UInt32) : Bool :=
  match m.what with
  | .trace frame .line =>
    frame.line = line && frame.block.identity = block && (m.scene.profiler p).watches block &&
      m.running.any fun r => (m.scene.routine r).switches p
  | _ => false

end Moment

/-- An engine, what is running on it, and what was announced until then, the newest first. -/
structure Followed where
  engine : Engine
  running : List RoutineId := []
  moments : List Moment := []

namespace Followed

/-- Take note of an announcement. -/
def note (x : Followed) (what : Announcement) : Followed :=
  { x with moments := ⟨x.engine.scene registry, x.running, what⟩ :: x.moments }

/-- Act on the engine. -/
def inside {α : Type} (m : StateM Engine α) : StateM Followed α :=
  fun x => ((m x.engine).1, { x with engine := (m x.engine).2 })

/-- Scripts that do nothing. -/
def scripts : Scripts Followed where
  engine := engine
  withEngine x e := { x with engine := e }
  trace _ frame _ := pure frame.linesOn
  monitor _ _ := pure .goOn

/-- The surroundings of a quiet machine, with a note of each announcement and of what is running. -/
def host : Host Followed where
  code x routine := Scripts.quiet.host.code x.engine routine
  newFrame := inside Scripts.quiet.host.newFrame
  work n := inside (Scripts.quiet.host.work n)
  trace frame event := ExceptT.mk do
    modify fun x => x.note (.trace frame event)
    inside (Scripts.quiet.host.trace frame event).run
  monitor event := ExceptT.mk do
    modify fun x => x.note (.monitor event)
    inside (Scripts.quiet.host.monitor event).run
  enter routine := ExceptT.mk fun x =>
    match answer (Scripts.quiet.host.enter routine) x.engine with
    | (.ok _, e) => (.ok (), { x with engine := e, running := routine :: x.running })
    | (.error error, e) => (.error error, { x with engine := e })
  leave routine x :=
    ((), { x with engine := (Scripts.quiet.host.leave routine x.engine).2, running := x.running.tail })

-- As for the log, the next equations are for rewriting.
theorem host_newFrame (x : Followed) :
    host.newFrame x = ((Scripts.quiet.host.newFrame x.engine).1,
      { x with engine := (Scripts.quiet.host.newFrame x.engine).2 }) := rfl

theorem host_work (n : UInt8) (x : Followed) :
    (host.work n x).2 = { x with engine := (Scripts.quiet.host.work n x.engine).2 } := rfl

theorem host_leave (routine : RoutineId) (x : Followed) :
    (host.leave routine x).2 = { x with
      engine := (Scripts.quiet.host.leave routine x.engine).2, running := x.running.tail } := rfl

theorem answer_trace (frame : Frame) (event : TraceEvent) (x : Followed) :
    answer (host.trace frame event) x =
      ((answer (Scripts.quiet.host.trace frame event) x.engine).1,
        { x.note (.trace frame event) with
          engine := (answer (Scripts.quiet.host.trace frame event) x.engine).2 }) := rfl

theorem answer_monitor (event : MonitorEvent) (x : Followed) :
    answer (host.monitor event) x =
      ((answer (Scripts.quiet.host.monitor event) x.engine).1,
        { x.note (.monitor event) with
          engine := (answer (Scripts.quiet.host.monitor event) x.engine).2 }) := rfl

theorem answer_enter {routine : RoutineId} {x : Followed} {e : Engine}
    (entered : answer (Scripts.quiet.host.enter routine) x.engine = (.ok (), e)) :
    answer (host.enter routine) x =
      (.ok (), { x with engine := e, running := routine :: x.running }) := by
  have unfolded : answer (host.enter routine) x =
      match answer (Scripts.quiet.host.enter routine) x.engine with
      | (.ok _, e) => (.ok (), { x with engine := e, running := routine :: x.running })
      | (.error error, e) => (.error error, { x with engine := e }) := rfl
  rw [unfolded, entered]

/-- Tasks are done on the engine. -/
theorem run_scripts {α : Type} (m : StateM Engine α) (x : Followed) :
    (scripts.run m).run x = ((m.run x.engine).1, { x with engine := (m.run x.engine).2 }) := rfl

/-! ## With the books beside -/

/-- A quiet engine and its scene, and a log of the trace events among the announcements. -/
def Sees (b : Backend) (x : Followed) (v : View) : Prop :=
  x.engine.Seen b registry v.scene ∧ x.moments.filterMap Moment.sighting? = v.log

theorem audience (b : Backend) : Audience b host (Sees b) where
  code h routine := (Seen.audience b registry).code h.1 routine
  newFrame {x v} h := by
    obtain ⟨id, seen⟩ := h.1.newFrame
    rw [host_newFrame]
    exact ⟨id, seen, h.2⟩
  work {x v} h n := by
    have seen := h.1.work n
    rw [host_work]
    exact ⟨seen, h.2.trans (v.on_log _).symm⟩
  trace {x v} h frame event := by
    obtain ⟨e', told, seen⟩ := h.1.trace frame event
    rw [answer_trace, told]
    refine ⟨_, rfl, seen, ?_⟩
    have noted : (x.note (.trace frame event)).moments.filterMap Moment.sighting? =
      ⟨x.engine.scene registry, frame, event⟩ :: x.moments.filterMap Moment.sighting? := rfl
    rw [noted, h.1.scene, h.2]
  monitor {x v} h event := by
    obtain ⟨e', told, seen⟩ := h.1.monitor event
    rw [answer_monitor, told]
    exact ⟨_, rfl, seen, h.2⟩
  enter {x v} h routine := by
    obtain ⟨e', entered, seen⟩ := h.1.enter routine
    exact ⟨_, answer_enter entered, seen, h.2⟩
  leave {x v} h routine := by
    have seen := h.1.leave routine
    rw [host_leave]
    exact ⟨seen, h.2⟩

theorem stand (b : Backend) : Stand b scripts host (Sees b) :=
  ⟨audience b, fun h => h.1, fun h _ _ seen => ⟨seen, h.2⟩⟩

/-! ## Beside the bare engine -/

/-- The same engine on both sides, on which only wrappers switch profilers and `running` are running.
So it was at every announcement. -/
structure Beside (b : Backend) (running : List RoutineId) (x : Followed) (e : Engine) : Prop where
  same : x.engine = e
  within : x.running = running
  seen : e.Seen b registry (e.scene registry)
  counted : (e.scene registry).Scoped running
  moments : ∀ m ∈ x.moments, m.scene.Scoped m.running

namespace Beside

variable {b : Backend} {running : List RoutineId} {x : Followed} {e e' : Engine} {s : Scene}

/-- The engine goes on, and other routines may be running. -/
theorem next (h : Beside b running x e) {running' : List RoutineId} (seen : e'.Seen b registry s)
    (counted : s.Scoped running') :
    Beside b running' { x with engine := e', running := running' } e' := by
  obtain rfl := seen.scene
  exact ⟨rfl, rfl, seen, counted, h.moments⟩

/-- The engine goes on, and the same routines are running. -/
theorem goOn (h : Beside b running x e) (seen : e'.Seen b registry s) (counted : s.Scoped running) :
    Beside b running { x with engine := e' } e' := by
  have next := h.next seen counted
  rw [← h.within] at next
  exact h.within ▸ next

theorem note (h : Beside b running x e) (what : Announcement) :
    Beside b running (x.note what) e := by
  refine ⟨h.same, h.within, h.seen, h.counted, fun m mem => ?_⟩
  rcases List.mem_cons.mp mem with rfl | mem
  · have counted := h.counted
    rw [← h.same, ← h.within] at counted
    exact counted
  · exact h.moments m mem

/-- **Announcements keep the count**, and so do the ends of scopes. -/
theorem rapport (b : Backend) :
    Rapport (fun _ => False) (Beside b) host Scripts.quiet.host where
  keeps := Keeps.never _
  code h routine := by rw [← h.same]; rfl
  newFrame {_ x e} h := by
    obtain ⟨-, seen⟩ := h.seen.newFrame
    rw [host_newFrame, h.same]
    exact ⟨rfl, h.goOn seen (h.counted.congr rfl rfl rfl)⟩
  work {_ x e} h n := by
    have seen := h.seen.work n
    rw [host_work, h.same]
    exact h.goOn seen (h.counted.congr rfl rfl rfl)
  trace {running x e} h frame event on := by
    obtain ⟨e', told, seen⟩ := h.seen.trace frame event
    rw [on] at told
    have counted : ((e.scene registry).traced b frame event).Scoped running := by
      cases b with
      | slot => exact h.counted.hear frame event
      | tool => exact h.counted
    refine .inr ⟨_, e', ?_, told, (h.note (.trace frame event)).goOn seen counted⟩
    rw [answer_trace, h.same, told]
  monitor {running x e} h event := by
    obtain ⟨e', told, seen⟩ := h.seen.monitor event
    have counted : ((e.scene registry).notified b event).Scoped running := by
      cases b with
      | slot => exact h.counted
      | tool => exact h.counted.hearEvent event
    refine .inr ⟨_, e', ?_, told, (h.note (.monitor event)).goOn seen counted⟩
    rw [answer_monitor, h.same, told]
  enter {running x e} h routine := by
    obtain ⟨e', entered, seen⟩ := h.seen.enter routine
    have entered' := entered
    rw [← h.same] at entered'
    refine .inr ⟨routine :: running, _, e', answer_enter entered', entered, ?_, ?_⟩
    · rw [h.within]
      exact h.next seen (h.counted.enterScope routine)
    · intro x e inner
      have seen := inner.seen.leave routine
      rw [host_leave, inner.same, inner.within]
      exact inner.next seen inner.counted.leaveScope

/-- What leaves listening alone, while nothing is running. -/
theorem setup {α : Type} {m : StateM Engine α} (h : Beside b [] x e) (hm : Setup registry m) :
    ((scripts.run m).run x).1 = (m.run e).1 ∧
      Beside b [] ((scripts.run m).run x).2 (m.run e).2 := by
  have nobody : ∀ th, ((m.run e).2.scene registry).active th = [] := by
    intro th
    have same := congrArg Dispatch.active ((hm.aside e h.seen.ready).dispatchAt th)
    exact same.trans (h.counted.nobody th)
  rw [run_scripts, h.same]
  exact ⟨rfl, h.goOn (h.seen.setup hm) (.of_nobody nobody)⟩

end Beside

end Followed

/-- Whether a move switches a profiler itself. -/
def Move.switches : Move → Bool
  | .task t => t.switches
  | .call _ | .generator _ | .resume _ => false

namespace Followed

variable {b : Backend} (budget : Nat)

/-- A move that switches no profiler itself answers the same, and nothing is running after it. -/
theorem perform {m : Move} (unswitched : m.switches = false) {st : Stage Followed}
    {st' : Stage Engine} (concert : Concert (Beside b) [] st st') :
    (m.perform scripts host budget st).1 =
        (m.perform Scripts.quiet Scripts.quiet.host budget st').1 ∧
      Concert (Beside b) [] (m.perform scripts host budget st).2
        (m.perform Scripts.quiet Scripts.quiet.host budget st').2 := by
  cases m with
  | task t =>
    obtain ⟨reply, beside⟩ := concert.related.setup (Task.setup unswitched)
    exact ⟨reply, concert.withState beside⟩
  | call routine => exact (concert.call (Beside.rapport b) routine).resolve_left id
  | generator routine => exact (concert.generator (Beside.rapport b) routine).resolve_left id
  | resume i => exact (concert.resume (Beside.rapport b) i).resolve_left id

/-- A course plays in the same way as without the notes. -/
theorem plays (turns : List Turn) (unswitched : ∀ t ∈ turns, t.move.switches = false) :
    ∀ {st : Stage Followed} {st' : Stage Engine}, Concert (Beside b) [] st st' →
      (play scripts host budget turns st).1 =
          (play Scripts.quiet Scripts.quiet.host budget turns st').1 ∧
        Concert (Beside b) [] (play scripts host budget turns st).2
          (play Scripts.quiet Scripts.quiet.host budget turns st').2 := by
  induction turns with
  | nil => exact fun concert => ⟨rfl, concert⟩
  | cons t rest ih =>
    intro st st' concert
    have entered : Concert (Beside b) [] (t.enter scripts st) (t.enter Scripts.quiet st') :=
      concert.withState (concert.related.setup (setup_enter t.thread)).2
    obtain ⟨reply, concert'⟩ := perform budget (unswitched t List.mem_cons_self) entered
    obtain ⟨replies, concert''⟩ := ih (fun t mem => unswitched t (List.mem_cons_of_mem _ mem)) concert'
    refine ⟨?_, concert''⟩
    unfold Course.play
    simp only
    rw [reply, replies]

end Followed

/-! ## Between the moves -/

/-- Nobody is on, and nobody listens. -/
structure Unheard (b : Backend) (e : Engine) : Prop where
  counts : ∀ th p, (e.dispatchAt th registry).countOf p = 0
  slots : ∀ th, e.slots.get? th = none
  callbacks : ∀ tool kind, e.facility.callback? tool kind = none
  holder : b = .tool → e.facility.holder? Facility.profilerTool = none

/-- On a quiet engine nobody listens while nobody is on. -/
theorem Unheard.of_nobody {b : Backend} {e : Engine} (quiet : Quiet b registry e)
    (nobody : ∀ th, (e.dispatchAt th registry).active = []) : Unheard b e := by
  have off : ∀ th, (e.dispatchAt th registry).activated = false := by
    intro th
    rw [quiet.balanced, Dispatch.isActive, nobody]
    rfl
  have counts : ∀ th p, (e.dispatchAt th registry).countOf p = 0 := by
    intro th p
    unfold Dispatch.countOf
    rw [nobody]
    rfl
  cases b with
  | slot =>
    have listens : SlotListens registry e := quiet.listens
    refine ⟨counts, fun th => ?_, listens.silent, fun h => by cases h⟩
    have hook := (listens.thread th).hook
    rwa [off, if_neg Bool.false_ne_true] at hook
  | tool =>
    have listens : ToolListens registry e := quiet.listens
    obtain ⟨ths, -, mem, length⟩ := listens.threads
    have none : ths = [] := by
      rw [List.eq_nil_iff_forall_not_mem]
      intro th there
      rw [mem, off] at there
      cases there
    have nowhere : decide (0 < (e.share registry).threads) = false := by
      rw [← length, none]
      rfl
    have alone := listens.alone
    rw [nowhere] at alone
    refine ⟨counts, listens.slots, fun tool kind => ?_, fun _ => ?_⟩
    · by_cases ours : tool = Facility.profilerTool
      · subst ours
        have gone := alone.ours kind
        rwa [if_neg fun h => Bool.false_ne_true h.1] at gone
      · exact alone.others tool kind ours
    · exact Option.not_isSome_iff_eq_none.mp (ne_true_of_eq_false alone.holder)

/-! ## Hits -/

/-- A line is heard of while a wrapper runs. -/
theorem Moment.earns_eq {m : Moment} (counted : m.scene.Scoped m.running) (p : ProfilerId)
    (block : BlockHash) (line : UInt32) :
    ((m.sighting?.map fun x => x.fires p line && like block x.frame.block).getD false) =
      m.earns p block line := by
  obtain ⟨scene, running, what⟩ := m
  cases what with
  | monitor event => rfl
  | trace frame event =>
    have on := counted.isOn p
    unfold Moment.sighting? Moment.earns Sighting.fires like Scene.hears
    cases event with
    | call | ret | exception => rfl
    | line =>
      simp only [Option.map_some, Option.getD_some, on, decide_true, Bool.true_and]
      by_cases here : frame.block.identity = block
      · rw [here, decide_eq_true rfl]
        simp only [Bool.and_true]
        rw [Bool.and_assoc]
        congr 1
        exact Bool.and_comm _ _
      · rw [decide_eq_false here]
        simp only [Bool.and_false, Bool.false_and]

/-- The hits that the log tells are the lines that started while a wrapper was running. -/
theorem hits_moments {moments : List Moment} (counted : ∀ m ∈ moments, m.scene.Scoped m.running)
    (p : ProfilerId) (block : BlockHash) (line : UInt32) :
    Log.hits p (like block) line (moments.filterMap Moment.sighting?) =
      moments.countP fun m => m.earns p block line := by
  unfold Log.hits
  rw [List.countP_filterMap]
  refine List.countP_congr fun m mem => ?_
  rw [Moment.earns_eq (counted m mem)]

variable (b : Backend) (monitored wrap : Bool) (budget : Nat) (turns : List Turn)

/-- Play a course and follow what is running, from its start. -/
def playFollowed : List Reply × Stage Followed :=
  play Followed.scripts Followed.host budget turns ⟨{ engine := start b monitored wrap }, []⟩

/-- **Wrappers profile exactly while they run.** In a course that switches no profiler itself, a
profiler is on, whenever something is announced, as often as wrappers of it are running. After the last
move, which may be any and end in any way, nobody is on on any thread and nobody listens. The hits of a
line are those of its starts, in blocks of its identity that the profiler watched, at which a wrapper of
the profiler was running, up to the largest counter. The notes of what is running do not change what
happens. -/
theorem wrappers_profile_extent (monitored' : b = .tool → monitored = true)
    (unswitched : ∀ t ∈ turns, t.move.switches = false) :
    let followed := playFollowed b monitored wrap budget turns
    let course := play Scripts.quiet Scripts.quiet.host budget turns ⟨start b monitored wrap, []⟩
    followed.1 = course.1 ∧ followed.2.state.engine = course.2.state ∧
      (∀ m ∈ followed.2.state.moments, ∀ p, m.scene.count p = m.scene.wrappers m.running p) ∧
      Unheard b course.2.state ∧
      ∀ p block line, ((course.2.state.profiler p).tally.cell block line).hits.toNat =
        min (followed.2.state.moments.countP fun m => m.earns p block line) (2 ^ 64 - 1) := by
  unfold playFollowed
  simp only
  have nobody : ∀ th, ((start b monitored wrap).scene registry).active th = [] := by
    rw [start_eq b monitored wrap monitored']
    exact fun _ => rfl
  have seen := seen_start b monitored wrap monitored'
  have concert : Concert (Followed.Beside b) [] ⟨{ engine := start b monitored wrap }, []⟩
      ⟨start b monitored wrap, []⟩ :=
    ⟨rfl, fun _ h => (by cases h), rfl, rfl, seen, .of_nobody nobody, fun _ h => (by cases h)⟩
  obtain ⟨replies, -, -, beside⟩ := Followed.plays budget turns unswitched concert
  have begin : Abreast (Followed.Sees b) (fun e v => e.Seen b registry v.scene) Closed
      ⟨{ engine := start b monitored wrap }, []⟩ ⟨start b monitored wrap, []⟩ :=
    ⟨rfl, ⟨_, []⟩, ⟨_, []⟩, ⟨seen, rfl⟩, seen, rfl, closed_start b monitored wrap monitored',
      fun _ h => by cases h⟩
  have ended : Abreast (Followed.Sees b) (fun e v => e.Seen b registry v.scene) Closed
      (play Followed.scripts Followed.host budget turns ⟨{ engine := start b monitored wrap }, []⟩).2
      (play Scripts.quiet Scripts.quiet.host budget turns ⟨start b monitored wrap, []⟩).2 :=
    (Abreast.play (Followed.stand b) (bareStand b) closedSession turns begin).2
  obtain ⟨-, v, w, ⟨-, told⟩, seen', same, closed, -⟩ := ended
  refine ⟨replies, beside.same, fun m mem p => (beside.moments m mem).count p, ?_, fun p block line => ?_⟩
  · exact .of_nobody beside.seen.quiet beside.counted.nobody
  · have profiler : (play Scripts.quiet Scripts.quiet.host budget turns
        ⟨start b monitored wrap, []⟩).2.state.profiler p = v.scene.profiler p := by
      rw [same, ← seen'.scene]
      rfl
    rw [profiler, ← hits_moments beside.moments]
    have books := closed.hits p block line
    rw [← told] at books
    exact books

/-- A block that runs a line for five units of work. -/
def oneLine : Block where
  id := 0
  name := "f"
  file := "m.py"
  firstLine := 1
  instrs := [⟨2, .work 5⟩]

/-- A wrapper of the first profiler around the block, called by a routine that then fails, inside a
wrapper of the second one, and by a generator after it yielded, inside another wrapper of the first
one. The block is also called outside of all of them. -/
def nestedScopes : List Turn :=
  [{ move := .task (.profiler none .shared .files) },
    { move := .task (.profiler none .shared .files) },
    { move := .task (.define
      { name := "f", file := "m.py", firstLine := 1, instrs := oneLine.instrs }) },
    { move := .task (.wrapper 0 0) }, { move := .task (.add 1 0) },
    { move := .task (.define
      { name := "g", file := "m.py", firstLine := 3, instrs := [⟨4, .call 0⟩, ⟨5, .raise⟩]
        callees := [1] }) },
    { move := .task (.wrapper 1 2) },
    { move := .task (.define
      { name := "h", file := "m.py", firstLine := 6, generator := true
        instrs := [⟨7, .yield⟩, ⟨8, .call 0⟩], callees := [1] }) },
    { move := .task (.wrapper 0 4) },
    { move := .call 3 }, { move := .generator 5 }, { move := .resume 0 }, { move := .call 0 },
    { thread := 1, move := .resume 0 }]

theorem wrappers_profile_extent_nested :
    let course := play Scripts.quiet Scripts.quiet.host 9 nestedScopes ⟨start .tool true true, []⟩
    let hits := fun p => ((course.2.state.profiler p).tally.cell oneLine.identity 2).hits.toNat
    (Backend.tool = .tool → true = true) ∧ (∀ t ∈ nestedScopes, t.move.switches = false) ∧
      hits 0 = 2 ∧ hits 1 = 1 ∧ Unheard .tool course.2.state := by
  have monitored : Backend.tool = .tool → true = true := fun _ => rfl
  have unswitched : ∀ t ∈ nestedScopes, t.move.switches = false := by decide +kernel
  obtain ⟨-, -, -, unheard, hits⟩ :=
    wrappers_profile_extent .tool true true 9 nestedScopes monitored unswitched
  refine ⟨monitored, unswitched, (hits 0 oneLine.identity 2).trans ?_,
    (hits 1 oneLine.identity 2).trans ?_, unheard⟩
  · decide +kernel
  · decide +kernel

end LineClock.Course

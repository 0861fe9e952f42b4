import LineClock.Proofs.Course.Backends
import LineClock.Proofs.Course.Abreast
import LineClock.Proofs.Engine.Attribution

/-!
# Exact attribution

Between the moves of a course the books of every profiler are closed: no line is left running, the
hits of each line are the times it started where the profiler heard of it, and the ticks are the
time from there to the next line or the end of the frame.
-/

namespace LineClock.Course

open Machine Engine

/-- The books between moves. -/
structure Closed (v : View) : Prop where
  fair : v.scene.AllFair
  nothing : ∀ p th h, v.scene.mark p th h = none
  hits : ∀ p h line, (v.scene.cell p h line).hits.toNat =
    min (Log.hits p (like h) line v.log) (2 ^ 64 - 1)
  timed : ∀ h, Log.Alone (like h) v.log → v.Timed h

namespace Closed

variable {v w : View}

/-- The surroundings of a move. -/
def depth (v : View) : Depth where
  thread := v.scene.thread
  on := v.scene.here
  routines := v.scene.routines
  log := v.log
  frames := v.scene.frames

theorem out (h : Closed v) : (depth v).Out v := by
  refine ⟨⟨rfl, rfl, h.fair, rfl, Nat.le_refl _, ⟨[], rfl, fun _ h => by cases h⟩, ?_, h.timed,
    fun p th _ b => h.nothing p th b, fun _ h => (by cases h), fun _ _ _ h => (by cases h)⟩,
    fun p b m running => ?_, fun b _ p => h.nothing p _ b⟩
  · intro p b line
    refine ⟨Log.hits p (like b) line v.log, ?_, h.hits p b line⟩
    rw [h.nothing]
    rfl
  · rw [h.nothing] at running
    cases running

theorem back (out : (depth v).Out w) : Closed w := by
  have nothing : ∀ p th h, w.scene.mark p th h = none := by
    intro p th b
    by_cases here : th = (depth v).thread
    · cases running : w.scene.mark p th b with
      | none => rfl
      | some m =>
        rw [here] at running
        obtain ⟨-, ⟨o, low, -⟩ | no⟩ := out.owing p b m running
        · cases low
        · exact no.elim
    · exact out.along.elsewhere p th here b
  refine ⟨out.along.fair, nothing, fun p b line => ?_, out.along.timed⟩
  obtain ⟨n, hits, count⟩ := out.along.balanced p b line
  rw [nothing] at hits
  rw [count, hits]
  rfl

/-- Switching leaves closed books closed. -/
theorem switched (h : Closed v) {on : List (ProfilerId × Nat)} (fair : Scene.Fair on) :
    Closed { v with scene := v.scene.switch on } :=
  ⟨h.fair.switch fair, h.nothing, h.hits, h.timed⟩

/-- Tasks leave closed books closed. -/
theorem altered {t : Scene} (h : Closed v) (altered : Altered v.scene t) :
    Closed { v with scene := t } := by
  cases altered with
  | setup keeps active =>
    refine ⟨fun th => ?_, fun p th b => ?_, fun p b line => ?_, fun b alone p line => ?_⟩
    · rw [active]
      exact h.fair th
    · exact ((keeps.enriched p).tally.mark? th b).trans (h.nothing p th b)
    · exact (congrArg (fun c : Cell => c.hits.toNat) ((keeps.enriched p).tally.cell b line)).trans
        (h.hits p b line)
    · exact (congrArg Cell.ticks ((keeps.enriched p).tally.cell b line)).trans (h.timed b alone p line)
  | raise p => exact h.switched ((h.fair _).raise p)
  | lower p =>
    unfold Scene.lower
    simp only
    split
    · exact h.switched ((h.fair _).lower p _)
    · exact h

end Closed

/-- **Moves leave closed books closed.** -/
theorem closedSession : Session Depth.story Closed where
  steady := Depth.story_steady
  alter h altered := h.altered altered
  call {v} h := ⟨Closed.depth v, h.out, fun out => ⟨Closed.back out, out.along.frames⟩⟩
  resume {v} h id given block :=
    ⟨Closed.depth v, ⟨h.out, given, fun _ low => by cases low⟩,
      fun out => ⟨Closed.back out, out.along.frames⟩⟩
  waits idle := idle.given

/-- At the start nothing was recorded. -/
theorem closed_start (b : Backend) (monitored wrap : Bool) (h : b = .tool → monitored = true) :
    Closed ⟨(start b monitored wrap).scene registry, []⟩ := by
  rw [start_eq b monitored wrap h]
  exact ⟨fun _ => Scene.Fair.nil, fun _ _ _ => rfl, fun _ _ _ => rfl, fun _ _ _ _ => rfl⟩

variable (b : Backend) (monitored wrap : Bool) (budget : Nat) (turns : List Turn)

/-- A course with a log plays as it does without, and the books are closed at its end. -/
theorem playLogged_closed (h : b = .tool → monitored = true) :
    Abreast (SeesLog b) (fun e v => e.Seen b registry v.scene) Closed
        (playLogged b monitored wrap budget turns).2
        (play Scripts.quiet Scripts.quiet.host budget turns ⟨start b monitored wrap, []⟩).2 ∧
      (playLogged b monitored wrap budget turns).1 =
        (play Scripts.quiet Scripts.quiet.host budget turns ⟨start b monitored wrap, []⟩).1 := by
  have begin : Abreast (SeesLog b) (fun e v => e.Seen b registry v.scene) Closed
      ⟨(start b monitored wrap, []), []⟩ ⟨start b monitored wrap, []⟩ :=
    ⟨rfl, ⟨_, []⟩, ⟨_, []⟩, ⟨seen_start b monitored wrap h, rfl⟩, seen_start b monitored wrap h, rfl,
      closed_start b monitored wrap h, fun _ h => by cases h⟩
  obtain ⟨replies, stages⟩ := Abreast.play (logStand b) (bareStand b) closedSession turns begin
  exact ⟨stages, replies⟩

/-- **Attribution is exact.** After every course no line is left running on any thread. If no other
block that ran has the identity of a block, its lines have as many hits as they started where the
profiler was on and watched the block, up to the largest counter; and if moreover no two frames of
the block ever ran on one thread at once, the ticks of each line are the time from there to the next
line or the end of the frame. The log tells what happened and does not change it. -/
theorem attribution_exact (b : Backend) (monitored wrap : Bool) (budget : Nat) (turns : List Turn)
    (h : b = .tool → monitored = true) :
    let log := (playLogged b monitored wrap budget turns).2.state.2
    let course := play Scripts.quiet Scripts.quiet.host budget turns ⟨start b monitored wrap, []⟩
    (playLogged b monitored wrap budget turns).1 = course.1 ∧
      ∀ p, (∀ th, (course.2.state.profiler p).tally.pendingOn th = []) ∧
        ∀ block : Block,
          (∀ x ∈ log, x.frame.block.identity = block.identity → x.frame.block = block) → ∀ line,
          let cell := (course.2.state.profiler p).tally.cell block.identity line
          cell.hits.toNat = min (Log.hits p (fun c => c = block) line log) (2 ^ 64 - 1) ∧
            (Log.Alone (fun c => c = block) log →
              cell.ticks = Log.spent p (fun c => c = block) line log) := by
  simp only
  obtain ⟨⟨-, v, w, ⟨seen, told⟩, seen', same, closed, -⟩, replies⟩ :=
    playLogged_closed b monitored wrap budget turns h
  have profiler : ∀ p, (play Scripts.quiet Scripts.quiet.host budget turns
      ⟨start b monitored wrap, []⟩).2.state.profiler p = v.scene.profiler p := by
    intro p
    rw [same, ← seen'.scene]
    rfl
  refine ⟨replies, fun p => ⟨fun th => ?_, fun block alone line => ?_⟩⟩
  · rw [profiler]
    exact Tally.pendingOn_eq_nil (closed.nothing p th)
  · rw [told] at alone ⊢
    rw [profiler]
    have same : ∀ x ∈ v.log, like block.identity x.frame.block = decide (x.frame.block = block) := by
      intro x mem
      unfold like
      by_cases here : x.frame.block.identity = block.identity
      · rw [decide_eq_true here, decide_eq_true (alone x mem here)]
      · have other : x.frame.block ≠ block := fun h => here (congrArg Block.identity h)
        rw [decide_eq_false here, decide_eq_false other]
    refine ⟨?_, fun solo => ?_⟩
    · rw [← Log.hits_congr same]
      exact closed.hits p block.identity line
    · rw [← Log.spent_congr same]
      exact closed.timed block.identity (solo.congr fun x mem => (same x mem).symm) p line

/-- A block that runs a line three times, for five units of work each. -/
def threeRounds : Block where
  id := 0
  name := "f"
  file := "m.py"
  firstLine := 1
  instrs := [⟨1, .loopStart 3⟩, ⟨2, .work 5⟩, ⟨3, .loopEnd 1⟩]

/-- The block is called twice on a thread where its profiler is on, and once where it is off. -/
def roundsCourse : List Turn :=
  [{ move := .task (.profiler none .shared .files) },
    { move := .task (.define
      { name := "f", file := "m.py", firstLine := 1, instrs := threeRounds.instrs }) },
    { move := .task (.add 0 0) }, { move := .task (.enable 0) }, { move := .call 0 },
    { move := .task (.advance 9) }, { thread := 1, move := .call 0 }, { move := .call 0 }]

theorem attribution_exact_rounds :
    (Backend.tool = .tool → true = true) ∧
      let course := play Scripts.quiet Scripts.quiet.host 9 roundsCourse ⟨start .tool true true, []⟩
      let cell := (course.2.state.profiler 0).tally.cell threeRounds.identity 2
      cell.hits.toNat = 6 ∧ cell.ticks = 30000 := by
  have monitored : Backend.tool = .tool → true = true := fun _ => rfl
  obtain ⟨-, books⟩ := attribution_exact .tool true true 9 roundsCourse monitored
  obtain ⟨hits, ticks⟩ := (books 0).2 threeRounds (by decide +kernel) 2
  refine ⟨monitored, hits.trans (by decide +kernel), ?_⟩
  exact (ticks (by decide +kernel)).trans (by decide +kernel)

end LineClock.Course

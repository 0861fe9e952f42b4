import LineClock.Proofs.Course.Backends
import LineClock.Proofs.Machine.Loops

/-!
# Loops in a profiled program

A frame whose block is the code of a body with loops runs to its end, whoever listens without
failing. It does what the visits of the body say, and takes the time of the work in them.

Main statement: `loops_unrolled`.
-/

namespace LineClock.Course

open Machine Engine

/-- While only one registry listens, nothing fails at a line and nothing but work moves the clock. -/
theorem placid_seen (b : Backend) (registry : RegistryId) :
    Placid Scripts.quiet fun e => ∃ v, e.Seen b registry v where
  put _ _ := rfl
  trace := by
    rintro e ⟨v, seen⟩ frame on
    obtain ⟨e', told, seen'⟩ := seen.trace frame .line
    have before : e.clock = v.clock := congrArg Scene.clock seen.scene
    have after : e'.clock = (v.traced b frame .line).clock := congrArg Scene.clock seen'.scene
    refine ⟨e', by rw [told, on], ⟨_, seen'⟩, ?_⟩
    cases b <;> exact after.trans before.symm
  monitor := by
    rintro e ⟨v, seen⟩ ⟨_, block, offset, line⟩ rfl
    obtain ⟨e', told, seen'⟩ := seen.monitor ⟨.line, block, offset, line⟩
    have before : e.clock = v.clock := congrArg Scene.clock seen.scene
    have after : e'.clock = (v.notified b ⟨.line, block, offset, line⟩).clock :=
      congrArg Scene.clock seen'.scene
    refine ⟨e', told, ⟨_, seen'⟩, ?_⟩
    cases b <;> exact after.trans before.symm
  work := by
    rintro e ⟨v, seen⟩ n
    exact ⟨_, seen.work n⟩

/-- **Loops run as written.** A frame of the code of a body, with the line events on, comes to its end
whatever loops are open around it, and leaves them as they are. In it the machine does what the visits
of the body say, and the clock moves by a thousand ticks for each unit of work in them. -/
theorem loops_unrolled {σ : Type} {s : Scripts σ} {P : σ → Prop} (placid : Placid s P) (body : Body)
    {act : Activation} {x : σ} (code : act.frame.block.instrs = body.code 0) (fits : body.Fits 0)
    (first : act.next = 0) (on : act.frame.linesOn = true) (holds : P x) (budget depth : Nat)
    {units : Nat} (enough : (body.visits 0).length < units) :
    ∃ act' y,
      (execute s.host.noted (invoke s.host.noted budget depth) units none).out act ⟨x, []⟩ =
          ((.ok .returned, act'), y) ∧
        (execute s.host (invoke s.host budget depth) units none).out act x =
          ((.ok .returned, act'), y.state) ∧
        act'.loops = act.loops ∧
        y.doings = doingsOf act.frame none (body.visits 0) ∧
        (s.engine y.state).clock.toNat =
          min ((s.engine x).clock.toNat + 1000 * body.labour) (2 ^ 64 - 1) := by
  have here : body.code 0 <+: act.frame.block.instrs.drop 0 := by
    rw [code]
    exact List.prefix_refl _
  obtain ⟨offset, line, y, did, out⟩ := body.carries placid (invoke s.host.noted budget depth)
    act.frame.block 0 fits here act ⟨x, []⟩ none ⟨rfl, first, on, holds⟩
  have ended : (elsewhere act offset line (0 + body.size) act.loops).frame.block.instrs[
      (elsewhere act offset line (0 + body.size) act.loops).next]? = none := by
    have size : act.frame.block.instrs.length = body.size := by rw [code, Body.length_code]
    exact List.getElem?_eq_none (by simp [elsewhere, size])
  have run : (execute s.host.noted (invoke s.host.noted budget depth) units none).out act ⟨x, []⟩ =
      ((.ok .returned, elsewhere act offset line (0 + body.size) act.loops), y) := by
    obtain ⟨rest, rfl⟩ : ∃ rest, units = rest + 1 + (body.visits 0).length :=
      ⟨units - 1 - (body.visits 0).length, by omega⟩
    rw [out (rest + 1), execute, Act.out_bind, Act.out_get]
    simp only [ended]
    rfl
  refine ⟨_, y, run, ?_, rfl, by simpa using did.doings, ?_⟩
  · have bare := Journal.execute_out s.host budget depth units none act ⟨x, []⟩
    rw [run] at bare
    exact bare
  · have clock := did.clock
    rw [spent_doingsOf, Body.labour_visits] at clock
    exact clock

/-- A loop that runs twice and has a loop in it that says zero. -/
def nestedLoops : Body :=
  .loop 3 2 (.work 4 5 (.loop 4 0 (.nop 4 .done) 5 .done)) 3 (.work 6 1 .done)

/-- A draft with the code of `nestedLoops`. -/
def loopsDraft : Draft where
  name := "f"
  file := "f.x"
  firstLine := 3
  instrs := nestedLoops.code 0

/-- What is done to have a profiler that is on and watches that code. -/
def watchLoops : List Turn :=
  [{ move := .task (.profiler none .shared .none) }, { move := .task (.define loopsDraft) },
    { move := .task (.add 0 0) }, { move := .task (.enable 0) }]

/-- The machine after that. -/
def profilingLoops : Engine :=
  (play Scripts.quiet Scripts.quiet.host 0 watchLoops ⟨start .tool true false, []⟩).2.state

theorem profilingLoops_seen : ∃ v, profilingLoops.Seen .tool registry v := by
  have shown : Backend.tool = .tool → true = true := fun _ => rfl
  obtain ⟨-, -, v, -, seen, -⟩ := peers_play 0 (peers_start false true true shown shown) watchLoops
  exact ⟨v.scene, seen⟩

/-- The inner loop runs once in each turn of the outer one, and the line after a jump back starts
again. -/
theorem loops_unrolled_profiled :
    (nestedLoops.visits 0).map (fun v => (v.instr.line, v.back)) =
        [(3, false), (4, false), (4, false), (4, false), (5, false), (3, false),
          (4, true), (4, false), (4, false), (5, false), (3, false), (6, false)] ∧
      nestedLoops.labour = 11 ∧
      let act := fresh 0 (loopsDraft.build 0)
      ∃ act' y,
        (execute Scripts.quiet.host.noted (invoke Scripts.quiet.host.noted 0 0) 13 none).out act
            ⟨profilingLoops, []⟩ = ((.ok .returned, act'), y) ∧
          (execute Scripts.quiet.host (invoke Scripts.quiet.host 0 0) 13 none).out act profilingLoops =
            ((.ok .returned, act'), y.state) ∧
          act'.loops = act.loops ∧
          y.doings = doingsOf act.frame none (nestedLoops.visits 0) ∧
          (Scripts.quiet.engine y.state).clock.toNat =
            min ((Scripts.quiet.engine profilingLoops).clock.toNat + 1000 * nestedLoops.labour)
              (2 ^ 64 - 1) := by
  refine ⟨by decide, by decide, ?_⟩
  intro act
  have code : act.frame.block.instrs = nestedLoops.code 0 := rfl
  have fits : nestedLoops.Fits 0 := by simp [nestedLoops, Body.Fits]
  exact loops_unrolled (placid_seen .tool registry) nestedLoops code fits rfl rfl profilingLoops_seen
    0 0 (by decide)

end LineClock.Course

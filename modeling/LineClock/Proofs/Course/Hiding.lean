import LineClock.Proofs.Course.Attribution
import LineClock.Proofs.Course.Tampering

/-!
# Locations that a tool had switched off

The machine keeps a list of the locations that were switched off for an id. The profilers take the
id over with that list as it is, so they do not hear of lines that the tool which held the id did not
want any more. If no location of theirs was off each time they began to listen, they record every
line.

Main statement: `unhidden_hits`.
-/

namespace LineClock.Course

open Machine Engine

/-- **What is not hidden is recorded.** Beside a tool that held the profilers' id, whatever it
answers to events, a profiler's hits are the number of times the lines of a block started where it
was on and watched the block, up to the largest counter, and what it shows is what it would show
without the tool: provided that each time the profilers began to listen, the machine had no location
of their kinds switched off for the id. -/
theorem unhidden_hits {τ : Type} (tool : Tool registry τ) (first : τ) (f : Facility)
    (held : HeldByTool f) (wrap : Bool) (budget : Nat) (turns : List Turn) :
    let beside := play (Tampered.scripts tool) (Tampered.host tool) budget turns
      ⟨startBeside f wrap first, []⟩
    let alone := playLogged .tool true wrap budget turns
    (∀ f ∈ beside.2.state.found, f.Clear) →
      beside.1 = alone.1 ∧ beside.2.state.log = alone.2.state.2 ∧
        shown beside.2.state.engine = shown alone.2.state.1 ∧
        ∀ p block line, ((beside.2.state.engine.profiler p).tally.cell block line).hits.toNat =
          min (Log.hits p (like block) line beside.2.state.log) (2 ^ 64 - 1) := by
  intro beside alone clear
  have monitored : Backend.tool = .tool → true = true := fun _ => rfl
  obtain ⟨replies, seen, log⟩ := unhidden (y := (start .tool true wrap, [])) (logStand .tool) tool
    first held wrap turns ⟨seen_start .tool true wrap monitored, rfl⟩ clear
  obtain ⟨⟨-, v, -, ⟨seen', log'⟩, -, -, closed, -⟩, -⟩ :=
    playLogged_closed .tool true wrap budget turns monitored
  have scene : beside.2.state.engine.scene registry = v.scene := seen.scene.symm.trans seen'.scene
  have noted : beside.2.state.log = v.log := log.symm.trans log'
  refine ⟨replies, log.symm, shown_eq seen.scene.symm, fun p block line => ?_⟩
  have profiler : beside.2.state.engine.profiler p = v.scene.profiler p := by
    rw [← scene]
    rfl
  rw [profiler, noted]
  exact closed.hits p block line

/-- A tool that wants to hear of each location once. -/
def onceOnly : Tool registry Unit := fun _ _ _ _ => { action := .disable, tool := () }

/-- A block of two lines. -/
def twoLines : Block where
  id := 0
  name := "f"
  file := "f.py"
  firstLine := 1
  instrs := [⟨2, .work 1⟩, ⟨3, .work 2⟩]

/-- A profiler that watches a block of two lines. -/
def twoLinesWatched : List Turn :=
  [{ move := .task (.profiler none .shared .files) },
    { move := .task (.define
      { name := "f", file := "f.py", firstLine := 1, instrs := twoLines.instrs }) },
    { move := .task (.add 0 0) }]

/-- The block is called under the profiler, twice in a row. -/
def calledTwice : List Turn :=
  twoLinesWatched ++ [{ move := .task (.enable 0) }, { move := .call 0 },
    { move := .task (.disable 0) }, { move := .task (.enable 0) }, { move := .call 0 },
    { move := .task (.disable 0) }]

/-- What the tool switches off while the profiler is on is not hidden from it. -/
theorem unhidden_hits_twice :
    HeldByTool listening ∧
      let beside := play (Tampered.scripts onceOnly) (Tampered.host onceOnly) 9 calledTwice
        ⟨startBeside listening true (), []⟩
      (∀ f ∈ beside.2.state.found, f.Clear) ∧ beside.2.state.found.length = 2 ∧
        ((beside.2.state.engine.profiler 0).tally.cell twoLines.identity 2).hits.toNat = 2 := by
  have clear : ∀ f ∈ (play (Tampered.scripts onceOnly) (Tampered.host onceOnly) 9 calledTwice
      ⟨startBeside listening true (), []⟩).2.state.found, f.Clear := by decide +kernel
  obtain ⟨-, -, -, hits⟩ := unhidden_hits onceOnly () listening heldByTool_listening true 9
    calledTwice clear
  refine ⟨heldByTool_listening, clear, by decide +kernel, ?_⟩
  exact (hits 0 twoLines.identity 2).trans (by decide +kernel)

/-- The block is called without the profiler, and then under it. -/
def calledBefore : List Turn :=
  twoLinesWatched ++ [{ move := .call 0 }, { move := .task (.enable 0) }, { move := .call 0 },
    { move := .task (.disable 0) }]

/-- What the tool switched off before the profiler was on stays hidden from it: the line starts, the
profiler is on and watches its block, and there is no hit. -/
theorem switched_off_before_lost :
    let beside := play (Tampered.scripts onceOnly) (Tampered.host onceOnly) 9 calledBefore
      ⟨startBeside listening true (), []⟩
    Log.hits 0 (like twoLines.identity) 2 beside.2.state.log = 1 ∧
      ((beside.2.state.engine.profiler 0).tally.cell twoLines.identity 2).hits.toNat = 0 := by
  decide +kernel

end LineClock.Course

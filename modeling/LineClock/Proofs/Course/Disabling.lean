import LineClock.Proofs.Course.Tenancy
import LineClock.Proofs.Engine.Honouring

/-!
# A tool that switches locations off

A course beside a tool that holds the profilers' id and answers that it wants to hear of a location
no more. Until the facility is restarted or the id is let go it is not called there again, however
often profilers come and go meanwhile.

Main statements: `disabled_until_restart` and `switched_off_heard_again`.
-/

namespace LineClock.Course

open Machine Engine

/-- **A location that a tool switched off stays off.** A tool holds the profilers' id, and its
callbacks do what they like to it. Where one of them is called at a location that one of them had
switched off before (and had not restarted the facility itself in that very call, to which the
profilers had passed the event), every location was switched on again meanwhile, because the facility
was restarted or the id let go; or a callback for this kind of event was registered after the
profilers had left. So it is whatever course is taken: profilers may come and go, on any threads, and
the facility be restarted at any time. -/
theorem disabled_until_restart {τ : Type} (tool : Tool registry τ) (first : τ) (f : Facility)
    (held : HeldByTool f) (wrap : Bool) (restarts : List Nat) (budget : Nat) (turns : List Turn)
    {call answer : Happening registry} {later earlier : List (Happening registry)}
    {location : Location} (suffix : call :: (later ++ answer :: earlier) <:+
      (playHeld tool budget turns ⟨startHeld f wrap first restarts, []⟩).state.history)
    (there : call.At location) (off : answer.SwitchesOff location) :
    (∃ h ∈ later, h.Lifts) ∨ Renewed location.kind later := by
  have only : Tool.Only (fun _ => True) tool := fun _ _ _ _ _ _ => trivial
  have steps : Tenure.Steps (fun _ => True) (firstTenure f) _ :=
    steps_playHeld only budget turns ⟨startHeld f wrap first restarts, []⟩
      (tenable_start held wrap first restarts)
  have honours := steps.keeps (P := Tenure.Honours) (fun step h => h.step step) (.start f)
  exact honours.calls call later answer earlier location suffix there off

/-- A tool that switches off every location it hears of. -/
def shy : Tool registry Unit := fun _ _ _ _ => { tampers := [], action := .disable, tool := () }

/-- A line is called twice under a profiler and twice without. -/
def comings : List Turn :=
  [{ move := .task (.profiler none .shared .files) },
    { move := .task (.define { name := "f", file := "m.py", firstLine := 1, instrs := [⟨2, .work 5⟩] }) },
    { move := .task (.enable 0) }, { move := .call 0 }, { move := .task (.disable 0) }, { move := .call 0 },
    { move := .task (.enable 0) }, { move := .call 0 }, { move := .task (.disable 0) }, { move := .call 0 }]

/-- Where the only line of the block is. -/
def onlyLine : Location := { block := 0, offset := 0, kind := .line }

/-- The line is called again, and the facility was restarted. -/
theorem disabled_until_restart_comings :
    HeldByTool listening ∧ ∃ call later answer earlier,
      call :: (later ++ answer :: earlier) <:+ (playHeld shy 9 comings
        ⟨startHeld listening true () (List.replicate 14 0 ++ [1]), []⟩).state.history ∧
      call.At onlyLine ∧ answer.SwitchesOff onlyLine ∧
      ((∃ h ∈ later, h.Lifts) ∨ Renewed onlyLine.kind later) := by
  have found : ∃ rest ∈ (playHeld shy 9 comings
      ⟨startHeld listening true () (List.replicate 14 0 ++ [1]), []⟩).state.history.tails,
      rest.head?.any (fun call => decide (call.At onlyLine)) = true ∧
      ∃ older ∈ rest.tail.tails,
        older.head?.any (fun answer => decide (answer.SwitchesOff onlyLine)) = true := by decide +kernel
  obtain ⟨rest, within, called, older, before, off⟩ := found
  match rest, older, called, off with
  | call :: more, answer :: earlier, called, off =>
    obtain ⟨later, rfl⟩ := (List.mem_tails _ _).mp before
    have suffix := (List.mem_tails _ _).mp within
    have called := of_decide_eq_true called
    have off := of_decide_eq_true off
    exact ⟨heldByTool_listening, call, later, answer, earlier, suffix, called, off,
      disabled_until_restart shy () listening heldByTool_listening true _ 9 comings suffix called off⟩

/-- A tool that switches off every location, and restarts the facility the second time. -/
def hasty : Tool registry Nat := fun n _ _ _ =>
  { tampers := if n = 1 then [.restart] else [], action := .disable, tool := n + 1 }

/-- The second line of a block. -/
def secondLine : Location := { block := 0, offset := 1, kind := .line }

/-- The line as it runs. -/
def lineRuns : MonitorEvent := { kind := .line, block := default, offset := 0, line := 2 }

/-- Whether the last of some happenings is a call at the second line, and three happenings before the
tool switched the line off. -/
def heardAgain : List (Happening registry) → Bool
  | call :: x :: y :: z :: .called _ _ event true _ .disable :: _ =>
    decide ((event.location = secondLine ∧ event.kind.canDisable = true ∧ call.At secondLine) ∧
      ∀ h ∈ [x, y, z], ¬ h.Lifts ∧ h.left? = none)
  | _ => false

/-- An answer that comes after a restart in the same call is lost: the location is heard of again
while nothing was switched on and the profilers did not leave. And a layer that they have left answers
as long as their registry is there, and no longer. -/
theorem switched_off_heard_again :
    (∃ call thread script event acts later earlier,
      call :: (later ++ .called thread script event true acts .disable :: earlier) <:+
        (playHeld hasty 9 besideCourse ⟨startHeld listening true 0 [], []⟩).state.history ∧
      event.location = secondLine ∧ event.kind.canDisable = true ∧ call.At secondLine ∧
      (∀ h ∈ later, ¬ h.Lifts) ∧ ∀ h ∈ later, h.left? = none) ∧
    let e := (playHeld shy 9 (comings.take 5) ⟨startHeld listening true () [], []⟩).state.engine
    let dropped := ((modifyRegistry registry fun r => { r with released := true }).run e).2
    lineRuns.location = onlyLine ∧ ¬ e.facility.isDisabled Facility.profilerTool onlyLine ∧
      ∃ hook, e.facility.callback? Facility.profilerTool .line = some hook ∧
        ((uncover lineRuns hook).run e).1 = none ∧
        ((uncover lineRuns hook).run dropped).1 = some (.script 0) := by
  refine ⟨?_, by decide, by decide +kernel, ?_⟩
  · have found : ∃ rest ∈ (playHeld hasty 9 besideCourse
        ⟨startHeld listening true 0 [], []⟩).state.history.tails, heardAgain rest = true := by
      decide +kernel
    obtain ⟨rest, within, again⟩ := found
    unfold heardAgain at again
    split at again
    · obtain ⟨⟨there, off, called⟩, stays⟩ := of_decide_eq_true again
      rename_i call x y z thread script event acts earlier
      exact ⟨call, thread, script, event, acts, [x, y, z], earlier, (List.mem_tails _ _).mp within,
        there, off, called, fun h mem => (stays h mem).1, fun h mem => (stays h mem).2⟩
    · cases again
  · have opens : ((playHeld shy 9 (comings.take 5)
        ⟨startHeld listening true () [], []⟩).state.engine.facility.callback?
        Facility.profilerTool .line).any (fun hook =>
          let e := (playHeld shy 9 (comings.take 5) ⟨startHeld listening true () [], []⟩).state.engine
          let dropped := ((modifyRegistry registry fun r => { r with released := true }).run e).2
          decide (((uncover lineRuns hook).run e).1 = none ∧
            ((uncover lineRuns hook).run dropped).1 = some (.script 0))) = true := by decide +kernel
    obtain ⟨hook, there, opens⟩ := (Option.any_eq_true _ _).mp opens
    exact ⟨hook, there, of_decide_eq_true opens⟩

end LineClock.Course

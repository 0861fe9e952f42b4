import LineClock.Proofs.Course.Chronicle

/-!
# Time while a profiler is off

Switching a profiler off leaves what is pending as it is. A line is charged for the time since it
started to run, and if nothing was pending whenever the profiler was switched off on that thread, the
profiler was on there all that time.

Main statement: `charged_while_on`.
-/

namespace LineClock.Course

open Machine Engine

/-- A line of a block gets no ticks between two engines that follow one another, or those since a
moment from which on it was running; the profiler was on then, and it was on all the time since if
nothing was pending when it was switched off. -/
def Charged (p : ProfilerId) (block : BlockHash) (line : UInt32) (e' e : Engine)
    (earlier : List Engine) : Prop :=
  e'.ticksOf p block line = e.ticksOf p block line ∨
    ∃ during start rest, e :: earlier = during ++ start :: rest ∧
      e'.ticksOf p block line =
        (e.ticksOf p block line).satAdd ((e.timeOf p).satSub (start.timeOf p)) ∧
      Since p e.thread block ⟨line, start.timeOf p⟩ during start ∧
      ((∀ left ∈ leftAtDrops p e.thread (e :: earlier), left = []) →
        ∀ v ∈ e' :: (during ++ [start]), v.isOnAt e.thread p = true)

/-- The accounts of a profiler over a chronicle, newest first: switching it off on a thread leaves
what is pending there, and lines are charged. -/
inductive Accounts (p : ProfilerId) : List Engine → Prop where
  | begin (e : Engine) : Accounts p [e]
  | next {e' e : Engine} {earlier : List Engine}
    (stays : ∀ th, e.isOnAt th p = true → e'.isOnAt th p = false →
      ∀ block, e'.markOf p th block = e.markOf p th block)
    (charged : ∀ block line, Charged p block line e' e earlier)
    (before : Accounts p (e :: earlier)) : Accounts p (e' :: e :: earlier)

/-- One more thing happens. -/
theorem charged_next {τ : Type} {p : ProfilerId} {x y : Chronicle τ} (begins : x.Begins p)
    (h : x.Extends y) {e : Engine} (happens : Happens y.now e) (block : BlockHash) (line : UInt32) :
    Charged p block line e y.now y.past := by
  have known := Chronicle.Extends.known begins h
  rcases happens.ticksOf known block line with same | ⟨on, ⟨at_line, ticks⟩, running, rfl, charged⟩
  · exact .inl same
  · obtain ⟨during, start, rest, split, since⟩ := h.since begins running
    have time : start.timeOf p = ticks := since.time
    subst time
    refine .inr ⟨during, start, rest, split, charged, since, fun dropped v mem => ?_⟩
    rcases List.mem_cons.mp mem with rfl | mem
    · exact on
    · -- Were it off at that moment, the line would not be running.
      have listed : v ∈ y.engines := by
        rw [split]
        rcases List.mem_append.mp mem with mem | mem
        · exact List.mem_append_left _ mem
        · cases List.mem_singleton.mp mem
          exact List.mem_append_right _ List.mem_cons_self
      cases off : v.isOnAt y.now.thread p with
      | true => rfl
      | false =>
        have none := h.clear begins dropped v listed off block
        rw [since.runs v mem] at none
        cases none

/-- The accounts of a profiler hold over all that extends a beginning. -/
theorem accounts {τ : Type} {p : ProfilerId} {x y : Chronicle τ} (begins : x.Begins p)
    (h : x.Extends y) : Accounts p y.engines := by
  induction h with
  | refl =>
    unfold Chronicle.engines
    rw [begins.past]
    exact .begin _
  | @tail y z earlier step ih =>
    rcases step with same | ⟨happens, past⟩
    · rw [same]
      exact ih
    · have history : z.engines = z.now :: y.now :: y.past := congrArg (z.now :: ·) past
      rw [history]
      refine .next (fun th on off block => ?_) (charged_next begins earlier happens) ih
      have known := Chronicle.Extends.known begins earlier
      rcases happens.markOf known th block with stays | ⟨-, -, still, -⟩
      · exact stays
      · rw [off] at still
        cases still

/-- **No time is charged while a profiler is off**, as long as nothing is pending on the thread
whenever the profiler is switched off there. Switching off drops nothing that is pending: hooks and
programs may do what they will, a line that was running then is charged later for the time since it
started. -/
theorem charged_while_on {τ : Type} (agents : Agents τ) (budget : Nat) (turns : List Turn)
    (gs : List Generator) {p : ProfilerId} {x : Chronicle τ} (begins : x.Begins p) :
    Accounts p (play agents.scripts agents.scripts.host budget turns ⟨x, gs⟩).2.state.engines :=
  accounts begins (agents.play_extends budget turns ⟨x, gs⟩)

/-- A hook switches the profiler off, waits, and switches it on again, at some events. -/
def pause (x : Chronicle Unit) : Chronicle Unit :=
  [Task.disable 0, .advance 5000, .enable 0].foldl (fun x t => x.push (t.act.run x.now).2) x

theorem pause_extends (x : Chronicle Unit) : x.Extends (pause x) :=
  Chronicle.Extends.push (.push (.push .refl (.task _ _)) (.task _ _)) (.task _ _)

/-- The hook that pauses at the events of a kind on a line. -/
def pausing (event : TraceEvent) (line : UInt32) : Agents Unit where
  trace _ frame at_event := ExceptT.mk fun x =>
    (.ok frame.linesOn, if at_event = event ∧ frame.line = line then pause x else x)
  monitor _ _ := pure .goOn
  traces id frame at_event x := by
    show x.Extends (if at_event = event ∧ frame.line = line then pause x else x)
    split
    · exact pause_extends x
    · exact .refl
  monitors _ _ _ := .refl

/-- A block of three lines. -/
def threeLines : Block where
  id := 0
  name := "f"
  file := "f.py"
  firstLine := 1
  instrs := [⟨2, .work 1⟩, ⟨3, .work 2⟩, ⟨4, .work 3⟩]

/-- A profiler that watches the block, and a hook in the trace slot. -/
def hookedSlot : Chronicle Unit where
  now := { (play Scripts.quiet Scripts.quiet.host 9
    [{ move := .task (.profiler none .shared .files) },
      { move := .task (.define
        { name := "f", file := "f.py", firstLine := 1, instrs := threeLines.instrs }) },
      { move := .task (.add 0 0) }] ⟨start .slot true true, []⟩).2.state with
    slots := ⟨[(0, .script 7)]⟩ }
  memory := ()

/-- The block is called while the profiler is on. -/
def oneCall : List Turn :=
  [{ move := .task (.enable 0) }, { move := .call 0 }, { move := .task (.disable 0) }]

/-- What the engine is while the block is called. -/
def calledOnce (agents : Agents Unit) : List Engine :=
  (play agents.scripts agents.scripts.host 9 oneCall ⟨hookedSlot, []⟩).2.state.engines

theorem hookedSlot_begins : hookedSlot.Begins 0 := by
  refine ⟨rfl, by decide +kernel, fun th => ?_⟩
  have none : (hookedSlot.now.profiler 0).tally.pending.entries = [] := by decide +kernel
  unfold Tally.pendingOn
  rw [none]
  rfl

/-- A pause before the first line: nothing is pending then, and the accounts show only what the lines
took. -/
theorem charged_while_on_paused :
    hookedSlot.Begins 0 ∧ Accounts 0 (calledOnce (pausing .call 1)) ∧
      leftAtDrops 0 0 (calledOnce (pausing .call 1)) = [[], []] ∧
      (calledOnce (pausing .call 1)).head?.map (fun e => [2, 3, 4].map (e.ticksOf 0 threeLines.identity)) =
        some [1000, 2000, 3000] := by
  have accounts := charged_while_on (pausing .call 1) 9 oneCall [] hookedSlot_begins
  unfold calledOnce
  exact ⟨hookedSlot_begins, accounts, by decide +kernel, by decide +kernel⟩

/-- A pause at the second line: what is pending then stays, and the line that took 2000 ticks is
charged with the 5000 of the pause too. -/
theorem pause_charged :
    leftAtDrops 0 0 (calledOnce (pausing .line 3)) = [[], [(threeLines.identity, ⟨3, 1000⟩)]] ∧
      (calledOnce (pausing .line 3)).head?.map (fun e => [2, 3, 4].map (e.ticksOf 0 threeLines.identity)) =
        some [1000, 7000, 3000] := by
  decide +kernel

end LineClock.Course

import LineClock.Proofs.Course.Lifecycle
import LineClock.Proofs.Engine.SlotEar
import LineClock.Proofs.Engine.ToolEar
import LineClock.Proofs.Profiler.Tally

/-!
# After a call that may have failed

Programs are run on a thread while a profiler is on there, among hooks of others that may fail. What
is pending on the thread after a call or a step of a generator is what was pending before, which is
nothing. A hook that keeps the registry from hearing that a frame is left must not fail: `Bearable`
names these places.

Main statement: `nothing_left_running`.
-/

namespace LineClock.Course

open Machine Engine Earshot

variable {σ : Type} {s : Scripts σ} {registry : RegistryId}

/-- The hooks of others fail only where the registry hears nevertheless that the frame is left. At the
trace slot, which is told of every event first, that is everywhere but where an exception is announced
to the facility. -/
def Bearable (s : Scripts σ) (registry : RegistryId) (e : Engine) (home : Option TraceHook) : Prop :=
  match (e.registry registry).backend with
  | .slot => ∀ tool id, e.facility.callback? tool .raise = some (.script id) → s.Monitors .raise id
  | .tool => s.Firm e.facility home

/-- Whether a move runs a program, or makes a frame for one. -/
def Move.Runs : Move → Prop
  | .task _ => False
  | .call _ | .generator _ | .resume _ => True

/-- Programs are run one after the other. -/
def runAll (s : Scripts σ) (budget : Nat) (moves : List Move) (st : Stage σ) : Stage σ :=
  moves.foldl (fun st m => (m.perform s s.host budget st).2) st

/-- A program that is run leaves nothing standing. -/
theorem perform_leaves {S : List BlockHash → Nat → σ → Prop} (clearing : Clearing s.host S)
    {c : List BlockHash} {n : Nat} (budget : Nat) {m : Move} (runs : m.Runs) {st : Stage σ}
    (there : S c n st.state) : S c n (m.perform s s.host budget st).2.state := by
  cases m with
  | task t => exact runs.elim
  | call routine => exact clearing.call budget routine there
  | generator routine => exact clearing.newFrame there
  | resume i =>
    unfold Move.perform
    cases found : st.generators[i]? with
    | none =>
      simp only [found]
      exact there
    | some g =>
      simp only [found]
      cases frame : g.frame with
      | none => exact there
      | some act => exact clearing.step budget g.routine act there

/-- **Whatever programs are run**, they leave nothing standing. -/
theorem runAll_leaves {S : List BlockHash → Nat → σ → Prop} (clearing : Clearing s.host S)
    {c : List BlockHash} {n : Nat} (budget : Nat) (moves : List Move) (run : ∀ m ∈ moves, m.Runs)
    {st : Stage σ} (there : S c n st.state) : S c n (runAll s budget moves st).state := by
  induction moves generalizing st with
  | nil => exact there
  | cons m rest ih =>
    exact ih (fun m' mem => run m' (List.mem_cons_of_mem m mem))
      (perform_leaves clearing budget (run m List.mem_cons_self) there)

/-- What is known where a profiler is on, and nothing is pending on the thread. -/
theorem runs_begin {e : Engine} {p : ProfilerId} (fair : Scene.Fair (e.dispatchOf registry).active)
    (on : 0 < (e.dispatchOf registry).countOf p)
    (clear : (e.profiler p).tally.pendingOn e.thread = []) :
    (e.scene registry).Runs ⟨p, e.thread, e.routines⟩ [] 1 := by
  have none : ∀ block, (e.scene registry).mark p e.thread block = none := Tally.mark?_of_pendingOn clear
  exact ⟨rfl, rfl, fair, Nat.one_pos, on, fun block running => absurd (none block) running,
    fun block running => absurd (none block) running⟩

/-- A registry amid hooks at the trace slots, as it listens on a thread. -/
theorem slotEar_begins {e : Engine} {facility : Facility} {held : ThreadKey → Option TraceHook}
    (amid : SlotAmid registry facility held e) (scripted : Lifecycle.Scripted held)
    (on : (e.dispatchOf registry).activated = true) : SlotEar registry facility false e := by
  obtain ⟨saved, wrapped, serial, mine, slot⟩ := amid.here.listening on
  refine ⟨fun tool kind => by rw [amid.facility], amid.here.idle, on, fun deaf => (by cases deaf),
    fun _ => ⟨serial, slot.trans mine, mine⟩, fun _ => ⟨saved.trans wrapped.symm, fun hook there => ?_⟩⟩
  exact scripted e.thread hook (wrapped.symm.trans there)

/-- A registry amid hooks at the tool ids, as it listens on a thread. -/
theorem toolEar_begins {e : Engine} {f₀ : Facility} {held : ThreadKey → Option TraceHook}
    (amid : ToolAmid registry f₀ held e) (scripted : f₀.Scripted)
    (on : (e.dispatchOf registry).activated = true)
    (clear : ∀ location, location.kind ∈ leavingKinds →
      e.facility.isDisabled Facility.profilerTool location = false) :
    ToolIdle registry f₀ (held e.thread) false e := by
  obtain ⟨ths, -, mem, length⟩ := amid.stationed.threads
  have some : 0 < (e.share registry).threads := by
    rw [← length]
    exact List.length_pos_of_mem ((mem e.thread).mpr on)
  obtain ⟨f₁, alike, installs⟩ := amid.stationed.place.on some
  have unguarded := amid.stationed.unguarded
  refine ⟨⟨⟨unguarded, amid.stationed.monitored, fun tool kind other => ?_,
    .inr (amid.stationed.slots e.thread)⟩, fun deaf => (by cases deaf),
    fun _ => amid.stationed.place.held some, fun _ => clear, fun _ kind hook there => ?_⟩,
    amid.stationed.idle e.thread⟩
  · rw [installs.others tool kind other, alike.callbacks]
  · rw [installs.wrapped] at there
    split at there
    · rw [alike.callbacks] at there
      exact scripted _ _ hook there
    · cases there

/-- **Nothing is pending on a thread after programs ran there**, whichever of them failed and whichever
hooks did, while a profiler is on and the hooks of others do not keep it from hearing that frames are
left. Before, the profilers of a fresh registry may have been switched in any way. -/
theorem nothing_left_running {σ₀ : Type} {s₀ : Scripts σ₀} (meek : s₀.Meek) {x₀ : σ₀}
    (fresh : Lifecycle.Fresh registry (s₀.engine x₀)) (turns : List Lifecycle.Turn)
    (aloof : s.Aloof) {st : Stage σ} {th : ThreadKey} {p : ProfilerId}
    (begins : s.engine st.state =
      { s₀.engine (Lifecycle.play s₀ registry turns x₀) with thread := th })
    (on : 0 < Lifecycle.counts turns th p)
    (wrappers : ∀ id scope, ((s.engine st.state).routine id).scope = some scope →
      scope.registry = registry)
    (nothing : ((s.engine st.state).profiler p).tally.pendingOn th = [])
    (clear : ((s₀.engine x₀).registry registry).backend = .tool →
      ∀ location, location.kind ∈ leavingKinds →
        (s.engine st.state).facility.isDisabled Facility.profilerTool location = false)
    (bearable : Bearable s registry (s₀.engine x₀)
      (Lifecycle.home (fun th => (s₀.engine x₀).slots.get? th) turns th))
    (budget : Nat) (moves : List Move) (run : ∀ m ∈ moves, m.Runs) :
    ((s.engine (runAll s budget moves st).state).profiler p).tally.pendingOn th = [] := by
  let e := s₀.engine (Lifecycle.play s₀ registry turns x₀)
  let post : Scene.Post := ⟨p, th, e.routines⟩
  -- where nothing is left running nothing is pending
  have done : ∀ {L : Bool → Engine → Prop}, Clearing s.host (Leaves s registry L post) →
      Leaves s registry L post [] 1 st.state →
      ((s.engine (runAll s budget moves st).state).profiler p).tally.pendingOn th = [] := by
    intro L clearing there
    obtain ⟨deaf, -, runs⟩ := runAll_leaves clearing budget moves run there
    rw [ite_self] at runs
    exact runs.pendingOn
  -- a registry that lives is on where the profiler is
  have known : ∀ {L : Lifecycle.Way} {held}, Lifecycle.Alive registry L held (Lifecycle.counts turns) e →
      (({ e with thread := th } : Engine).scene registry).Runs post [] 1 ∧
        (e.dispatchAt th registry).activated = true := by
    intro L held alive
    have often : 0 < (e.dispatchAt th registry).countOf p := by
      rw [alive.counted]
      exact on
    rw [begins] at nothing
    refine ⟨runs_begin (e := { e with thread := th }) (alive.fair th) often nothing, ?_⟩
    rw [alive.balanced th]
    exact ((alive.fair th).isActive_iff).mpr ⟨p, often⟩
  rw [begins] at wrappers clear
  cases backend : ((s₀.engine x₀).registry registry).backend with
  | slot =>
    have alive := (fresh.alive (fresh.slotAmid backend)).play (SlotAmid.living meek fresh.callbacks)
      meek.get_put turns
    obtain ⟨runs, activated⟩ := known alive
    unfold Bearable at bearable
    rw [backend] at bearable
    have ear := slotEar_begins ((SlotAmid.living meek fresh.callbacks).moveTo alive.there th)
      alive.scripted activated
    refine done (SlotEar.clearing aloof fresh.callbacks wrappers bearable) ⟨false, ?_, ?_⟩
    · rw [begins]
      exact ear
    · rw [begins]
      exact runs
  | tool =>
    have living : Lifecycle.Living s₀ registry (ToolAmid registry (s₀.engine x₀).facility) :=
      ToolAmid.living meek fresh.free fresh.callbacks
    have alive := (fresh.alive (fresh.toolAmid backend)).play living meek.get_put turns
    obtain ⟨runs, activated⟩ := known alive
    unfold Bearable at bearable
    rw [backend] at bearable
    have ear := toolEar_begins (living.moveTo alive.there th) fresh.callbacks activated (clear backend)
    refine done (ToolEar.clearing aloof fresh.callbacks (alive.scripted th) bearable wrappers)
      ⟨false, ?_, ?_⟩
    · rw [begins]
      exact ear
    · rw [begins]
      exact runs

/-! ## Places where a hook must not fail -/

/-- A hook of somebody else, and the kind of events at which it fails. -/
inductive Spot where
  | slot (event : TraceEvent)
  | tool (id : ToolId) (kind : EventKind)
  deriving DecidableEq, Repr, Inhabited

namespace Spot

/-- Whether a callback fails at events of a kind. -/
def strikes : Spot → EventKind → Bool
  | .slot _, _ => false
  | .tool _ kind, here => kind = here

/-- A hook that fails at events of the block `g`. -/
def scripts (spot : Spot) : Scripts Engine where
  engine e := e
  withEngine _ e := e
  trace _ frame event :=
    if spot = .slot event ∧ frame.block.name = "g" then throw ⟨"no"⟩ else pure frame.linesOn
  monitor _ event :=
    if spot.strikes event.kind ∧ event.block.name = "g" then throw ⟨"no"⟩ else pure .goOn

theorem aloof (spot : Spot) : spot.scripts.Aloof := by
  refine ⟨fun _ _ => rfl, fun _ => rfl, fun _ frame event x => ?_, fun _ event x => ?_⟩
  all_goals
    unfold scripts
    simp only
    split <;> rfl

/-- A routine `f` that calls `g`, whose last unit is `op`, and a profiler that watches both. -/
def watched (backend : Backend) (generator : Bool) (op : Op) : Engine :=
  let g : Draft :=
    { name := "g", file := "g.py", firstLine := 1, generator, instrs := [⟨2, .work 1⟩, ⟨3, op⟩] }
  let f : Draft :=
    { name := "f", file := "f.py", firstLine := 1, instrs := [⟨2, .work 1⟩, ⟨3, .call 0⟩], callees := [0] }
  (play Scripts.quiet Scripts.quiet.host 9
    [{ move := .task (.profiler none .shared .files) }, { move := .task (.define g) },
      { move := .task (.define f) }, { move := .task (.addAll 0 [0, 1]) }]
    ⟨start backend true false, []⟩).2.state

/-- The machine with the hook there. -/
def machine (spot : Spot) (backend : Backend) (generator : Bool) (op : Op) : Engine :=
  match spot with
  | .slot _ => { watched backend generator op with slots := ⟨[(0, .script 7)]⟩ }
  | .tool id kind =>
    { watched backend generator op with
      facility := {
        holders := ⟨[(id, "other")]⟩
        events := ⟨[(id, .ofList [kind])]⟩
        callbacks := ⟨[((id, kind), .script 7)]⟩ } }

/-- The profiler is switched on. -/
def switchedOn (e : Engine) : Engine :=
  { Lifecycle.play Scripts.quiet Course.registry [⟨0, .enable 0⟩] e with thread := 0 }

/-- The profiler is switched on, and `f` is called. -/
def called (spot : Spot) (e : Engine) : Engine :=
  (runAll spot.scripts 9 [.call 1] ⟨switchedOn e, []⟩).state

/-- The lines that are pending after that. -/
def pending (spot : Spot) (backend : Backend) (generator : Bool) (op : Op) : List UInt32 :=
  (((spot.called (spot.machine backend generator op)).profiler 0).tally.pendingOn 0).map fun e => e.2.line

theorem unwrapped {e : Engine} (routines : e.routines = ⟨[(0, { slot := 0 }), (1, { slot := 1 })]⟩)
    (id : RoutineId) : (e.routine id).scope = none := by
  unfold Engine.routine
  rw [routines]
  simp only [Assoc.getD, Assoc.get?, Assoc.find?]
  split
  · rfl
  · split <;> rfl

/-- A callback that fails at lines only fails nowhere where it would matter. -/
theorem line_bearable {e : Engine} (backend : (e.registry Course.registry).backend = .tool)
    (callbacks : ∀ tool kind, e.facility.callback? tool kind =
      if ((0 : ToolId), EventKind.line) = (tool, kind) then some (.script 7) else none) :
    Bearable (Spot.tool 0 .line).scripts Course.registry e none := by
  have free : ∀ tool kind id, kind ≠ .line → e.facility.callback? tool kind ≠ some (.script id) := by
    intro tool kind id other there
    rw [callbacks] at there
    split at there
    · rename_i same
      cases same
      exact other rfl
    · cases there
  unfold Bearable
  rw [backend]
  refine ⟨fun id mine => ?_, fun tool id _ there => ?_, fun tool kind id _ left there => ?_,
    fun id there => ?_⟩
  · cases mine
  · exact absurd there (free tool .raise id (by decide))
  · refine absurd there (free tool kind id ?_)
    rintro rfl
    exact absurd left (by decide)
  · exact absurd there (free _ .start id (by decide))

end Spot

/-- A callback fails at each line of `g`, before the profilers hear of it. -/
def lineFails : Engine := (Spot.tool 0 .line).machine .tool false .ret

theorem lineFails_callback? (tool : ToolId) (kind : EventKind) :
    lineFails.facility.callback? tool kind =
      if ((0 : ToolId), EventKind.line) = (tool, kind) then some (.script 7) else none := rfl

theorem lineFails_fresh : Lifecycle.Fresh Course.registry lineFails := by
  have dispatch : lineFails.dispatch = {} := by decide +kernel
  have slots : lineFails.slots = {} := by decide +kernel
  have held : ∀ tool, lineFails.facility.holder? tool = if (0 : ToolId) = tool then some "other" else none :=
    fun _ => rfl
  have events : ∀ tool, lineFails.facility.eventsOf tool =
      (if (0 : ToolId) = tool then some (EventSet.ofList [.line]) else none).getD .empty := fun _ => rfl
  refine ⟨by decide +kernel, by decide +kernel, by decide +kernel, fun _ => by decide +kernel,
    by decide +kernel, fun th => ?_, fun th other _ => ?_, fun th hook there => ?_,
    fun tool kind hook there => ?_, fun _ kind => ?_, fun tool free => ?_⟩
  · unfold dispatchAt
    rw [dispatch]
    rfl
  · unfold dispatchAt
    rw [dispatch]
    rfl
  · rw [slots] at there
    cases there
  · rw [lineFails_callback?] at there
    split at there
    · exact ⟨7, (Option.some.inj there).symm⟩
    · cases there
  · rw [lineFails_callback?, if_neg]
    rintro ⟨⟩
  · rw [held] at free
    split at free
    · cases free
    · rename_i other
      rw [events, if_neg other]
      rfl

theorem nothing_left_running_line :
    Lifecycle.Fresh Course.registry lineFails ∧
      ((Spot.tool 0 .line).called lineFails).facility.eventsOf 0 = .empty ∧
      (((Spot.tool 0 .line).called lineFails).profiler 0).tally.pendingOn 0 = [] := by
  -- stated for any machine, or else the whole state of this one would be written out
  have clears : ∀ e : Engine, Lifecycle.Fresh Course.registry e →
      (e.registry Course.registry).backend = .tool →
      (∀ tool kind, e.facility.callback? tool kind =
        if ((0 : ToolId), EventKind.line) = (tool, kind) then some (.script 7) else none) →
      Lifecycle.home (fun th => e.slots.get? th) [⟨0, .enable 0⟩] 0 = none →
      (Spot.switchedOn e).routines = ⟨[(0, { slot := 0 }), (1, { slot := 1 })]⟩ →
      (Spot.switchedOn e).facility.disabled = [] →
      ((Spot.switchedOn e).profiler 0).tally.pendingOn 0 = [] →
      (((Spot.tool 0 .line).called e).profiler 0).tally.pendingOn 0 = [] := by
    intro e fresh backend callbacks home routines disabled nothing
    have bearable := Spot.line_bearable backend callbacks
    rw [← home] at bearable
    exact @nothing_left_running Engine (Spot.tool 0 .line).scripts Course.registry Engine
      Scripts.quiet Scripts.meek_quiet e fresh [⟨0, .enable 0⟩] (Spot.aloof _)
      ⟨Spot.switchedOn e, []⟩ 0 0 rfl (by decide)
      (fun id scope found => by cases (Spot.unwrapped routines id).symm.trans found) nothing
      (fun _ location _ => by
        show (Spot.switchedOn e).facility.disabled.contains _ = false
        rw [disabled]
        rfl)
      bearable 9 [.call 1] (fun m mem => by
        cases List.mem_singleton.mp mem
        trivial)
  exact ⟨lineFails_fresh, by decide +kernel, clears lineFails lineFails_fresh (by decide +kernel)
    lineFails_callback? (by decide +kernel) (by decide +kernel) (by decide +kernel) (by decide +kernel)⟩

/-- A callback at an id before the profilers' that fails where a frame is left leaves its line running,
and so does a hook at each of the other places that are not bearable. -/
theorem return_unheard :
    (Spot.tool 0 .ret).pending .tool false .ret = [3] ∧
      (Spot.tool 0 .yield).pending .tool true .yield = [3] ∧
      (Spot.tool 0 .unwind).pending .tool false .raise = [3] ∧
      (Spot.tool 3 .raise).pending .tool false .raise = [3] ∧
      (Spot.tool 2 .start).pending .tool false .ret = [3] ∧
      (Spot.slot .ret).pending .tool false .ret = [3] ∧
      (Spot.slot .exception).pending .tool false .raise = [3] ∧
      (Spot.tool 0 .raise).pending .slot false .raise = [3] := by
  decide +kernel

end LineClock.Course

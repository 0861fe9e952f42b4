import LineClock.Proofs.Engine.Relaying
import LineClock.Proofs.Machine.Simulation

/-!
# Frames that are muted

Profilers took the trace slot over from a hook. On a second machine they never did. The hook may
switch off line events of a frame: on the second machine the frame is not announced any more, while
the profilers hear of its lines still and keep them from the hook. Both machines agree if the muted
frames are those of which no lines are announced on the second one; frames that wait are among them.

Main statement: `Agree.simulation`.
-/

namespace LineClock

open Machine Engine

/-- What surrounds a run: who is on, and the frames that wait, with whether their lines are announced
where no profiler is on. -/
structure Around extends Crew where
  waits : FrameId → Option Bool := fun _ => none

/-- One frame more waits. -/
def Around.park (c : Around) (id : FrameId) (linesOn : Bool) : Around :=
  { c with waits := fun id' => if id' = id then some linesOn else c.waits id' }

/-- A frame waits no more. -/
def Around.release (c : Around) (id : FrameId) : Around :=
  { c with waits := fun id' => if id' = id then none else c.waits id' }

/-- What surrounds a run within the scope of a routine. -/
def Around.inside (c : Around) (routine : RoutineId) : Around :=
  { c with toCrew := c.toCrew.within routine }

/-- A machine where profilers took the slot over from a hook, and one where they did not. -/
structure Agree (registry : RegistryId) (c : Around) (x y : Hooked) : Prop where
  led : c.toCrew.Led
  slot : ∃ inner : Option ScriptId, Relaying registry inner c.toCrew x ∧
    y.engine.traceHook? = inner.map .script
  silent : ∀ tool kind, y.engine.facility.callback? tool kind = none
  scene : (x.engine.scene registry).bare = (y.engine.scene registry).bare
  visits : x.visits = y.visits
  young : ∀ id ∈ (x.engine.dispatchOf registry).muted, id < x.engine.frames
  waiting : ∀ id linesOn, c.waits id = some linesOn → id < x.engine.frames ∧
    (id ∈ (x.engine.dispatchOf registry).muted ↔ linesOn = false)

/-- Two such machines beside a frame. Its lines are announced on the second one unless it is muted. -/
structure Beside (registry : RegistryId) (c : Around) (f : Twin) (x y : Hooked) : Prop where
  agree : Agree registry c x y
  lit : f.left = true
  free : c.waits f.id = none
  young : f.id < x.engine.frames
  muted : f.id ∈ (x.engine.dispatchOf registry).muted ↔ f.right = false

namespace Agree

variable {registry : RegistryId} {c : Around} {x y x' y' : Hooked} {hooks : Hooks} {f : Twin}

theorem hushed (h : Agree registry c x y) :
    ∀ tool kind, x.engine.facility.callback? tool kind = none := by
  obtain ⟨inner, relaying, -⟩ := h.slot
  exact relaying.stands.silent

/-- The same code runs on both. -/
theorem codeOf (h : Agree registry c x y) (routine : RoutineId) :
    x.engine.codeOf routine = y.engine.codeOf routine := by
  have same := congrArg (fun s : Scene => s.codeOf routine) h.scene
  exact same

theorem frames (h : Agree registry c x y) : x.engine.frames = y.engine.frames := by
  have same := congrArg Scene.frames h.scene
  exact same

theorem clock (h : Agree registry c x y) : x.engine.clock = y.engine.clock := by
  have same := congrArg Scene.clock h.scene
  exact same

/-! ## Frames that wait -/

/-- A frame that waits is among the surroundings. -/
theorem park (h : Beside registry c f x y) : Agree registry (c.park f.id f.right) x y := by
  refine ⟨h.agree.led, h.agree.slot, h.agree.silent, h.agree.scene, h.agree.visits, h.agree.young,
    fun id linesOn there => ?_⟩
  unfold Around.park at there
  simp only at there
  split at there
  · rename_i here
    cases there
    rw [here]
    exact ⟨h.young, h.muted⟩
  · exact h.agree.waiting id linesOn there

/-- A frame that goes on is not among the surroundings. -/
theorem unpark (h : Agree registry (c.park f.id f.right) x y) (lit : f.left = true)
    (free : c.waits f.id = none) : Beside registry c f x y := by
  have own : (c.park f.id f.right).waits f.id = some f.right := if_pos rfl
  obtain ⟨young, muted⟩ := h.waiting f.id f.right own
  refine ⟨⟨h.led, h.slot, h.silent, h.scene, h.visits, h.young,
    fun id linesOn there => h.waiting id linesOn ?_⟩, lit, free, young, muted⟩
  have other : id ≠ f.id := by
    rintro rfl
    rw [free] at there
    cases there
  exact (if_neg other).trans there

/-- A frame that is gone waits no more. -/
theorem release (h : Agree registry c x y) (id : FrameId) : Agree registry (c.release id) x y := by
  refine ⟨h.led, h.slot, h.silent, h.scene, h.visits, h.young,
    fun id' linesOn there => h.waiting id' linesOn ?_⟩
  unfold Around.release at there
  simp only at there
  split at there
  · cases there
  · exact there

/-- A frame that waited goes on. -/
theorem wake (h : Agree registry c x y) (lit : f.left = true) (waiting : c.waits f.id = some f.right) :
    Beside registry (c.release f.id) f x y := by
  obtain ⟨young, muted⟩ := h.waiting f.id f.right waiting
  exact ⟨h.release f.id, lit, if_pos rfl, young, muted⟩

/-! ## Time and frames -/

/-- A later moment, or more frames. -/
theorem passing (h : Agree registry c x y) (clock : Counter) {frames : Nat}
    (more : x.engine.frames ≤ frames) :
    Agree registry c { x with engine := { x.engine with clock, frames } }
      { y with engine := { y.engine with clock, frames } } := by
  obtain ⟨led, ⟨inner, relaying, slot⟩, silent, scene, visits, young, waiting⟩ := h
  refine ⟨led, ⟨inner, relaying.passing clock frames, slot⟩, silent, ?_, visits,
    fun id mem => Nat.lt_of_lt_of_le (young id mem) more, fun id linesOn there => ?_⟩
  · exact congrArg (fun s : Scene => { s with clock, frames }) scene
  · obtain ⟨old, muted⟩ := waiting id linesOn there
    exact ⟨Nat.lt_of_lt_of_le old more, muted⟩

/-- A later moment beside a frame. -/
theorem later (h : Beside registry c f x y) (clock : Counter) :
    Beside registry c f
      { x with engine := { x.engine with clock, frames := x.engine.frames } }
      { y with engine := { y.engine with clock, frames := x.engine.frames } } :=
  ⟨h.agree.passing clock (Nat.le_refl _), h.lit, h.free, h.young, h.muted⟩

/-! ## Trace events -/

/-- What a trace event leaves that the profilers took. -/
theorem after (h : Beside registry c f x y) {frame : Frame} (own : frame.id = f.id)
    {event : TraceEvent} {told : Heard} (takes : Hooked.Takes registry told frame event x x')
    (relaying : Relaying registry told.inner c.toCrew x') {slots : Assoc ThreadKey TraceHook}
    (slot : slots.get? y.engine.thread = told.inner.map .script) (failed : Bool) :
    Agree registry c x'
      { engine := { y.engine with slots }, visits := told.visits, failed } := by
  have frames : x'.engine.frames = x.engine.frames := by
    have same := congrArg Scene.frames takes.bare
    exact same
  refine ⟨h.agree.led, ⟨told.inner, relaying, slot⟩, h.agree.silent,
    takes.bare.trans h.agree.scene, takes.visits, fun id mem => ?_, fun id linesOn there => ?_⟩
  · rw [frames]
    by_cases this : id = frame.id
    · rw [this, own]
      exact h.young
    · exact h.agree.young id ((takes.others id this).mp mem)
  · obtain ⟨old, muted⟩ := h.agree.waiting id linesOn there
    have other : id ≠ frame.id := by
      rintro rfl
      rw [own, h.free] at there
      cases there
    exact ⟨frames ▸ old, (takes.others id other).trans muted⟩

/-- Whether a trace event of a frame is announced where no profiler is on, and with which answer. -/
def announced (hooks : Hooks) (frame : Frame) (event : TraceEvent) (y : Hooked) :
    Except HookError Bool × Hooked :=
  if event ≠ .line ∨ frame.linesOn then answer ((Hooked.scripts hooks).announceTrace frame event) y
  else (.ok frame.linesOn, y)

/-- The announcement where profilers are on: they hear of all lines. -/
theorem announced_lit (hooks : Hooks) (frame : Frame) (lit : frame.linesOn = true)
    (event : TraceEvent) (x : Hooked) :
    announced hooks frame event x = answer ((Hooked.scripts hooks).announceTrace frame event) x :=
  if_pos (.inr lit)

/-- **A trace event on both machines.** Either the hook is told on both, and answers the same, or it
does not want to hear of the line. -/
theorem tell (h : Beside registry c f x y) (hooks : Hooks) (frame : Frame) (own : frame.id = f.id)
    (lit : frame.linesOn = true) (event : TraceEvent) :
    ∃ told x' y', announced hooks frame event x = (told.answer.map fun _ => true, x') ∧
      announced hooks { frame with linesOn := f.right } event y =
        (told.answer.map fun mutes => f.right && !mutes, y') ∧
      Agree registry c x' y' ∧ Hooked.Takes registry told frame event x x' := by
  obtain ⟨inner, relaying, slot⟩ := h.agree.slot
  obtain ⟨x', answered, takes, relaying'⟩ := relaying.announceTrace h.agree.led hooks lit event
  rw [← announced_lit hooks frame lit] at answered
  unfold announced at *
  by_cases quiet : event = .line ∧ f.right = false
  · -- the profilers keep the line to themselves, and the other machine does not announce it
    have muted : event = .line ∧ frame.id ∈ (x.engine.dispatchOf registry).muted := by
      rw [own]
      exact ⟨quiet.1, h.muted.mpr quiet.2⟩
    have still : ¬ (event ≠ .line ∨ f.right = true) := by
      simp [quiet.1, quiet.2]
    rw [if_pos muted] at answered takes relaying'
    rw [if_neg still]
    refine ⟨_, x', y, answered, ?_, ?_, takes⟩
    · rw [quiet.2]
      rfl
    · have slot : y.engine.slots.get? y.engine.thread = inner.map .script := slot
      have same := after h own takes relaying' slot y.failed
      have visits : (Heard.unheard x.visits inner).visits = y.visits := h.agree.visits
      rw [visits] at same
      exact same
  · have loud : ¬ (event = .line ∧ frame.id ∈ (x.engine.dispatchOf registry).muted) := by
      rw [own, h.muted]
      exact quiet
    have goes : event ≠ .line ∨ f.right = true := by
      rw [Classical.not_and_iff_not_or_not, Bool.not_eq_false] at quiet
      exact quiet
    rw [if_neg loud] at answered takes relaying'
    rw [if_pos goes]
    obtain ⟨slots, answered', slot'⟩ :=
      Hooked.announceTrace_alone hooks slot { frame with linesOn := f.right } event
    -- the hook does not see whether line events of the frame are on
    have same : hooks.hear inner { frame with linesOn := f.right } event y.visits =
        hooks.hear inner frame event x.visits := by
      rw [h.agree.visits]
      cases inner <;> rfl
    simp only [same] at answered' slot'
    exact ⟨_, x', _, answered, answered', after h own takes relaying' slot' _, takes⟩

/-- What a trace event leaves beside a frame that it does not end. -/
theorem goesOn (h : Beside registry c f x y) (agree : Agree registry c x' y') {frame : Frame}
    {event : TraceEvent} {told : Heard} (takes : Hooked.Takes registry told frame event x x')
    (own : frame.id = f.id) (goes : ¬ closes frame event) {lit on : Bool} (left : lit = true)
    (off : on = false ↔ f.right = false ∨ told.answer = .ok true) :
    Beside registry c ⟨f.id, f.block, lit, on⟩ x' y' := by
  have frames : x'.engine.frames = x.engine.frames := by
    have same := congrArg Scene.frames takes.bare
    exact same
  have muted := takes.muted goes
  rw [own, h.muted, ← off] at muted
  exact ⟨agree, left, h.free, frames ▸ h.young, muted⟩

/-! ## Steps of the machine -/

/-- An announcement of the running frame, on either machine. -/
theorem out_signal_announced (hooks : Hooks) (profiled : Bool) (event : TraceEvent)
    (suspended : Bool) (a : Activation) (y : Hooked) :
    (signal (Hooked.host hooks profiled) event suspended).out a y =
      match announced hooks { a.frame with suspended } event y with
      | (.ok linesOn, y') => ((.ok (), withLines linesOn a), y')
      | (.error e, y') => ((.error (.hook e), a), y') := by
  have trace : (Hooked.host hooks profiled).trace = (Hooked.scripts hooks).announceTrace := rfl
  rw [out_signal_eq, trace]
  unfold announced
  simp only
  split
  · rcases answer ((Hooked.scripts hooks).announceTrace { a.frame with suspended } event) y
      with ⟨o, y'⟩
    cases o <;> rfl
  · rfl

/-- An announcement that does not end the frame. -/
theorem signal (hooks : Hooks) (event : TraceEvent) (suspended : Bool)
    (goes : event ≠ .ret ∨ suspended = true) :
    Together (fun _ => False) (Alongside (Beside registry c))
      (Machine.signal (Hooked.host hooks true) event suspended)
      (Machine.signal (Hooked.host hooks false) event suspended)
      fun _ => Alongside (Beside registry c) := by
  rintro a x _ y ⟨⟨on, rfl⟩, beside⟩
  have lit : a.frame.linesOn = true := beside.lit
  have goes : ¬ closes { a.frame with suspended } event := by
    rintro ⟨rfl, running⟩
    rcases goes with other | rfl
    · exact other rfl
    · exact running rfl
  obtain ⟨told, x', y', left, right, agree, takes⟩ :=
    tell beside hooks { a.frame with suspended } rfl lit event
  have left : announced hooks { a.frame with suspended } event x = _ := left
  have right : announced hooks { (withLines on a).frame with suspended } event y = _ := right
  rw [out_signal_announced, out_signal_announced, left, right]
  right
  cases answered : told.answer with
  | ok mutes =>
    refine ⟨rfl, ⟨on && !mutes, rfl⟩, goesOn beside agree takes rfl goes rfl ?_⟩
    show (on && !mutes) = false ↔ on = false ∨ told.answer = .ok true
    rw [answered]
    cases on <;> cases mutes <;> simp
  | error e =>
    refine ⟨rfl, ⟨on, rfl⟩, goesOn beside agree takes rfl goes lit ?_⟩
    show on = false ↔ on = false ∨ told.answer = .ok true
    rw [answered]
    simp

/-- The last announcement of a frame. -/
theorem signal_last (hooks : Hooks) :
    Together (fun _ => False) (Alongside (Beside registry c))
      (Machine.signal (Hooked.host hooks true) .ret false)
      (Machine.signal (Hooked.host hooks false) .ret false)
      fun _ _ x _ y => Agree registry c x y := by
  rintro a x _ y ⟨⟨on, rfl⟩, beside⟩
  have lit : a.frame.linesOn = true := beside.lit
  obtain ⟨told, x', y', left, right, agree, -⟩ :=
    tell beside hooks { a.frame with suspended := false } rfl lit .ret
  have left : announced hooks { a.frame with suspended := false } .ret x = _ := left
  have right : announced hooks { (withLines on a).frame with suspended := false } .ret y = _ := right
  rw [out_signal_announced, out_signal_announced, left, right]
  cases told.answer <;> exact .inr ⟨rfl, agree⟩

/-- Monitoring events are nobody's business. -/
theorem notify (hooks : Hooks) (kind : EventKind)
    {P : Activation → Hooked → Activation → Hooked → Prop}
    (agree : ∀ {a x b y}, P a x b y → Agree registry c x y) :
    Together (fun _ => False) P (Machine.notify (Hooked.host hooks true) kind)
      (Machine.notify (Hooked.host hooks false) kind) fun _ => P := by
  intro a x b y h
  have left : answer ((Hooked.host hooks true).monitor _) x = _ :=
    Hooked.announceEvent hooks (agree h).hushed ⟨kind, a.frame.block, a.frame.offset, a.frame.line⟩
  have right : answer ((Hooked.host hooks false).monitor _) y = _ :=
    Hooked.announceEvent hooks (agree h).silent ⟨kind, b.frame.block, b.frame.offset, b.frame.line⟩
  rw [out_notify left, out_notify right]
  exact .inr ⟨rfl, h⟩

theorem of_alongside {a b : Activation} (h : Alongside (Beside registry c) a x b y) :
    Agree registry c x y := h.2.agree

theorem startLine (hooks : Hooks) :
    Together (fun _ => False) (Alongside (Beside registry c))
      (Machine.startLine (Hooked.host hooks true)) (Machine.startLine (Hooked.host hooks false))
      fun _ => Alongside (Beside registry c) :=
  (signal hooks .line false (.inl (by decide))).bind (fun _ => notify hooks .line of_alongside)
    (fun _ _ _ _ _ h => h) fun _ _ _ => id

/-- How the machines belong together. -/
def bond (registry : RegistryId) : Bond Around Hooked Hooked where
  Lost _ := False
  Out := Agree registry
  Idle := Beside registry
  Run := Beside registry

/-- A frame that is entered runs. -/
theorem enterFrame (hooks : Hooks) :
    Together (fun _ => False) (Alongside (Beside registry c))
      (Machine.enterFrame (Hooked.host hooks true)) (Machine.enterFrame (Hooked.host hooks false))
      ((bond registry).Running c) := by
  refine (signal hooks .call false (.inl (by decide))).bind (fun _ => ?_)
    (fun _ _ _ _ _ h => of_alongside h) fun _ _ _ => id
  refine Together.reading ?_
  rintro a x _ y ⟨⟨on, rfl⟩, beside⟩
  have same : (withLines on a).started = a.started := rfl
  simp only [same]
  right
  split
  · exact ⟨rfl, ⟨on, rfl⟩, beside⟩
  · have left := Hooked.announceEvent hooks beside.agree.hushed
      ⟨.start, a.frame.block, 0, a.frame.block.firstLine⟩
    have right := Hooked.announceEvent hooks beside.agree.silent
      ⟨.start, a.frame.block, 0, a.frame.block.firstLine⟩
    have left : answer ((Hooked.host hooks true).monitor _) x = _ := left
    have right : answer ((Hooked.host hooks false).monitor _) y = _ := right
    rw [Act.out_bind, Act.out_bind, Act.out_set, Act.out_set]
    simp only
    rw [Act.out_lift, Act.out_lift, left]
    have block : (withLines on a).frame.block = a.frame.block := rfl
    rw [block, right]
    exact ⟨rfl, ⟨on, rfl⟩, beside⟩

/-- A frame that gives control back waits, or is gone. -/
theorem depart (hooks : Hooks) (flow : Flow) :
    Together (fun _ => False) (Alongside (Beside registry c))
      (Machine.depart (Hooked.host hooks true) flow) (Machine.depart (Hooked.host hooks false) flow)
      fun o => (bond registry).Back c (o.map fun _ => flow) := by
  cases flow with
  | yielded =>
    have last : Together (fun _ => False) (Alongside (Beside registry c))
        (Machine.depart (Hooked.host hooks true) .yielded)
        (Machine.depart (Hooked.host hooks false) .yielded) fun _ => Alongside (Beside registry c) :=
      (signal hooks .ret true (.inr rfl)).bind (fun _ => notify hooks .yield of_alongside)
        (fun _ _ _ _ _ h => h) fun _ _ _ => id
    intro a x b y h
    refine (last a x b y h).imp_right fun ⟨same, beside⟩ => ⟨same, ?_⟩
    generalize ((Machine.depart (Hooked.host hooks true) .yielded).out a x).1.1 = o
    cases o with
    | ok _ => exact beside
    | error _ => exact of_alongside beside
  | returned =>
    have last : Together (fun _ => False) (Alongside (Beside registry c))
        (Machine.depart (Hooked.host hooks true) .returned)
        (Machine.depart (Hooked.host hooks false) .returned) fun _ _ x _ y => Agree registry c x y :=
      (signal_last hooks).bind (fun _ => notify hooks .ret id) (fun _ _ _ _ _ h => h)
        fun _ _ _ => id
    intro a x b y h
    refine (last a x b y h).imp_right fun ⟨same, agree⟩ => ⟨same, ?_⟩
    generalize ((Machine.depart (Hooked.host hooks true) .returned).out a x).1.1 = o
    cases o <;> exact agree

/-- A frame that is unwound is gone. -/
theorem unwind (hooks : Hooks) (e : ExecError) :
    Together (fun _ => False) (Alongside (Beside registry c))
      (Machine.unwind (Hooked.host hooks true) e) (Machine.unwind (Hooked.host hooks false) e)
      ((bond registry).Running c) := by
  have ends : Together (fun _ => False) (fun _ x _ y => Agree registry c x y)
      (throw e : Act Hooked Flow) (throw e) ((bond registry).Running c) :=
    Together.failed fun _ _ _ _ h => h
  refine (signal hooks .exception false (.inl (by decide))).bind (fun _ => ?_)
    (fun _ _ _ _ _ h => of_alongside h) fun _ _ _ => id
  refine (notify hooks .raise of_alongside).bind (fun _ => ?_) (fun _ _ _ _ _ h => of_alongside h)
    fun _ _ _ => id
  refine (signal_last hooks).bind (fun _ => ?_) (fun _ _ _ _ _ h => h) fun _ _ _ => id
  exact (notify hooks .unwind id).bind (fun _ => ends) (fun _ _ _ _ _ h => h) fun _ _ _ => id

/-! ## Scopes -/

/-- Others are on, and nothing else changed. -/
theorem recrew (h : Agree registry c x y) (c' : Around) (waits : c'.waits = c.waits)
    (led : c'.toCrew.Led) {e : Engine} {inner : Option ScriptId}
    (relaying : Relaying registry inner c'.toCrew { x with engine := e })
    (slot : y.engine.traceHook? = inner.map .script)
    (bare : (e.scene registry).bare = (x.engine.scene registry).bare)
    (muted : (e.dispatchOf registry).muted = (x.engine.dispatchOf registry).muted) :
    Agree registry c' { x with engine := e } y := by
  have frames : e.frames = x.engine.frames := by
    have same := congrArg Scene.frames bare
    exact same
  refine ⟨led, ⟨inner, relaying, slot⟩, h.silent, bare.trans h.scene, h.visits, ?_, ?_⟩
  · rw [muted, frames]
    exact h.young
  · rw [muted, frames, waits]
    exact h.waiting

/-- Others are on while the frame is the same. -/
theorem recrewed (h : Beside registry c f x y) (c' : Around) (waits : c'.waits = c.waits)
    {e : Engine} (agree : Agree registry c' { x with engine := e } y)
    (bare : (e.scene registry).bare = (x.engine.scene registry).bare)
    (muted : (e.dispatchOf registry).muted = (x.engine.dispatchOf registry).muted) :
    Beside registry c' f { x with engine := e } y := by
  have frames : e.frames = x.engine.frames := by
    have same := congrArg Scene.frames bare
    exact same
  refine ⟨agree, h.lit, ?_, ?_, ?_⟩
  · rw [waits]
    exact h.free
  · rw [frames]
    exact h.young
  · rw [muted]
    exact h.muted

/-- The scope of a routine is entered where profilers are on. -/
theorem enter (h : Beside registry c f x y) (hooks : Hooks) (routine : RoutineId) :
    ∃ x', answer ((Hooked.host hooks true).enter routine) x = (.ok (), x') ∧
      Beside registry (c.inside routine) f x' y := by
  obtain ⟨inner, relaying, slot⟩ := h.agree.slot
  obtain ⟨e, entered, relaying', scene, muted⟩ := relaying.enter h.agree.led hooks routine
  have bare : (e.scene registry).bare = (x.engine.scene registry).bare := by
    rw [scene, Scene.bare_enterScope]
  have agree : Agree registry (c.inside routine) { x with engine := e } y :=
    h.agree.recrew (c.inside routine) rfl (h.agree.led.within routine) relaying' slot bare muted
  exact ⟨_, entered, recrewed h (c.inside routine) rfl agree bare muted⟩

/-- The scope of a routine is left where profilers are on. -/
theorem leave {routine : RoutineId} (h : Agree registry (c.inside routine) x y)
    (led : c.toCrew.Led) (hooks : Hooks) :
    ∃ e, ((Hooked.host hooks true).leave routine x).2 = { x with engine := e } ∧
      Agree registry c { x with engine := e } y ∧
      (e.scene registry).bare = (x.engine.scene registry).bare ∧
      (e.dispatchOf registry).muted = (x.engine.dispatchOf registry).muted := by
  obtain ⟨inner, relaying, slot⟩ := h.slot
  obtain ⟨e, left, relaying', scene, muted⟩ := Relaying.leave relaying led hooks
  have bare : (e.scene registry).bare = (x.engine.scene registry).bare := by
    rw [scene, Scene.bare_leaveScope]
  exact ⟨e, left, h.recrew c rfl led relaying' slot bare muted, bare, muted⟩

/-! ## The machine -/

/-- A new frame is beside both machines. -/
theorem newFrame (h : Agree registry c x y) (hooks : Hooks) (block : Block) :
    ((Hooked.host hooks true).newFrame x).1 = ((Hooked.host hooks false).newFrame y).1 ∧
      Beside registry c ⟨((Hooked.host hooks true).newFrame x).1, block, true, true⟩
        ((Hooked.host hooks true).newFrame x).2 ((Hooked.host hooks false).newFrame y).2 := by
  have agree := h.passing x.engine.clock (Nat.le_succ x.engine.frames)
  rw [Hooked.host_newFrame, Hooked.host_newFrame, ← h.clock, ← h.frames]
  refine ⟨rfl, agree, rfl, ?_, Nat.lt_succ_self _, ?_⟩
  · show c.waits x.engine.frames = none
    cases there : c.waits x.engine.frames with
    | none => rfl
    | some linesOn => exact absurd (h.waiting _ _ there).1 (Nat.lt_irrefl _)
  · exact ⟨fun mem => absurd (h.young _ mem) (Nat.lt_irrefl _), fun h => (by cases h)⟩

/-- Work takes the same time on both machines. -/
theorem work (h : Beside registry c f x y) (hooks : Hooks) (n : UInt8) :
    Beside registry c f ((Hooked.host hooks true).work n x).2
      ((Hooked.host hooks false).work n y).2 := by
  rw [Hooked.host_work, Hooked.host_work, ← h.agree.clock, ← h.agree.frames]
  exact later h _

/-- **The machine does the same on both**: hooks are told the same, whether profilers took the trace
slot over or not. -/
theorem simulation (registry : RegistryId) (hooks : Hooks) :
    Simulation (bond registry) (Hooked.host hooks true) (Hooked.host hooks false) where
  keeps := Keeps.never _
  code _ _ _ routine agree := agree.codeOf routine
  newFrame _ _ _ block agree := agree.newFrame hooks block
  rest _ _ _ _ beside := beside.agree
  enter c f x y routine beside := by
    have led := beside.agree.led
    obtain ⟨x', entered, beside'⟩ := enter beside hooks routine
    have entered' : answer ((Hooked.host hooks false).enter routine) y = (.ok (), y) := rfl
    rw [entered, entered']
    refine .inr ⟨c.inside routine, beside', fun g x y beside => ?_, fun x y agree => ?_⟩
    · obtain ⟨e, left, agree, bare, muted⟩ := leave beside.agree led hooks
      rw [left]
      exact recrewed beside c rfl agree bare muted
    · obtain ⟨e, left, agree', -⟩ := leave agree led hooks
      rw [left]
      exact agree'
  enterFrame _ := enterFrame hooks
  startLine _ := startLine hooks
  work _ _ _ _ n beside := work beside hooks n
  call c f x y beside :=
    ⟨c.park f.id f.right, park beside, fun _ _ agree => unpark agree beside.lit beside.free⟩
  depart _ flow := depart hooks flow
  unwind _ e := unwind hooks e

end Agree

end LineClock

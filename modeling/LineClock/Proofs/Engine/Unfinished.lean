import LineClock.Proofs.Engine.Heeding
import LineClock.Proofs.Machine.Journal
import Mathlib.Data.Finset.Card
import Mathlib.Data.Finset.Filter

/-!
# Muted frames that are not finished

A film is kept beside a run: every state between two events, with the trace events that were
announced until then. It tells which frames are not finished. As long as hooks do not fail, the frames
that are muted on a thread are such frames, but for strays: the profilers mute a frame after its last event
too, if the hook that is told of it leaves its line events off, and on a thread they do not hear of a
frame that is finished on another one.

Main statements: `Scripts.film_atop`, `Minds.reacts` and `Filmed.custody`.
-/

namespace LineClock

open Machine Engine

/-! ## Films -/

/-- A trace event, and the thread on which it was announced. -/
structure Cue where
  thread : ThreadKey
  frame : Frame
  event : TraceEvent
  deriving DecidableEq, Repr

/-- The last event of a frame. -/
abbrev Cue.Last (a : Cue) : Prop := closes a.frame a.event

/-- A moment between two events: the state, and what was announced before, the last of it first. -/
structure Shot (σ : Type) where
  state : σ
  announced : List Cue := []

/-- The moment that a run has come to, and those before, the last of them first. -/
structure Film (σ : Type) where
  now : Shot σ
  past : List (Shot σ) := []

namespace Film

variable {σ α : Type}

/-- All moments of a run, the last first. -/
def shots (x : Film σ) : List (Shot σ) := x.now :: x.past

/-- The film goes on with a state. -/
def push (x : Film σ) (announced : List Cue) (y : σ) : Film σ where
  now := ⟨y, announced ++ x.now.announced⟩
  past := x.shots

/-- Act on the state. -/
def take (act : StateM σ α) (announced : σ → List Cue) : StateM (Film σ) α := fun x =>
  ((act x.now.state).1, x.push (announced x.now.state) (act x.now.state).2)

end Film

namespace Scripts

variable {σ : Type} (s : Scripts σ)

/-- Scripts whose doings are filmed. -/
def filmed : Scripts (Film σ) where
  engine x := s.engine x.now.state
  withEngine x e := x.push [] (s.withEngine x.now.state e)
  trace id frame event := ExceptT.mk (Film.take (s.trace id frame event).run fun _ => [])
  monitor id event := ExceptT.mk (Film.take (s.monitor id event).run fun _ => [])

/-- The machine's surroundings, filmed from one event to the next. -/
def film : Host (Film σ) where
  code x routine := s.host.code x.now.state routine
  newFrame := Film.take s.host.newFrame fun _ => []
  work n := Film.take (s.host.work n) fun _ => []
  trace frame event := ExceptT.mk (Film.take (s.host.trace frame event).run
    fun x => [⟨(s.engine x).thread, frame, event⟩])
  monitor event := ExceptT.mk (Film.take (s.host.monitor event).run fun _ => [])
  enter routine := ExceptT.mk (Film.take (s.host.enter routine).run fun _ => [])
  leave routine := Film.take (s.host.leave routine) fun _ => []

/-- A film is kept beside the state. -/
theorem film_atop : Atop (fun x : Film σ => x.now.state) s.film s.host where
  code _ _ := rfl
  newFrame _ := rfl
  work _ _ := rfl
  trace _ _ _ := rfl
  monitor _ _ := rfl
  enter _ _ := rfl
  leave _ _ := rfl

end Scripts

/-! ## What was announced of a frame -/

/-- The frames that were announced and whose last event was not. -/
def unfinished (announced : List Cue) : Finset FrameId :=
  (announced.map fun a => a.frame.id).toFinset.filter
    fun id => ∀ a ∈ announced, a.frame.id = id → ¬ a.Last

/-- The last event of a frame was announced on a thread. -/
def FinishedOn (announced : List Cue) (th : ThreadKey) (id : FrameId) : Prop :=
  ∃ a ∈ announced, a.thread = th ∧ a.frame.id = id ∧ a.Last

/-- A hook that was told on a thread of the last event of a frame left its line events off. -/
def LeftOff (hooks : Meddlers) (notes : List Note) (th : ThreadKey) (id : FrameId) : Prop :=
  ∃ visit earlier, .told th visit :: earlier <:+ notes ∧ visit.frame.id = id ∧
    closes visit.frame visit.event ∧ (hooks earlier visit).lines.getD visit.frame.linesOn = false

/-- How it comes that a frame that is finished is muted on a thread: it was finished on another
thread, or its line events were left off at its end. -/
inductive Stray (hooks : Meddlers) (m : Shot Meddled) (th : ThreadKey) (id : FrameId) : Prop where
  | elsewhere (w : ThreadKey) (other : w ≠ th) (there : FinishedOn m.announced w id)
  | leftOff (off : LeftOff hooks m.state.notes th id)

/-- A frame that is muted on a thread is not finished, or it is a stray. -/
def Excused (hooks : Meddlers) (m : Shot Meddled) (th : ThreadKey) (id : FrameId) : Prop :=
  id ∈ unfinished m.announced ∨ Stray hooks m th id

theorem mem_unfinished {announced : List Cue} {id : FrameId} :
    id ∈ unfinished announced ↔
      (∃ a ∈ announced, a.frame.id = id) ∧ ∀ a ∈ announced, a.frame.id = id → ¬ a.Last := by
  unfold unfinished
  rw [Finset.mem_filter, List.mem_toFinset, List.mem_map]

namespace Excused

variable {hooks : Meddlers} {m : Shot Meddled} {y : Meddled} {th : ThreadKey} {id : FrameId}

/-- More is noted. -/
theorem later (h : Excused hooks m th id) (notes : m.state.notes <:+ y.notes) :
    Excused hooks ⟨y, m.announced⟩ th id := by
  rcases h with open_ | ⟨w, other, there⟩ | ⟨visit, earlier, told, rest⟩
  · exact .inl open_
  · exact .inr (.elsewhere w other there)
  · exact .inr (.leftOff ⟨visit, earlier, told.trans notes, rest⟩)

/-- More is announced: another frame, or not its last event, or the last event on another thread. -/
theorem announced (h : Excused hooks m th id) (notes : m.state.notes <:+ y.notes) {a : Cue}
    (apart : a.frame.id = id → a.Last → a.thread ≠ th) :
    Excused hooks ⟨y, a :: m.announced⟩ th id := by
  rcases h.later notes with open_ | ⟨w, other, b, mem, rest⟩ | off
  · by_cases ends : a.frame.id = id ∧ a.Last
    · exact .inr (.elsewhere a.thread (apart ends.1 ends.2) ⟨a, List.mem_cons_self, rfl, ends⟩)
    · obtain ⟨⟨b, mem, same⟩, never⟩ := mem_unfinished.mp open_
      refine .inl (mem_unfinished.mpr ⟨⟨b, List.mem_cons_of_mem _ mem, same⟩, fun b mem => ?_⟩)
      rcases List.mem_cons.mp mem with rfl | mem
      · exact fun same last => ends ⟨same, last⟩
      · exact never b mem
  · exact .inr (.elsewhere w other ⟨b, List.mem_cons_of_mem _ mem, rest⟩)
  · exact .inr (.leftOff off)

end Excused

/-! ## Muted frames of a thread -/

section

variable {registry : RegistryId} {d d' : Dispatch} {slot slot' : Option TraceHook} {e e' : Engine}

/-- Frames are muted once, and only where the profilers listen and their own hook is in the slot. -/
structure Neat (d : Dispatch) (slot : Option TraceHook) : Prop where
  once : d.muted.Nodup
  stands : d.muted = [] ∨ d.activated = true ∧ slot = d.ours

/-- Nobody is muted, or the same frames are that were before, and the profilers listen as they did. -/
def Spared (d d' : Dispatch) : Prop :=
  d'.muted = [] ∨ d'.muted = d.muted ∧ d'.activated = d.activated

theorem Spared.trans {d'' : Dispatch} (h : Spared d d') (h' : Spared d' d'') : Spared d d'' := by
  rcases h' with none | ⟨same', on'⟩
  · exact .inl none
  · rcases h with none | ⟨same, on⟩
    · exact .inl (same'.trans none)
    · exact .inr ⟨same'.trans same, on'.trans on⟩

/-- Where frames are muted, they were before. -/
theorem Spared.mem (h : Spared d d') {id : FrameId} (muted : id ∈ d'.muted) : id ∈ d.muted := by
  rcases h with none | ⟨same, -⟩
  · rw [none] at muted
    cases muted
  · rwa [← same]

theorem Spared.nodup (h : Spared d d') (once : d.muted.Nodup) : d'.muted.Nodup := by
  rcases h with none | ⟨same, -⟩
  · rw [none]
    exact .nil
  · rwa [same]

/-- Somebody else's hook is in the slot, or none: nobody is muted. -/
theorem Neat.nobody (neat : Neat d slot) (foreign : Foreign slot)
    (ours : d.activated = true → ∃ serial, d.ours = some (.profiler registry serial)) :
    d.muted = [] := by
  rcases neat.stands with none | ⟨on, same⟩
  · exact none
  · obtain ⟨id, script⟩ := foreign
    obtain ⟨serial, mine⟩ := ours on
    rw [script, mine] at same
    cases id <;> cases same

theorem Neat.empty (none : d.muted = []) : Neat d slot := ⟨none ▸ .nil, .inl none⟩

/-- Switching profilers keeps the muted frames, or forgets them. -/
theorem Shifts.spared (h : Shifts registry d slot d' slot') : Spared d d' := by
  cases h with
  | same => exact .inr ⟨rfl, rfl⟩
  | counts => exact .inr ⟨rfl, rfl⟩
  | starts => exact .inl rfl
  | stops => exact .inl rfl

theorem Shifts.neat (h : Shifts registry d slot d' slot') (neat : Neat d slot) : Neat d' slot' := by
  cases h with
  | same => exact neat
  | counts => exact ⟨neat.once, neat.stands⟩
  | starts => exact .empty rfl
  | stops => exact .empty rfl

/-- Somebody is on where the profilers listen, whatever is switched. -/
theorem Shifts.balanced (h : Shifts registry d slot d' slot') (balanced : d.activated = d.isActive) :
    d'.activated = d'.isActive := by
  cases h with
  | same => exact balanced
  | counts on listening somebody =>
    exact listening.trans (Dispatch.isActive_iff_ne_nil.mpr somebody).symm
  | starts on serial off somebody => exact (Dispatch.isActive_iff_ne_nil.mpr somebody).symm
  | stops => rfl

/-- An event is recorded. -/
theorem Neat.cleared (neat : Neat d slot) (frame : Frame) (event : TraceEvent) :
    Neat (Engine.cleared frame event d) slot := by
  have same := cleared_eq frame event d
  constructor
  · unfold Engine.cleared Dispatch.unmute
    split
    · exact neat.once.filter _
    · exact neat.once
  · refine neat.stands.imp (fun none => ?_) fun stands => ?_
    · refine List.eq_nil_iff_forall_not_mem.mpr fun id mem => ?_
      have mem := ((mem_cleared frame event d id).mp mem).1
      rw [none] at mem
      cases mem
    · rw [same]
      exact stands

/-- A frame is muted once. -/
theorem nodup_answered (once : d.muted.Nodup) (inner : Option TraceHook) (wanted : Bool) (id : FrameId) :
    (answered d inner wanted id).muted.Nodup := by
  unfold answered Dispatch.mute
  simp only
  split
  · exact once
  · split
    · exact once
    · rename_i new
      exact List.nodup_cons.mpr ⟨fun mem => new (List.contains_iff_mem.mpr mem), once⟩

end

/-! ## Hooks that are called -/

section

variable {registry : RegistryId} {hooks : Meddlers} {x : Meddled}

/-- What a hook does while it is called spares the muted frames. -/
theorem deed_spares (backend : (x.engine.registry registry).backend = .slot)
    (balanced : (x.engine.dispatchOf registry).activated = (x.engine.dispatchOf registry).isActive)
    (m : Meddle) :
    ∃ d slot, Alters registry x.engine (x.deed registry m).engine d slot ∧
      Spared (x.engine.dispatchOf registry) d ∧ d.activated = d.isActive := by
  have switched : ∀ {e}, SlotWraps.Turns registry x.engine e → ∃ d slot,
      Alters registry x.engine e d slot ∧ Spared (x.engine.dispatchOf registry) d ∧
        d.activated = d.isActive := by
    intro e turns
    obtain ⟨d, slot, alters, shifts⟩ := Alters.turns turns
    exact ⟨d, slot, alters, shifts.spared, shifts.balanced balanced⟩
  cases m with
  | put hook =>
    refine ⟨_, hook.map .script, ?_, .inr ⟨rfl, rfl⟩, balanced⟩
    show Alters registry x.engine ((setTraceHook (hook.map .script)).run x.engine).2 _ _
    rw [run_setTraceHook]
    exact .withHook registry x.engine _
  | enable p => exact switched (.enable backend balanced p)
  | disable p => exact switched (.disable backend balanced p)

/-- A hook that is called spares the muted frames, and it is noted that it was told. -/
theorem called_spares (backend : (x.engine.registry registry).backend = .slot)
    (balanced : (x.engine.dispatchOf registry).activated = (x.engine.dispatchOf registry).isActive)
    (hooks : Meddlers) (visit : Visit) :
    ∃ d slot, Alters registry x.engine (x.called registry hooks visit).engine d slot ∧
      Spared (x.engine.dispatchOf registry) d ∧
      .told x.engine.thread visit :: x.notes <:+ (x.called registry hooks visit).notes := by
  have all : ∀ (deeds : List Meddle) (y : Meddled),
      (y.engine.registry registry).backend = .slot →
      (y.engine.dispatchOf registry).activated = (y.engine.dispatchOf registry).isActive →
      ∃ d slot, Alters registry y.engine (deeds.foldl (Meddled.deed registry) y).engine d slot ∧
        Spared (y.engine.dispatchOf registry) d ∧
        y.notes <:+ (deeds.foldl (Meddled.deed registry) y).notes := by
    intro deeds
    induction deeds with
    | nil => exact fun y _ _ => ⟨_, _, .refl registry y.engine, .inr ⟨rfl, rfl⟩, List.suffix_refl _⟩
    | cons m rest ih =>
      intro y backend balanced
      obtain ⟨d, slot, alters, spared, balanced'⟩ := deed_spares backend balanced m
      have backend' : ((y.deed registry m).engine.registry registry).backend = .slot :=
        (backend_congr alters.registries registry).trans backend
      obtain ⟨d', slot', alters', spared', notes⟩ :=
        ih (y.deed registry m) backend' (by rwa [alters.dispatchOf])
      rw [alters.dispatchOf] at spared'
      exact ⟨d', slot', alters.trans alters', spared.trans spared',
        (List.suffix_append _ y.notes).trans notes⟩
  exact all _ { x with notes := .told x.engine.thread visit :: x.notes } backend balanced

end

/-! ## Events -/

/-- What an event of a frame leaves of the muted frames of the thread that runs: those that were muted
before, but for a frame that is finished, and the frame, if it is not finished or its line events were
left off at its end. -/
structure Reacts (registry : RegistryId) (hooks : Meddlers) (frame : Frame) (event : TraceEvent)
    (x x' : Meddled) (d : Dispatch) (slot : Option TraceHook) : Prop where
  alters : Alters registry x.engine x'.engine d slot
  notes : x.notes <:+ x'.notes
  neat : Neat d slot
  muted : ∀ id ∈ d.muted,
    (id ∈ (x.engine.dispatchOf registry).muted ∧ ¬ (closes frame event ∧ id = frame.id)) ∨
      (id = frame.id ∧ (closes frame event → LeftOff hooks x'.notes x.engine.thread id))

namespace Minds

variable {registry : RegistryId} {hooks : Meddlers} {c : Flags} {x : Meddled} {frame : Frame}
  {event : TraceEvent}

/-- The machine tells a hook, and nobody is muted. -/
theorem reacts_script (h : Minds registry none c x)
    (calm : ∀ notes visit, (hooks notes visit).error = none)
    (neat : Neat (x.engine.dispatchOf registry) x.engine.traceHook?) {hook : ScriptId}
    (slot : x.engine.traceHook? = some (.script hook)) :
    ∃ d slot, Reacts registry hooks frame event x
      (answer ((Meddled.scripts registry hooks).announceTrace frame event) x).2 d slot := by
  let visit : Visit := ⟨hook, frame, event⟩
  have nobody : (x.engine.dispatchOf registry).muted = [] :=
    neat.nobody ⟨some hook, slot⟩ fun on => (h.here.on on).ours
  obtain ⟨d, slot', alters, spared, told⟩ := called_spares h.backend h.here.balanced hooks visit
  have none : d.muted = [] := spared.elim id fun same => same.1.trans nobody
  rw [Minds.announceTrace_script hooks slot]
  unfold Meddled.invoke
  simp only [calm]
  refine ⟨d, slot', alters, ?_, .empty none, fun id mem => ?_⟩
  · exact (List.suffix_cons _ _).trans (told.trans (List.suffix_append _ _))
  · rw [none] at mem
    cases mem

/-- **An event reaches the profilers**: it ends the muting of the frame that it finishes, and a hook
that is called for it and wants no lines of the frame has it muted. -/
theorem reacts_profiler (h : Minds registry none c x)
    (calm : ∀ notes visit, (hooks notes visit).error = none)
    (neat : Neat (x.engine.dispatchOf registry) x.engine.traceHook?)
    (there : c frame.id = some frame.linesOn) (lit : event = .line → frame.linesOn = true)
    {serial : Nat} (slot : x.engine.traceHook? = some (.profiler registry serial)) :
    ∃ d slot, Reacts registry hooks frame event x
      (answer ((Meddled.scripts registry hooks).announceTrace frame event) x).2 d slot := by
  have cleared := neat.cleared frame event
  rcases h.asked hooks there lit slot with kept | ⟨hook, passing, called, -, passed⟩
  · rw [kept]
    refine ⟨_, _, .heard registry x.engine frame event, List.suffix_append _ _, cleared, fun id mem => ?_⟩
    exact .inl ((mem_cleared frame event _ id).mp mem)
  · let y := x.moveTo registry (Hooked.passing registry x.engine frame event)
    let visit : Visit := ⟨hook, frame, event⟩
    let m := hooks y.notes visit
    let z := y.called registry hooks visit
    have alters := alters_passing registry x.engine frame event
    obtain ⟨d, _, alters', spared, told⟩ :=
      called_spares passing.backend passing.here.balanced hooks visit
    have spared : Spared ((Hooked.passing registry x.engine frame event).dispatchOf registry) d := spared
    rw [alters.dispatchOf] at spared
    -- the hook has answered, and the profilers take the answer
    obtain ⟨linesOn, e, d', slot', absorbed, alters'', takes⟩ :=
      called.absorbs hooks frame (m.lines.getD frame.linesOn)
        (m.remarks frame z.engine.thread (z.engine.dispatchOf registry) ++ z.notes)
    rw [alters'.dispatchOf] at takes
    have after : (answer ((Meddled.scripts registry hooks).announceTrace frame event) x).2 =
        ⟨e, m.remarks frame z.engine.thread (z.engine.dispatchOf registry) ++ z.notes⟩ := by
      rw [passed]
      unfold Meddled.invoke
      simp only [calm]
      rw [absorbed]
    rw [after]
    have notes : .told x.engine.thread visit :: y.notes <:+
        m.remarks frame z.engine.thread (z.engine.dispatchOf registry) ++ z.notes := by
      rw [← alters.thread]
      exact told.trans (List.suffix_append _ _)
    have once : d.muted.Nodup := spared.nodup cleared.once
    refine ⟨d', slot', (alters.trans alters').trans alters'',
      (List.suffix_append _ x.notes).trans ((List.suffix_cons _ _).trans notes), ?_, fun id mem => ?_⟩
    · cases takes with
      | left off =>
        refine .empty (spared.elim id fun same => ?_)
        have on : d.activated = true := same.2.trans (by rw [cleared_eq]; exact h.listening slot)
        rw [off] at on
        cases on
      | taken on foreign =>
        refine ⟨nodup_answered once _ _ _, .inr ?_⟩
        rw [answered_eq]
        exact ⟨on, rfl⟩
    · have before : id ∈ d.muted → id ∈ (x.engine.dispatchOf registry).muted ∧
          ¬ (closes frame event ∧ id = frame.id) := fun mem =>
        (mem_cleared frame event _ id).mp (spared.mem mem)
      cases takes with
      | left off => exact .inl (before mem)
      | taken on foreign =>
        rcases (mem_answered _ _ _ _ _).mp mem with mem | ⟨unwanted, rfl⟩
        · exact .inl (before mem)
        · exact .inr ⟨rfl, fun ends => ⟨visit, y.notes, notes, rfl, ends, unwanted⟩⟩

/-- **What an event leaves** of the muted frames, where hooks do not fail. -/
theorem reacts (h : Minds registry none c x)
    (calm : ∀ notes visit, (hooks notes visit).error = none)
    (neat : Neat (x.engine.dispatchOf registry) x.engine.traceHook?)
    (there : c frame.id = some frame.linesOn) (lit : event = .line → frame.linesOn = true) :
    ∃ d slot, Reacts registry hooks frame event x
      (answer ((Meddled.scripts registry hooks).announceTrace frame event) x).2 d slot := by
  rcases h.someone with ⟨hook, slot⟩ | ⟨serial, slot⟩
  · cases hook with
    | none =>
      have nobody : (x.engine.dispatchOf registry).muted = [] :=
        neat.nobody ⟨none, slot⟩ fun on => (h.here.on on).ours
      have slot : ((Meddled.scripts registry hooks).engine x).traceHook? = none := slot
      rw [Scripts.answer_announceTrace, slot]
      refine ⟨_, _, .refl registry x.engine, List.suffix_refl _, neat, fun id mem => ?_⟩
      rw [nobody] at mem
      cases mem
    | some hook => exact h.reacts_script calm neat slot
  · exact h.reacts_profiler calm neat there lit slot

end Minds

/-! ## All along a run -/

/-- At a moment every frame is muted at most once on a thread, and is not finished or a stray. -/
def Shot.Sorted (registry : RegistryId) (hooks : Meddlers) (m : Shot Meddled) : Prop :=
  ∀ th, (m.state.engine.dispatchAt th registry).muted.Nodup ∧
    ∀ id ∈ (m.state.engine.dispatchAt th registry).muted, Excused hooks m th id

/-- The film of a run with the frames that are not finished. -/
structure Filmed (registry : RegistryId) (hooks : Meddlers) (c : Flags) (x : Film Meddled) : Prop where
  minds : Minds registry none c x.now.state
  neat : ∀ th, Neat (x.now.state.engine.dispatchAt th registry) (x.now.state.engine.slots.get? th)
  excused : ∀ th, ∀ id ∈ (x.now.state.engine.dispatchAt th registry).muted, Excused hooks x.now th id
  gone : ∀ a ∈ x.now.announced, a.Last →
    c a.frame.id = none ∧ a.frame.id < x.now.state.engine.frames
  past : ∀ m ∈ x.past, m.Sorted registry hooks

namespace Filmed

variable {registry : RegistryId} {hooks : Meddlers} {c c' : Flags} {x : Film Meddled}

theorem sorted (h : Filmed registry hooks c x) : ∀ m ∈ x.shots, m.Sorted registry hooks :=
  List.forall_mem_cons.mpr ⟨fun th => ⟨(h.neat th).once, h.excused th⟩, h.past⟩

/-- The thread that runs. -/
theorem here (h : Filmed registry hooks c x) :
    Neat (x.now.state.engine.dispatchOf registry) x.now.state.engine.traceHook? :=
  h.neat x.now.state.engine.thread

/-- The film goes on where only the running thread changed, and nothing was announced. -/
theorem push (h : Filmed registry hooks c x) {y : Meddled} {d : Dispatch} {slot : Option TraceHook}
    (minds : Minds registry none c' y) (notes : x.now.state.notes <:+ y.notes)
    (dispatch : ∀ th, y.engine.dispatchAt th registry =
      if th = x.now.state.engine.thread then d else x.now.state.engine.dispatchAt th registry)
    (slots : ∀ th, y.engine.slots.get? th =
      if th = x.now.state.engine.thread then slot else x.now.state.engine.slots.get? th)
    (frames : x.now.state.engine.frames ≤ y.engine.frames) (neat : Neat d slot)
    (muted : ∀ id ∈ d.muted, id ∈ (x.now.state.engine.dispatchOf registry).muted)
    (flags : ∀ id, id < x.now.state.engine.frames → c id = none → c' id = none) :
    Filmed registry hooks c' (x.push [] y) := by
  refine ⟨minds, fun th => ?_, fun th id mem => ?_, fun a mem last => ?_, h.sorted⟩
  · show Neat (y.engine.dispatchAt th registry) (y.engine.slots.get? th)
    rw [dispatch, slots]
    split
    · exact neat
    · exact h.neat th
  · replace mem : id ∈ (y.engine.dispatchAt th registry).muted := mem
    rw [dispatch] at mem
    refine Excused.later (m := x.now) ?_ notes
    split at mem
    · rename_i this
      subst this
      exact h.excused _ id (muted id mem)
    · exact h.excused th id mem
  · obtain ⟨none, before⟩ := h.gone a mem last
    exact ⟨flags _ before none, Nat.lt_of_lt_of_le before frames⟩

/-- Profilers are switched. -/
theorem turned (h : Filmed registry hooks c x) {e : Engine}
    (turns : SlotWraps.Turns registry x.now.state.engine e) :
    Filmed registry hooks c (x.push [] (x.now.state.moveTo registry e)) := by
  obtain ⟨d, slot, alters, shifts⟩ := Alters.turns turns
  exact h.push (h.minds.turned turns) (List.suffix_append _ _) alters.dispatch alters.slots
    (Nat.le_of_eq alters.frames.symm) (shifts.neat h.here) (fun _ => shifts.spared.mem)
    fun _ _ none => none

/-- What leaves listening alone. -/
theorem setup (h : Filmed registry hooks c x) {α : Type} {m : StateM Engine α}
    (hm : Setup registry m)
    (minds : Minds registry none c' (x.now.state.moveTo registry (m.run x.now.state.engine).2))
    (flags : ∀ id, id < x.now.state.engine.frames → c id = none → c' id = none) :
    Filmed registry hooks c' (x.push [] (x.now.state.moveTo registry (m.run x.now.state.engine).2)) := by
  have aside := hm.aside _ h.minds.ready
  have keeps := hm.keeps _ h.minds.ready
  refine h.push minds (List.suffix_append _ _) (fun th => ?_) (fun th => ?_) keeps.frames h.here
    (fun _ => id) flags
  · show (m.run x.now.state.engine).2.dispatchAt th registry = _
    rw [aside.dispatchAt]
    split
    · rename_i this
      rw [this]
      rfl
    · rfl
  · show (m.run x.now.state.engine).2.slots.get? th = _
    rw [aside.slots]
    split
    · rename_i this
      rw [this]
      rfl
    · rfl

/-- **An event** of a frame that is not finished. -/
theorem announced (h : Filmed registry hooks c x) {frame : Frame} {event : TraceEvent} {y : Meddled}
    {d : Dispatch} {slot : Option TraceHook} (there : c frame.id = some frame.linesOn)
    (reacts : Reacts registry hooks frame event x.now.state y d slot)
    (minds : Minds registry none c' y) (others : ∀ id, id ≠ frame.id → c' id = c id)
    (ends : closes frame event → c' frame.id = none) :
    Filmed registry hooks c' (x.push [⟨x.now.state.engine.thread, frame, event⟩] y) := by
  let a : Cue := ⟨x.now.state.engine.thread, frame, event⟩
  have frames : y.engine.frames = x.now.state.engine.frames := reacts.alters.frames
  -- the last event of the frame was not announced before
  have never : ∀ b ∈ x.now.announced, b.frame.id = frame.id → ¬ b.Last := by
    intro b mem same last
    have none := (h.gone b mem last).1
    rw [same, there] at none
    cases none
  refine ⟨minds, fun th => ?_, fun th id mem => ?_, fun b mem last => ?_, h.sorted⟩
  · show Neat (y.engine.dispatchAt th registry) (y.engine.slots.get? th)
    rw [reacts.alters.dispatch, reacts.alters.slots]
    split
    · exact reacts.neat
    · exact h.neat th
  · replace mem : id ∈ (y.engine.dispatchAt th registry).muted := mem
    show Excused hooks ⟨y, a :: x.now.announced⟩ th id
    rw [reacts.alters.dispatch] at mem
    split at mem
    · rename_i this
      subst this
      rcases reacts.muted id mem with ⟨before, stays⟩ | ⟨rfl, off⟩
      · exact (h.excused _ id before).announced reacts.notes fun same last =>
          absurd ⟨last, same.symm⟩ stays
      · by_cases last : closes frame event
        · exact .inr (.leftOff (off last))
        · refine .inl (mem_unfinished.mpr ⟨⟨a, List.mem_cons_self, rfl⟩, fun b mem => ?_⟩)
          rcases List.mem_cons.mp mem with rfl | mem
          · exact fun _ => last
          · exact never b mem
    · rename_i other
      exact (h.excused th id mem).announced reacts.notes fun _ _ => Ne.symm other
  · show c' b.frame.id = none ∧ b.frame.id < y.engine.frames
    rw [frames]
    rcases List.mem_cons.mp mem with rfl | mem
    · exact ⟨ends last, h.minds.young _ (Minds.live_of_some there)⟩
    · obtain ⟨none, before⟩ := h.gone b mem last
      have other : b.frame.id ≠ frame.id := fun same => never b mem same last
      exact ⟨(others _ other).trans none, before⟩

-- These equations are for rewriting, so that comparing terms does not open the engine.
theorem film_newFrame (hooks : Meddlers) (x : Film Meddled) :
    (Meddled.scripts registry hooks).film.newFrame x =
      (x.now.state.engine.frames, x.push []
        (x.now.state.moveTo registry (Scripts.quiet.host.newFrame.run x.now.state.engine).2)) := rfl

theorem film_work (hooks : Meddlers) (units : UInt8) (x : Film Meddled) :
    ((Meddled.scripts registry hooks).film.work units x).2 = x.push []
      (x.now.state.moveTo registry ((Scripts.quiet.host.work units).run x.now.state.engine).2) := rfl

theorem film_trace (hooks : Meddlers) (frame : Frame) (event : TraceEvent) (x : Film Meddled) :
    answer ((Meddled.scripts registry hooks).film.trace frame event) x =
      let told := answer ((Meddled.scripts registry hooks).announceTrace frame event) x.now.state
      (told.1, x.push [⟨x.now.state.engine.thread, frame, event⟩] told.2) := rfl

theorem film_monitor (hooks : Meddlers) (event : MonitorEvent) (x : Film Meddled) :
    (answer ((Meddled.scripts registry hooks).film.monitor event) x).2 =
      x.push [] (answer ((Meddled.scripts registry hooks).announceEvent event) x.now.state).2 := rfl

theorem film_enter (hooks : Meddlers) (routine : RoutineId) (x : Film Meddled) :
    (answer ((Meddled.scripts registry hooks).film.enter routine) x).2 = x.push []
      (answer ((Meddled.scripts registry hooks).host.enter routine) x.now.state).2 := rfl

theorem film_leave (hooks : Meddlers) (routine : RoutineId) (x : Film Meddled) :
    ((Meddled.scripts registry hooks).film.leave routine x).2 = x.push []
      ((Meddled.scripts registry hooks).host.leave routine x.now.state).2 := rfl

/-- Fewer frames are live. -/
theorem drop (h : Filmed registry hooks c x) (id : FrameId) : Filmed registry hooks (c.drop id) x := by
  refine ⟨h.minds.drop id, h.neat, h.excused, fun a mem last => ?_, h.past⟩
  obtain ⟨none, before⟩ := h.gone a mem last
  refine ⟨?_, before⟩
  unfold Flags.drop
  rw [none, ite_self]

/-- **Programs** keep the muted frames excused, where hooks do not fail. -/
theorem custody (registry : RegistryId) (calm : ∀ notes visit, (hooks notes visit).error = none) :
    Custody (Meddled.scripts registry hooks).film (Filmed registry hooks) where
  drop h id := h.drop id
  newFrame {c x} h := by
    rw [film_newFrame]
    obtain ⟨free, minds⟩ := h.minds.newFrame
    refine ⟨free, h.setup Setup.newFrame minds fun id before none => ?_⟩
    rw [Flags.put_of_ne (Nat.ne_of_lt before), none]
  work {c x} h units := by
    rw [film_work]
    exact h.setup (Setup.work units) (h.minds.setup (Setup.work units)) fun _ _ none => none
  monitor {c x} h event := by
    rw [film_monitor, h.minds.monitor hooks event]
    have same := h.turned .same
    rw [Minds.moveTo_self] at same
    exact same
  enter {c x} h routine := by
    obtain ⟨e, turns, entered⟩ := h.minds.enters hooks routine
    rw [film_enter, entered]
    exact h.turned turns
  leave {c x} h routine := by
    obtain ⟨e, turns, left⟩ := h.minds.leaves hooks routine
    rw [film_leave, left]
    exact h.turned turns
  trace {c x} h frame event there lit := by
    obtain ⟨d, slot, reacts⟩ := h.minds.reacts calm h.here there lit
    have follows := h.minds.trace hooks there lit
    rw [film_trace]
    rcases told : answer ((Meddled.scripts registry hooks).announceTrace frame event) x.now.state with
      ⟨err | linesOn, y⟩ <;> rw [told] at reacts follows
    · refine h.announced there reacts follows (fun id other => ?_) fun ends => ?_
      · split
        · exact Flags.drop_of_ne other
        · rfl
      · rw [if_pos ends]
        exact Flags.drop_self c frame.id
    · refine h.announced there reacts follows (fun id other => ?_) fun ends => ?_
      · split
        · exact Flags.drop_of_ne other
        · exact Flags.put_of_ne other linesOn
      · rw [if_pos ends]
        exact Flags.drop_self c frame.id

end Filmed

end LineClock

import LineClock.Proofs.Engine.Keeping

/-!
# Events of frames whose lines are kept

What is left of the keeping of lines when a hook was called and has answered, by the machine or by
the profilers that passed an event on to it. From it, what a trace event does to the keeping of lines,
whoever stands in the slot: a hook is told of it by the machine, the profilers keep it to themselves,
or they pass it on and take the answer.

Main statements: `Minds.called`, `Minds.replied`, `Minds.trace` and `Minds.custody`.
-/

namespace LineClock

open Machine Engine

variable {registry : RegistryId}

namespace Post

variable {d : Dispatch} {slot : Option TraceHook}

/-- An event is recorded. -/
theorem cleared (h : Post registry none d slot) (frame : Frame) (event : TraceEvent) :
    Post registry none (Engine.cleared frame event d) slot := by
  have muted : d.muted = [] → (Engine.cleared frame event d).muted = [] := by
    intro none
    unfold Engine.cleared Dispatch.unmute
    split
    · rw [none]
      rfl
    · exact none
  rw [cleared_eq]
  refine ⟨h.busy, h.balanced, h.off, fun on => ?_, fun on => ?_⟩
  · exact ⟨(h.on on).ours, (h.on on).saved, (h.on on).wrapped, (h.on on).slot⟩
  · exact (h.clear on).imp id (Or.imp id muted)

/-- The profilers pass an event on. -/
theorem passes (h : Post registry none d slot) :
    Post registry (some true) { d with busy := true } slot :=
  ⟨rfl, h.balanced, h.off, fun on => ⟨(h.on on).ours, (h.on on).saved, (h.on on).wrapped,
    (h.on on).slot⟩, fun _ => trivial⟩

/-- The profilers take an answer while they do not listen. -/
theorem absorbs_off (h : Post registry (some true) d slot) (off : d.activated = false) :
    Post registry none { d with busy := false } slot := by
  refine ⟨rfl, h.balanced, h.off, fun on => ?_, fun on => ?_⟩ <;>
  · have on : d.activated = true := on
    rw [off] at on
    cases on

/-- The profilers take an answer, and their own hook stands in the slot again. -/
theorem absorbs (h : Post registry (some true) d slot) (on : d.activated = true)
    {inner : Option TraceHook} (foreign : Foreign inner) (linesOn : Bool) (frame : FrameId) :
    Post registry none (answered d inner linesOn frame) d.ours := by
  rw [answered_eq]
  refine ⟨rfl, h.balanced, fun off => ?_, fun _ => ⟨(h.on on).ours, rfl, foreign, .inl rfl⟩,
    fun _ => .inl rfl⟩
  have off : d.activated = false := off
  rw [on] at off
  cases off

/-- The profilers take a failure, and the slot is emptied. -/
theorem fails (h : Post registry (some true) d slot) (on : d.activated = true) :
    Post registry none { d with busy := false, wrapped := none, saved := none } none := by
  refine ⟨rfl, h.balanced, fun _ => ⟨none, rfl⟩, fun _ => ?_, fun _ => .inr (.inl rfl)⟩
  exact ⟨(h.on on).ours, rfl, ⟨none, rfl⟩, .inr ⟨none, rfl⟩⟩

end Post

/-- The answer is taken as it is where the registry does not listen. -/
theorem answer_absorbTrace_off {e : Engine} (frame : Frame)
    (off : (e.dispatchOf registry).activated = false) (out : Except HookError Bool) :
    answer (absorbTrace registry frame out) e =
      (out, e.withDispatch registry { e.dispatchOf registry with busy := false }) := by
  obtain ⟨d, hd⟩ : ∃ d, d = ({ e.dispatchOf registry with busy := false } : Dispatch) := ⟨_, rfl⟩
  have known : (e.withDispatch registry d).dispatchOf registry = d :=
    withDispatch_dispatchOf registry e d
  have off : d.activated = false := by
    rw [hd]
    exact off
  unfold absorbTrace
  rw [answer_liftM_bind (run_modifyDispatch registry e _), ← hd, answer_get_bind, known]
  simp only [off]
  cases out <;> rfl

namespace Minds

variable {passed : Bool} {c c' : Flags} {x y : Meddled} {e : Engine} {d : Dispatch}
  {slot : Option TraceHook} {hooks : Meddlers} {frame : Frame} {event : TraceEvent}

/-! ## Hooks that are called -/

/-- Nothing changed but what hook is running. -/
theorem repost {amid amid' : Option Bool} (h : Minds registry amid c x)
    (post : Post registry amid' (x.engine.dispatchOf registry) x.engine.traceHook?) :
    Minds registry amid' c x := by
  refine h.become (.refl registry x.engine) post (fun _ (mem : _ ∈ ([] : List Note)) => by cases mem)
    (fun _ => id) h.unborn h.frames fun id th live kept => ?_
  by_cases this : th = x.engine.thread
  · subst this
    exact .inr ⟨rfl, h.threads id _ live kept⟩
  · exact .inl ⟨this, kept⟩

/-- A hook does something while it is called. -/
theorem deed (h : Minds registry (some passed) c x) (m : Meddle) :
    Minds registry (some passed) c (x.deed registry m) ∧
      (x.deed registry m).engine.frames = x.engine.frames := by
  have here := h.here
  unfold Meddled.deed
  cases m with
  | put hook =>
    show Minds registry (some passed) c
      (x.moveTo registry ((setTraceHook (hook.map .script)).run x.engine).2) ∧
        ((setTraceHook (hook.map .script)).run x.engine).2.frames = x.engine.frames
    rw [run_setTraceHook]
    refine ⟨?_, rfl⟩
    refine h.moved (.withHook registry x.engine _)
      ⟨here.busy, here.balanced, fun _ => ⟨hook, rfl⟩, fun on => ?_, fun on => ?_⟩ fun _ _ _ _ => id
    · exact ⟨(here.on on).ours, (here.on on).saved, (here.on on).wrapped, .inr ⟨hook, rfl⟩⟩
    · have clear := here.clear on
      cases passed <;> exact clear
  | enable p =>
    have turns := SlotWraps.Turns.enable h.backend here.balanced p
    exact ⟨h.turned turns, frames_turned turns⟩
  | disable p =>
    have turns := SlotWraps.Turns.disable h.backend here.balanced p
    exact ⟨h.turned turns, frames_turned turns⟩

/-- A hook that may be told is called. -/
theorem called (h : Minds registry (some passed) c x) (hooks : Meddlers) (visit : Visit)
    (kept : visit.event = .line → keeper visit.frame.id x.notes ≠ .frame ∧
      keeper visit.frame.id x.notes ≠ .thread x.engine.thread) :
    Minds registry (some passed) c (x.called registry hooks visit) ∧
      (x.called registry hooks visit).engine.frames = x.engine.frames := by
  have told : Minds registry (some passed) c
      { x with notes := .told x.engine.thread visit :: x.notes } :=
    ⟨h.present, h.backend, h.silent, h.sole, h.young, h.unborn, h.posts, h.frames, h.threads,
      h.heeded.told x.engine.thread visit kept⟩
  unfold Meddled.called
  generalize (hooks x.notes visit).deeds = deeds
  have same : ({ x with notes := .told x.engine.thread visit :: x.notes } : Meddled).engine.frames =
    x.engine.frames := rfl
  generalize ({ x with notes := .told x.engine.thread visit :: x.notes } : Meddled) = y at told same
  induction deeds generalizing y with
  | nil => exact ⟨told, same⟩
  | cons m rest ih =>
    obtain ⟨done, frames⟩ := told.deed m
    exact ih _ done (frames.trans same)

/-! ## Answers -/

/-- What becomes of the frames that are not finished when a hook answered. -/
structure Becomes (frame : Frame) (c c' : Flags) (linesOn : Bool) : Prop where
  others : ∀ id, id ≠ frame.id → c' id = c id
  own : c' frame.id = none ∨ c frame.id = some frame.linesOn ∧ c' frame.id = some linesOn

/-- Who is not finished then was not finished before. -/
theorem Becomes.live {linesOn : Bool} (becomes : Becomes frame c c' linesOn) {id : FrameId}
    (live : c' id ≠ none) : c id ≠ none := by
  by_cases this : id = frame.id
  · subst this
    rcases becomes.own with gone | ⟨before, -⟩
    · exact absurd gone live
    · rw [before]
      simp
  · rwa [← becomes.others id this]

/-- Who was kept on a thread is kept there still, be it by what the registry knows on the running
one. -/
theorem still_kept (h : Minds registry (some passed) c y)
    (keeps : (y.engine.dispatchOf registry).activated = true → d.activated = true ∧
      ∀ id ∈ (y.engine.dispatchOf registry).muted, id ∈ d.muted) {id : FrameId} {th : ThreadKey}
    (live : c id ≠ none) (kept : keeper id y.notes = .thread th) :
    (th ≠ y.engine.thread ∧ keeper id y.notes = .thread th) ∨
      (th = y.engine.thread ∧ d.activated = true ∧ id ∈ d.muted) := by
  by_cases this : th = y.engine.thread
  · subst this
    obtain ⟨on, muted⟩ := h.threads id _ live kept
    exact .inr ⟨rfl, (keeps on).1, (keeps on).2 id muted⟩
  · exact .inl ⟨this, kept⟩

/-- **A hook has answered.** If the machine goes on announcing lines of the frame, the hook wants
them, or the profilers that listen keep them. -/
theorem replied (h : Minds registry (some passed) c y) (m : Meddling) {linesOn : Bool}
    (becomes : Becomes frame c c' linesOn) (born : frame.id < y.engine.frames)
    (alters : Alters registry y.engine e d slot)
    (post : Post registry none d slot)
    (lit : linesOn = true → m.lines.getD frame.linesOn = true ∨
      passed = true ∧ (y.engine.dispatchOf registry).activated = true)
    (keeps : (y.engine.dispatchOf registry).activated = true → d.activated = true ∧
      ∀ id ∈ (y.engine.dispatchOf registry).muted, id ∈ d.muted)
    (hands : (y.engine.dispatchOf registry).activated = true → passed = true →
      m.lines.getD frame.linesOn = false → frame.id ∈ d.muted) :
    Minds registry none c'
      ⟨e, m.remarks frame y.engine.thread (y.engine.dispatchOf registry) ++ y.notes⟩ := by
  have busy : (y.engine.dispatchOf registry).busy = passed := by
    rw [h.here.busy]
    cases passed <;> rfl
  -- if the frame was to get its lines, it does not keep them itself
  have free : c frame.id = some frame.linesOn → frame.linesOn = true →
      keeper frame.id y.notes ≠ .frame := fun own was => h.frames _ (own.trans (congrArg some was))
  refine h.become alters post (quiet_remarks m frame _ _) (fun _ => becomes.live) (fun id later => ?_)
    (fun id on => ?_) fun id th lives kept => ?_
  · have other : id ≠ frame.id := fun same => Nat.not_lt.mpr later (same ▸ born)
    rw [keeper_remarks_of_ne other]
    exact h.unborn id later
  · by_cases this : id = frame.id
    · subst this
      rcases becomes.own with gone | ⟨own, after⟩
      · rw [gone] at on
        cases on
      · have linesOn : linesOn = true := Option.some.inj (after.symm.trans on)
        cases wants : m.lines.getD frame.linesOn with
        | true => exact (keeper_remarks_on wants (free own)).1
        | false =>
          rcases lit linesOn with wanted | ⟨passed, listens⟩
          · rw [wants] at wanted
            cases wanted
          · exact (keeper_remarks_off wants).1 (busy.trans passed) listens
    · rw [keeper_remarks_of_ne this]
      exact h.frames id ((becomes.others id this).symm.trans on)
  · by_cases this : id = frame.id
    · subst this
      rcases becomes.own with gone | ⟨own, -⟩
      · exact absurd gone lives
      cases wants : m.lines.getD frame.linesOn with
      | true => exact h.still_kept keeps (becomes.live lives) ((keeper_remarks_on wants (free own)).2 th kept)
      | false =>
        rcases (keeper_remarks_off wants).2 th kept with same | ⟨rfl, is_busy, listens⟩
        · exact h.still_kept keeps (becomes.live lives) same
        · exact .inr ⟨rfl, (keeps listens).1, hands listens (busy.symm.trans is_busy) wants⟩
    · rw [keeper_remarks_of_ne this] at kept
      exact h.still_kept keeps (becomes.live lives) kept

/-- What happens where the registry goes on listening is not noted. -/
theorem moveTo_eq (alters : Alters registry y.engine e d slot)
    (stays : (y.engine.dispatchOf registry).activated = true → d.activated = true) :
    y.moveTo registry e = ⟨e, y.notes⟩ := by
  have none : ceasing registry y.engine e = [] := by
    refine ceasing_nil fun on => ?_
    rw [alters.dispatch, if_pos rfl]
    exact stays on
  unfold Meddled.moveTo
  rw [none]
  rfl

/-- The slot is emptied after a hook failed. -/
theorem emptied (h : Minds registry (some false) c x) :
    Minds registry none c (x.moveTo registry (x.engine.withHook none)) :=
  h.moved (.withHook registry x.engine none) (Post.emptied (.inl h.here)) fun _ _ _ _ => id

/-! ## Trace events -/

/-- What is left after a trace event of a frame. The last return event finishes it. -/
def Follows (registry : RegistryId) (c : Flags) (frame : Frame) (event : TraceEvent) :
    Except HookError Bool × Meddled → Prop
  | (.ok linesOn, x) => Minds registry none
      (if closes frame event then c.drop frame.id else c.put frame.id linesOn) x
  | (.error _, x) => Minds registry none (if closes frame event then c.drop frame.id else c) x

theorem becomes (there : c frame.id = some frame.linesOn) (event : TraceEvent) (linesOn : Bool) :
    Becomes frame (if closes frame event then c.drop frame.id else c)
      (if closes frame event then c.drop frame.id else c.put frame.id linesOn) linesOn := by
  by_cases ends : closes frame event
  · rw [if_pos ends, if_pos ends]
    exact ⟨fun _ _ => rfl, .inl (Flags.drop_self c frame.id)⟩
  · rw [if_neg ends, if_neg ends]
    exact ⟨fun _ other => Flags.put_of_ne other linesOn, .inr ⟨there, Flags.put_self c frame.id linesOn⟩⟩

/-- A frame that is finished is not live while its last event is announced. -/
theorem ending (h : Minds registry none c x) (frame : Frame) (event : TraceEvent) :
    Minds registry none (if closes frame event then c.drop frame.id else c) x := by
  split
  · exact h.drop frame.id
  · exact h

/-- The answer leaves the frame as it is. -/
theorem unmoved (h : Minds registry none (if closes frame event then c.drop frame.id else c) x)
    (there : c frame.id = some frame.linesOn) :
    Follows registry c frame event (.ok frame.linesOn, x) := by
  show Minds registry none
    (if closes frame event then c.drop frame.id else c.put frame.id frame.linesOn) x
  rw [Flags.put_same there]
  exact h

/-- A frame of which a line is announced does not keep its lines. -/
theorem keeper_of_line (h : Minds registry none c x) (there : c frame.id = some frame.linesOn)
    (lit : event = .line → frame.linesOn = true) (line : event = .line) :
    keeper frame.id x.notes ≠ .frame := h.frames frame.id (there.trans (congrArg some (lit line)))

theorem live_of_some {id : FrameId} {linesOn : Bool} (there : c id = some linesOn) : c id ≠ none := by
  rw [there]
  simp

/-- What becomes of an event of which the machine tells a hook. -/
theorem announceTrace_script (hooks : Meddlers) {hook : ScriptId}
    (slot : x.engine.traceHook? = some (.script hook)) :
    answer ((Meddled.scripts registry hooks).announceTrace frame event) x =
      match Meddled.invoke registry hooks ⟨hook, frame, event⟩ x with
      | (.ok on, x') => (.ok on, x')
      | (.error err, x') => (.error err, x'.moveTo registry (x'.engine.withHook none)) := by
  have delivered : answer ((Meddled.scripts registry hooks).deliverTrace
      ((Meddled.scripts registry hooks).hopsAt x) (.script hook) frame event) x =
        Meddled.invoke registry hooks ⟨hook, frame, event⟩ x := rfl
  have slot : ((Meddled.scripts registry hooks).engine x).traceHook? = some (.script hook) := slot
  rw [Scripts.answer_announceTrace, slot]
  simp only
  rw [delivered]
  rcases Meddled.invoke registry hooks ⟨hook, frame, event⟩ x with ⟨_ | _, _⟩ <;> rfl

/-- **The machine tells a hook.** -/
theorem trace_script (h : Minds registry none c x) (hooks : Meddlers)
    (there : c frame.id = some frame.linesOn) (lit : event = .line → frame.linesOn = true)
    {hook : ScriptId} (slot : x.engine.traceHook? = some (.script hook)) :
    Follows registry c frame event
      (answer ((Meddled.scripts registry hooks).announceTrace frame event) x) := by
  let visit : Visit := ⟨hook, frame, event⟩
  have post := h.here.begins slot
  have kept : event = .line → keeper frame.id x.notes ≠ .frame ∧
      keeper frame.id x.notes ≠ .thread x.engine.thread := by
    refine fun line => ⟨h.keeper_of_line there lit line, fun thread => ?_⟩
    obtain ⟨on, muted⟩ := h.threads frame.id _ (live_of_some there) thread
    have none : (x.engine.dispatchOf registry).muted = [] := post.clear on
    have muted : frame.id ∈ (x.engine.dispatchOf registry).muted := muted
    rw [none] at muted
    cases muted
  obtain ⟨called, frames⟩ := ((h.ending frame event).repost post).called hooks visit kept
  have born : frame.id < (x.called registry hooks visit).engine.frames :=
    frames ▸ h.young frame.id (live_of_some there)
  rw [announceTrace_script hooks slot]
  unfold Meddled.invoke
  cases failed : (hooks x.notes ⟨hook, frame, event⟩).error with
  | some err =>
    simp only [failed]
    exact called.emptied
  | none =>
    simp only [failed]
    exact called.replied (hooks x.notes visit) (becomes there event _) born
      (.refl registry _) called.here.ends .inl (fun on => ⟨on, fun _ => id⟩) fun _ passed => by cases passed

/-- The profilers take a failure of the hook to which they had passed an event on. -/
theorem absorbed_error (h : Minds registry (some true) c y) (hooks : Meddlers) (frame : Frame)
    (err : HookError) :
    ∃ x, answer ((Meddled.scripts registry hooks).tryRun (absorbTrace registry frame (.error err))) y =
        (.error err, x) ∧
      Minds registry none c (x.moveTo registry (x.engine.withHook none)) := by
  have here := h.here
  rw [Scripts.answer_tryRun]
  cases on : (y.engine.dispatchOf registry).activated with
  | false =>
    have absorbed : answer (absorbTrace registry frame (.error err))
      ((Meddled.scripts registry hooks).engine y) = _ := answer_absorbTrace_off frame on (.error err)
    rw [absorbed]
    have moved := h.moved (.withDispatch registry y.engine _) (here.absorbs_off on)
      fun _ _ _ _ => id
    exact ⟨_, rfl, moved.moved (.withHook registry _ none) (Post.emptied (.inr moved.here))
      fun _ _ _ _ => id⟩
  | true =>
    obtain ⟨serial, mine⟩ := (here.on on).ours
    have absorbed := answer_absorbTrace_error frame on mine err
    have absorbed : answer (absorbTrace registry frame (.error err))
      ((Meddled.scripts registry hooks).engine y) = _ := absorbed
    rw [absorbed]
    let d : Dispatch :=
      { y.engine.dispatchOf registry with busy := false, wrapped := none, saved := none }
    let e := (Engine.reslotted registry y.engine y.engine.slots d).withProfilers
      (y.engine.scene registry).forgetPending.profilers
    have same : y.engine.scene registry =
        (Engine.reslotted registry y.engine y.engine.slots d).scene registry :=
      (scene_reslotted_same registry y.engine y.engine.slots (d := d) rfl).symm
    have alters : Alters registry y.engine e d y.engine.traceHook? :=
      (Alters.withDispatch registry y.engine d).forgotten (y.engine.scene registry) same
    have stays : y.moveTo registry e = ⟨e, y.notes⟩ := moveTo_eq alters fun _ => on
    refine ⟨_, rfl, ?_⟩
    show Minds registry none c
      ((y.moveTo registry e).moveTo registry ((y.moveTo registry e).engine.withHook none))
    rw [stays, moveTo_eq (y := ⟨e, y.notes⟩) (.withHook registry e none) id]
    have both := alters.trans (.withHook registry e none)
    rw [alters.dispatchOf] at both
    refine h.become both (here.fails on) (fun _ (mem : _ ∈ ([] : List Note)) => by cases mem) (fun _ => id)
      h.unborn h.frames fun id th live kept => ?_
    by_cases this : th = y.engine.thread
    · subst this
      exact .inr ⟨rfl, h.threads id _ live kept⟩
    · exact .inl ⟨this, kept⟩

/-- How a thread stands once the profilers took the answer of the hook to which they had passed an
event on: while they listen they keep lines that are not wanted from the hook, and otherwise they leave
that to the machine. -/
inductive Absorbs (d : Dispatch) (slot : Option TraceHook) (frame : Frame) (wanted : Bool) :
    Bool → Dispatch → Option TraceHook → Prop where
  | left (off : d.activated = false) : Absorbs d slot frame wanted wanted { d with busy := false } slot
  | taken (on : d.activated = true) {inner : Option TraceHook} (foreign : Foreign inner) :
    Absorbs d slot frame wanted true (answered d inner wanted frame.id) d.ours

/-- The profilers take what the hook answered to which they had passed an event on. -/
theorem absorbs (h : Minds registry (some true) c y) (hooks : Meddlers) (frame : Frame) (wanted : Bool)
    (notes : List Note) :
    ∃ linesOn e d slot, answer ((Meddled.scripts registry hooks).tryRun
        (absorbTrace registry frame (.ok wanted))) ⟨y.engine, notes⟩ = (.ok linesOn, ⟨e, notes⟩) ∧
      Alters registry y.engine e d slot ∧
      Absorbs (y.engine.dispatchOf registry) y.engine.traceHook? frame wanted linesOn d slot := by
  have here := h.here
  rw [Scripts.answer_tryRun]
  cases on : (y.engine.dispatchOf registry).activated with
  | false =>
    have absorbed : answer (absorbTrace registry frame (.ok wanted))
        ((Meddled.scripts registry hooks).engine ⟨y.engine, notes⟩) = _ :=
      answer_absorbTrace_off frame on (.ok wanted)
    rw [absorbed]
    let d : Dispatch := { y.engine.dispatchOf registry with busy := false }
    have alters := Alters.withDispatch registry y.engine d
    refine ⟨wanted, _, d, _, ?_, alters, .left on⟩
    show (_, (⟨y.engine, notes⟩ : Meddled).moveTo registry _) = _
    rw [moveTo_eq (y := ⟨y.engine, notes⟩) alters id]
  | true =>
    obtain ⟨serial, mine⟩ := (here.on on).ours
    obtain ⟨slots, absorbed, slot⟩ := answer_absorbTrace_ok on mine frame (here.on on).saved wanted
    have absorbed : answer (absorbTrace registry frame (.ok wanted))
      ((Meddled.scripts registry hooks).engine ⟨y.engine, notes⟩) = _ := absorbed
    rw [absorbed]
    let inner := successor (.profiler registry serial) y.engine (y.engine.dispatchOf registry)
    let d := answered (y.engine.dispatchOf registry) inner wanted frame.id
    have foreign : Foreign inner := by
      unfold inner successor
      split
      · exact (here.on on).wrapped
      · rename_i other
        rcases (here.on on).slot with same | foreign
        · exact absurd (same.trans mine) other
        · exact foreign
    have alters : Alters registry y.engine (Engine.reslotted registry y.engine slots d) d
        (y.engine.dispatchOf registry).ours := by
      refine .reslotted registry y.engine d fun th => ?_
      rw [mine]
      exact slot th
    have listens : d.activated = true := by
      unfold d
      rw [answered_eq]
      exact on
    refine ⟨true, _, d, _, ?_, alters, .taken on foreign⟩
    show (_, (⟨y.engine, notes⟩ : Meddled).moveTo registry
      (Engine.reslotted registry y.engine slots d)) = _
    rw [moveTo_eq (y := ⟨y.engine, notes⟩) alters fun _ => listens]

/-- Who keeps frames once the answer was taken. -/
theorem absorbed (h : Minds registry (some true) (if closes frame event then c.drop frame.id else c) y)
    (there : c frame.id = some frame.linesOn) (born : frame.id < y.engine.frames) (m : Meddling)
    {linesOn : Bool} (alters : Alters registry y.engine e d slot)
    (takes : Absorbs (y.engine.dispatchOf registry) y.engine.traceHook? frame
      (m.lines.getD frame.linesOn) linesOn d slot) :
    Follows registry c frame event (.ok linesOn,
      ⟨e, m.remarks frame y.engine.thread (y.engine.dispatchOf registry) ++ y.notes⟩) := by
  have here := h.here
  cases takes with
  | left off =>
    refine h.replied m (becomes there event _) born alters (here.absorbs_off off) .inl
      (fun listens => ?_) fun listens => ?_ <;>
    · rw [off] at listens
      cases listens
  | @taken on inner foreign =>
    have listens : (answered (y.engine.dispatchOf registry) inner (m.lines.getD frame.linesOn)
        frame.id).activated = true := by
      rw [answered_eq]
      exact on
    refine h.replied m (becomes there event true) born alters (here.absorbs on foreign _ _)
      (fun _ => .inr ⟨rfl, on⟩) (fun _ => ⟨listens, fun id mem => ?_⟩) fun _ _ unwanted => ?_
    · exact (mem_answered _ inner _ frame.id id).mpr (.inl mem)
    · exact (mem_answered _ inner _ frame.id frame.id).mpr (.inr ⟨unwanted, rfl⟩)

/-- The profilers pass an event on. -/
theorem alters_passing (registry : RegistryId) (e : Engine) (frame : Frame) (event : TraceEvent) :
    Alters registry e (Hooked.passing registry e frame event)
      { cleared frame event (e.dispatchOf registry) with busy := true } e.traceHook? := by
  have heard := Alters.heard registry e frame event
  have both := heard.trans (.withDispatch registry _
    { (Engine.heard registry e frame event).dispatchOf registry with busy := true })
  rw [heard.traceHook?, heard.dispatchOf] at both
  unfold Hooked.passing
  simp only
  rw [heard.dispatchOf]
  exact both

/-- A frame that is not finished stays muted when an event is recorded. -/
theorem muted_cleared {id : FrameId} (live : (if closes frame event then c.drop frame.id else c) id ≠ none)
    (muted : id ∈ d.muted) : id ∈ (cleared frame event d).muted := by
  refine (mem_cleared frame event d id).mpr ⟨muted, ?_⟩
  rintro ⟨ends, rfl⟩
  rw [if_pos ends] at live
  exact live (Flags.drop_self c frame.id)

/-- The profilers' hook stands in the slot only where they listen. -/
theorem listening (h : Minds registry none c x) {serial : Nat}
    (slot : x.engine.traceHook? = some (.profiler registry serial)) :
    (x.engine.dispatchOf registry).activated = true := by
  rw [← Bool.not_eq_false]
  intro off
  obtain ⟨id, foreign⟩ := h.here.off off
  rw [slot] at foreign
  cases id <;> cases foreign

/-- The profilers pass an event on that is no line of a muted frame, and a hook may be told of it. -/
theorem passing (h : Minds registry none c x) (there : c frame.id = some frame.linesOn)
    (lit : event = .line → frame.linesOn = true)
    (heard : ¬ (event = .line ∧ (x.engine.dispatchOf registry).muted.contains frame.id)) :
    let y := x.moveTo registry (Hooked.passing registry x.engine frame event)
    Minds registry (some true) (if closes frame event then c.drop frame.id else c) y ∧
      (event = .line → keeper frame.id y.notes ≠ .frame ∧
        keeper frame.id y.notes ≠ .thread y.engine.thread) := by
  have alters := alters_passing registry x.engine frame event
  have passing := (h.ending frame event).moved alters (h.here.cleared frame event).passes
    fun _ _ _ => muted_cleared
  refine ⟨passing, fun line => ?_⟩
  have goes : ¬ closes frame event := fun ends => by
    rw [line] at ends
    cases ends.1
  rw [if_neg goes] at passing
  refine ⟨passing.frames frame.id (there.trans (congrArg some (lit line))), fun thread => ?_⟩
  obtain ⟨-, muted⟩ := passing.threads frame.id _ (live_of_some there) thread
  have muted : frame.id ∈
      ((Hooked.passing registry x.engine frame event).dispatchOf registry).muted := muted
  rw [alters.dispatchOf] at muted
  have muted := ((mem_cleared frame event _ frame.id).mp muted).1
  exact heard ⟨line, List.contains_iff_mem.mpr muted⟩

/-- What becomes of an event that the profilers pass on to a hook. -/
theorem announceTrace_passed (hooks : Meddlers) {serial : Nat} {hook : ScriptId}
    (slot : x.engine.traceHook? = some (.profiler registry serial))
    (taken : (takeTrace registry frame event).run x.engine = (some (.script hook), e)) :
    let told := Meddled.invoke registry hooks ⟨hook, frame, event⟩ (x.moveTo registry e)
    answer ((Meddled.scripts registry hooks).announceTrace frame event) x =
      match answer ((Meddled.scripts registry hooks).tryRun (absorbTrace registry frame told.1)) told.2 with
      | (.ok on, x') => (.ok on, x')
      | (.error err, x') => (.error err, x'.moveTo registry (x'.engine.withHook none)) := by
  intro told
  have invoked : ∀ hops, answer ((Meddled.scripts registry hooks).deliverTrace hops (.script hook)
      frame event) ((Meddled.scripts registry hooks).withEngine x e) = told := by
    intro hops
    cases hops <;> rfl
  have passed := (Meddled.scripts registry hooks).announceTrace_passed slot taken
  simp only at passed
  rw [passed, invoked]
  rcases answer ((Meddled.scripts registry hooks).tryRun (absorbTrace registry frame told.1)) told.2 with
    ⟨_ | _, _⟩ <;> rfl

/-- **What the profilers make of an event**: they record it and keep it to themselves, or call a hook
and take its answer. -/
theorem asked (h : Minds registry none c x) (hooks : Meddlers)
    (there : c frame.id = some frame.linesOn) (lit : event = .line → frame.linesOn = true)
    {serial : Nat} (slot : x.engine.traceHook? = some (.profiler registry serial)) :
    answer ((Meddled.scripts registry hooks).announceTrace frame event) x =
        (.ok frame.linesOn, x.moveTo registry (Engine.heard registry x.engine frame event)) ∨
      ∃ hook, let y := x.moveTo registry (Hooked.passing registry x.engine frame event)
        let visit : Visit := ⟨hook, frame, event⟩
        Minds registry (some true) (if closes frame event then c.drop frame.id else c) y ∧
        Minds registry (some true) (if closes frame event then c.drop frame.id else c)
          (y.called registry hooks visit) ∧
        frame.id < (y.called registry hooks visit).engine.frames ∧
        answer ((Meddled.scripts registry hooks).announceTrace frame event) x =
          match answer ((Meddled.scripts registry hooks).tryRun (absorbTrace registry frame
              (Meddled.invoke registry hooks visit y).1)) (Meddled.invoke registry hooks visit y).2 with
          | (.ok on, x') => (.ok on, x')
          | (.error err, x') => (.error err, x'.moveTo registry (x'.engine.withHook none)) := by
  have busy : (x.engine.dispatchOf registry).busy = false := h.here.busy
  rcases takeTrace_cases registry x.engine frame event busy with kept | ⟨before, there', unmuted, passed⟩
  · exact .inl ((Meddled.scripts registry hooks).announceTrace_kept slot kept)
  · obtain ⟨inner, wrapped⟩ := (h.here.on (h.listening slot)).wrapped
    obtain ⟨hook, -, rfl⟩ := Option.map_eq_some_iff.mp (wrapped.symm.trans there')
    obtain ⟨passing, unkept⟩ := h.passing there lit unmuted
    obtain ⟨called, frames⟩ := passing.called hooks ⟨hook, frame, event⟩ unkept
    refine .inr ⟨hook, passing, called, ?_, announceTrace_passed hooks slot passed⟩
    have same : (Hooked.passing registry x.engine frame event).frames = x.engine.frames :=
      (alters_passing registry x.engine frame event).frames
    rw [frames]
    exact Nat.lt_of_lt_of_eq (h.young frame.id (live_of_some there)) same.symm

/-- **The profilers hear of an event** and keep it to themselves, or pass it on. -/
theorem trace_profiler (h : Minds registry none c x) (hooks : Meddlers)
    (there : c frame.id = some frame.linesOn) (lit : event = .line → frame.linesOn = true)
    {serial : Nat} (slot : x.engine.traceHook? = some (.profiler registry serial)) :
    Follows registry c frame event
      (answer ((Meddled.scripts registry hooks).announceTrace frame event) x) := by
  rcases h.asked hooks there lit slot with kept | ⟨hook, -, called, born, passed⟩
  · rw [kept]
    exact ((h.ending frame event).moved (.heard registry x.engine frame event)
      (h.here.cleared frame event) fun _ _ _ => muted_cleared).unmoved there
  · rw [passed]
    let y := x.moveTo registry (Hooked.passing registry x.engine frame event)
    unfold Meddled.invoke
    cases failed : (hooks y.notes ⟨hook, frame, event⟩).error with
    | some err =>
      simp only [y, failed]
      obtain ⟨x', absorbed, minds⟩ := called.absorbed_error hooks frame err
      rw [absorbed]
      exact minds
    | none =>
      simp only [y, failed]
      obtain ⟨linesOn, e, d, slot, absorbed, alters, takes⟩ := called.absorbs hooks frame
        ((hooks y.notes ⟨hook, frame, event⟩).lines.getD frame.linesOn) _
      rw [absorbed]
      exact called.absorbed there born _ alters takes

/-- Only the profilers of the registry and scripts come into the slot. -/
theorem someone (h : Minds registry none c x) : Foreign x.engine.traceHook? ∨
    ∃ serial, x.engine.traceHook? = some (.profiler registry serial) := by
  cases on : (x.engine.dispatchOf registry).activated with
  | false => exact .inl (h.here.off on)
  | true =>
    obtain ⟨serial, mine⟩ := (h.here.on on).ours
    exact (h.here.on on).slot.symm.imp id fun same => ⟨serial, same.trans mine⟩

/-- **A trace event** of a frame that is not finished. -/
theorem trace (h : Minds registry none c x) (hooks : Meddlers)
    (there : c frame.id = some frame.linesOn) (lit : event = .line → frame.linesOn = true) :
    Follows registry c frame event
      (answer ((Meddled.scripts registry hooks).announceTrace frame event) x) := by
  rcases h.someone with ⟨hook, slot⟩ | ⟨serial, slot⟩
  · cases hook with
    | none =>
      have slot : ((Meddled.scripts registry hooks).engine x).traceHook? = none := slot
      rw [Scripts.answer_announceTrace, slot]
      exact (h.ending frame event).unmoved there
    | some hook => exact h.trace_script hooks there lit slot
  · exact h.trace_profiler hooks there lit slot

/-- A monitoring event is nobody's business. -/
theorem monitor (h : Minds registry none c x) (hooks : Meddlers) (event : MonitorEvent) :
    answer ((Meddled.scripts registry hooks).announceEvent event) x = (.ok (), x) := by
  have none : ((Meddled.scripts registry hooks).engine x).facility.targets event = [] :=
    targets_silent h.silent event
  rw [Scripts.answer_announceEvent, none]
  split <;> rfl

/-! ## Whatever the machine asks -/

/-- What leaves listening alone is not noted. -/
theorem moveTo_aside (aside : Aside registry x.engine e) : x.moveTo registry e = ⟨e, x.notes⟩ := by
  have nothing : ceasing registry x.engine e = [] := by
    refine ceasing_nil fun on => ?_
    rw [aside.dispatchAt]
    exact on
  unfold Meddled.moveTo
  rw [nothing]
  rfl

/-- What leaves listening alone, and takes back no frame. -/
theorem setup {α : Type} {m : StateM Engine α} (h : Minds registry none c x)
    (hm : Setup registry m) : Minds registry none c (x.moveTo registry (m.run x.engine).2) := by
  have aside := hm.aside _ h.ready
  have keeps := hm.keeps _ h.ready
  have frames : x.engine.frames ≤ (m.run x.engine).2.frames := keeps.frames
  rw [moveTo_aside aside]
  refine ⟨?_, ?_, ?_, keeps.sole, fun id live => Nat.lt_of_lt_of_le (h.young id live) frames,
    fun id later => h.unborn id (Nat.le_trans frames later), fun th => ?_, h.frames,
    fun id th live kept => ?_, h.heeded⟩
  · rw [aside.present]
    exact h.present
  · rw [aside.backend]
    exact h.backend
  · rw [aside.facility]
    exact h.silent
  · have post := h.posts th
    rw [ite_self] at post
    rw [ite_self, aside.dispatchAt, aside.slots]
    exact post
  · rw [aside.dispatchAt]
    exact h.threads id th live kept

/-- A new frame. -/
theorem newFrame (h : Minds registry none c x) :
    c x.engine.frames = none ∧
      Minds registry none (c.put x.engine.frames true)
        (x.moveTo registry (Scripts.quiet.host.newFrame.run x.engine).2) := by
  have free : c x.engine.frames = none := by
    cases live : c x.engine.frames with
    | none => rfl
    | some linesOn => exact absurd (h.young _ (live_of_some live)) (Nat.lt_irrefl _)
  have nobody := h.unborn x.engine.frames (Nat.le_refl _)
  have after := h.setup Setup.newFrame
  have more : (Scripts.quiet.host.newFrame.run x.engine).2.frames = x.engine.frames + 1 := rfl
  rw [moveTo_aside (Setup.newFrame.aside _ h.ready)] at after ⊢
  refine ⟨free, after.present, after.backend, after.silent, after.sole, fun id live => ?_,
    after.unborn, after.posts, fun id lit => ?_, fun id th live kept => ?_, after.heeded⟩
  all_goals by_cases this : id = x.engine.frames
  · show id < (Scripts.quiet.host.newFrame.run x.engine).2.frames
    rw [more, this]
    exact Nat.lt_succ_self _
  · rw [Flags.put_of_ne this] at live
    exact after.young id live
  · rw [this, nobody]
    simp
  · rw [Flags.put_of_ne this] at lit
    exact after.frames id lit
  · rw [this, nobody] at kept
    cases kept
  · rw [Flags.put_of_ne this] at live
    exact after.threads id th live kept

/-- Going on with the same engine. -/
theorem moveTo_self (registry : RegistryId) (x : Meddled) : x.moveTo registry x.engine = x := by
  have nothing : ceasing registry x.engine x.engine = [] := ceasing_nil id
  unfold Meddled.moveTo
  rw [nothing]
  rfl

/-- The scope of a wrapper is entered: at most a profiler is switched on. -/
theorem enters (h : Minds registry none c x) (hooks : Meddlers) (routine : RoutineId) :
    ∃ e, SlotWraps.Turns registry x.engine e ∧
      (answer ((Meddled.scripts registry hooks).host.enter routine) x).2 = x.moveTo registry e := by
  rw [Scripts.answer_enter]
  cases found : (((Meddled.scripts registry hooks).engine x).routine routine).scope with
  | none => exact ⟨x.engine, .same, (moveTo_self registry x).symm⟩
  | some scope =>
    have own : scope.registry = registry := h.sole.wrappers routine scope found
    have entered : (answer (Engine.enable scope.registry scope.profiler)
        ((Meddled.scripts registry hooks).engine x)).2 =
          (answer (Engine.enable registry scope.profiler) x.engine).2 := by
      rw [own]
      rfl
    refine ⟨_, .enable h.backend h.here.balanced scope.profiler, ?_⟩
    simp only
    rw [← entered]
    rcases answer (Engine.enable scope.registry scope.profiler)
      ((Meddled.scripts registry hooks).engine x) with ⟨_ | _, e⟩ <;> rfl

/-- The scope of a wrapper is left: at most a profiler is switched off. -/
theorem leaves (h : Minds registry none c x) (hooks : Meddlers) (routine : RoutineId) :
    ∃ e, SlotWraps.Turns registry x.engine e ∧
      ((Meddled.scripts registry hooks).host.leave routine x).2 = x.moveTo registry e := by
  rw [Scripts.host_leave]
  cases found : (((Meddled.scripts registry hooks).engine x).routine routine).scope with
  | none => exact ⟨x.engine, .same, (moveTo_self registry x).symm⟩
  | some scope =>
    have own : scope.registry = registry := h.sole.wrappers routine scope found
    refine ⟨_, .disable h.backend h.here.balanced scope.profiler, ?_⟩
    simp only
    rw [own]
    rfl

/-- The scope of a wrapper is entered. -/
theorem enter (h : Minds registry none c x) (hooks : Meddlers) (routine : RoutineId) :
    Minds registry none c (answer ((Meddled.scripts registry hooks).host.enter routine) x).2 := by
  obtain ⟨e, turns, entered⟩ := h.enters hooks routine
  rw [entered]
  exact h.turned turns

/-- The scope of a wrapper is left. -/
theorem leave (h : Minds registry none c x) (hooks : Meddlers) (routine : RoutineId) :
    Minds registry none c ((Meddled.scripts registry hooks).host.leave routine x).2 := by
  obtain ⟨e, turns, left⟩ := h.leaves hooks routine
  rw [left]
  exact h.turned turns

-- These equations are for rewriting, so that comparing terms does not open the engine.
theorem host_newFrame (hooks : Meddlers) (x : Meddled) :
    (Meddled.scripts registry hooks).host.newFrame x =
      (x.engine.frames, x.moveTo registry (Scripts.quiet.host.newFrame.run x.engine).2) := rfl

theorem host_work (hooks : Meddlers) (units : UInt8) (x : Meddled) :
    ((Meddled.scripts registry hooks).host.work units x).2 =
      x.moveTo registry ((Scripts.quiet.host.work units).run x.engine).2 := rfl

/-- **Programs** keep what is known of who keeps the lines of frames that are not finished. -/
theorem custody (registry : RegistryId) (hooks : Meddlers) :
    Custody (Meddled.scripts registry hooks).host (Minds registry none) where
  drop h id := h.drop id
  newFrame h := by
    rw [host_newFrame]
    exact h.newFrame
  work h units := by
    rw [host_work]
    exact h.setup (Setup.work units)
  monitor h event := by
    have heard := h.monitor hooks event
    have heard : answer ((Meddled.scripts registry hooks).host.monitor event) _ = _ := heard
    rw [heard]
    exact h
  enter h routine := h.enter hooks routine
  leave h routine := h.leave hooks routine
  trace {c x} h frame event there lit := by
    have follows := h.trace hooks there lit
    have told : answer ((Meddled.scripts registry hooks).host.trace frame event) x =
      answer ((Meddled.scripts registry hooks).announceTrace frame event) x := rfl
    rw [told]
    rcases told : answer ((Meddled.scripts registry hooks).announceTrace frame event) x with
      ⟨_ | _, x'⟩ <;>
    · rw [told] at follows
      exact follows

end Minds

end LineClock

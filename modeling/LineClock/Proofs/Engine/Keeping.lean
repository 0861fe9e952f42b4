import LineClock.Proofs.Engine.Meddled
import LineClock.Proofs.Engine.Quiet
import LineClock.Proofs.Machine.Custody

/-!
# Lines that are kept from hooks

A machine whose registry listens through the trace slot, beside hooks that meddle. A frame that does
not want its lines announced keeps them itself, until the profilers answer for it that they are
announced and keep them from the hook instead, in what they know on that thread. As long as they
listen there, no hook is told of a line of the frame on that thread.

Main statements: `Minds.become`, `Minds.moved` and `Minds.turned`.
-/

namespace LineClock

open Machine Engine

variable {registry : RegistryId}

/-! ## Changes on one thread -/

/-- An engine that has become another one, which differs in what the running thread knows of the
registry, and in its trace slot. -/
structure Alters (registry : RegistryId) (e e' : Engine) (d : Dispatch) (slot : Option TraceHook) :
    Prop where
  registries : e'.registries = e.registries
  facility : e'.facility = e.facility
  thread : e'.thread = e.thread
  frames : e'.frames = e.frames
  dispatch : ∀ th, e'.dispatchAt th registry =
    if th = e.thread then d else e.dispatchAt th registry
  slots : ∀ th, e'.slots.get? th = if th = e.thread then slot else e.slots.get? th
  sole : (e.scene registry).Sole registry → (e'.scene registry).Sole registry

namespace Alters

variable {e e' e'' : Engine} {d d' : Dispatch} {slot slot' : Option TraceHook}

theorem refl (registry : RegistryId) (e : Engine) :
    Alters registry e e (e.dispatchOf registry) e.traceHook? := by
  refine ⟨rfl, rfl, rfl, rfl, fun th => ?_, fun th => ?_, id⟩ <;>
  · split
    · rename_i here
      rw [here]
      rfl
    · rfl

theorem trans (h : Alters registry e e' d slot) (h' : Alters registry e' e'' d' slot') :
    Alters registry e e'' d' slot' := by
  refine ⟨h'.registries.trans h.registries, h'.facility.trans h.facility,
    h'.thread.trans h.thread, h'.frames.trans h.frames, fun th => ?_, fun th => ?_,
    fun sole => h'.sole (h.sole sole)⟩
  · rw [h'.dispatch, h.thread, h.dispatch]
    split <;> rfl
  · rw [h'.slots, h.thread, h.slots]
    split <;> rfl

theorem dispatchOf (h : Alters registry e e' d slot) : e'.dispatchOf registry = d := by
  have here := h.dispatch e.thread
  rw [if_pos rfl, ← h.thread] at here
  exact here

theorem traceHook? (h : Alters registry e e' d slot) : e'.traceHook? = slot := by
  have here := h.slots e.thread
  rw [if_pos rfl, ← h.thread] at here
  exact here

/-- Other trace slots and other knowledge of the registry. -/
theorem reslotted (registry : RegistryId) (e : Engine) {slots : Assoc ThreadKey TraceHook}
    (d : Dispatch) (there : ∀ th, slots.get? th = if th = e.thread then slot else e.slots.get? th) :
    Alters registry e (Engine.reslotted registry e slots d) d slot := by
  refine ⟨rfl, rfl, rfl, rfl, reslotted_dispatchAt registry e slots d, there, fun sole => ?_⟩
  rw [scene_reslotted]
  exact ⟨sole.profilers, sole.wrappers, sole.numbered⟩

/-- Another hook in the slot. -/
theorem withHook (registry : RegistryId) (e : Engine) (hook : Option TraceHook) :
    Alters registry e (e.withHook hook) (e.dispatchOf registry) hook :=
  ⟨rfl, rfl, rfl, rfl, (refl registry e).dispatch, withHook_slots e hook, id⟩

/-- More hooks were made. -/
theorem moreHooks (registry : RegistryId) (e : Engine) (hooks : Nat) :
    Alters registry e { e with hooks } (e.dispatchOf registry) e.traceHook? :=
  ⟨rfl, rfl, rfl, rfl, (refl registry e).dispatch, (refl registry e).slots, id⟩

/-- Other knowledge of the registry. -/
theorem withDispatch (registry : RegistryId) (e : Engine) (d : Dispatch) :
    Alters registry e (e.withDispatch registry d) d e.traceHook? :=
  reslotted registry e d (refl registry e).slots

/-- A trace event is recorded. -/
theorem heard (registry : RegistryId) (e : Engine) (frame : Frame) (event : TraceEvent) :
    Alters registry e (Engine.heard registry e frame event)
      (cleared frame event (e.dispatchOf registry)) e.traceHook? := by
  refine ⟨heard_registries registry e frame event, heard_facility registry e frame event,
    heard_thread registry e frame event, ?_, heard_dispatchAt registry e frame event, fun th => ?_,
    fun sole => ?_⟩
  · unfold Engine.heard
    simp only
    split <;> rfl
  · rw [heard_slots]
    exact (refl registry e).slots th
  · rw [heard_scene]
    exact sole.hear frame event

/-- What is pending is dropped. -/
theorem forgotten (h : Alters registry e e' d slot) (s : Scene)
    (same : s = e'.scene registry) :
    Alters registry e (e'.withProfilers s.forgetPending.profilers) d slot := by
  refine ⟨h.registries, h.facility, h.thread, h.frames, h.dispatch, h.slots, fun sole => ?_⟩
  subst same
  exact (h.sole sole).update fun _ => rfl

end Alters

/-- What switching profilers does to what a thread knows of a registry, and to its trace slot. -/
inductive Shifts (registry : RegistryId) (d : Dispatch) (slot : Option TraceHook) :
    Dispatch → Option TraceHook → Prop where
  | same : Shifts registry d slot d slot
  | counts (on : List (ProfilerId × Nat)) (listening : d.activated = true) (somebody : on ≠ []) :
    Shifts registry d slot { d with active := on } slot
  | starts (on : List (ProfilerId × Nat)) (serial : Nat) (off : d.activated = false)
    (somebody : on ≠ []) :
    Shifts registry d slot
      { d with
        active := on
        saved := slot
        wrapped := slot
        ours := some (.profiler registry serial)
        muted := []
        activated := true } (some (.profiler registry serial))
  | stops (listening : d.activated = true) :
    Shifts registry d slot { SlotWraps.stopped d with active := [] } d.saved

/-- Switching profilers is a change on the running thread. -/
theorem Alters.turns {e e' : Engine} (turns : SlotWraps.Turns registry e e') :
    ∃ d slot, Alters registry e e' d slot ∧
      Shifts registry (e.dispatchOf registry) e.traceHook? d slot := by
  cases turns with
  | same => exact ⟨_, _, .refl registry e, .same⟩
  | counts on listening somebody =>
    exact ⟨_, _, .withDispatch registry e _, .counts on listening somebody⟩
  | starts on off somebody =>
    have alters := (Alters.moreHooks registry e (e.hooks + 1)).trans
      (.reslotted registry { e with hooks := e.hooks + 1 }
        { SlotWraps.started registry e with active := on }
        (withHook_slots e (some (.profiler registry e.hooks))))
    exact ⟨_, _, alters, .starts on e.hooks off somebody⟩
  | stops listening =>
    exact ⟨_, _, .reslotted registry e _ (withHook_slots e (e.dispatchOf registry).saved),
      .stops listening⟩

/-! ## How a thread stands -/

/-- Somebody else's hook, or none. -/
def Foreign (hook : Option TraceHook) : Prop := ∃ id : Option ScriptId, hook = id.map .script

/-- What a thread knows of a registry that listens there, and the trace slot: the profilers' hook
stands in it, or a hook came after it. -/
structure Fronts (registry : RegistryId) (d : Dispatch) (slot : Option TraceHook) : Prop where
  ours : ∃ serial, d.ours = some (.profiler registry serial)
  saved : d.saved = d.wrapped
  wrapped : Foreign d.wrapped
  slot : slot = d.ours ∨ Foreign slot

/-- Where no hook is running, the profilers keep lines from hooks only while their own hook stands in
the slot, or nobody's. Where one is running, that was called by the machine (`some false`), they keep
none; and where they called it themselves (`some true`), it may have done anything to the slot. -/
def Clear (d : Dispatch) (slot : Option TraceHook) : Option Bool → Prop
  | none => slot = d.ours ∨ slot = none ∨ d.muted = []
  | some false => d.muted = []
  | some true => True

/-- How a thread stands. -/
structure Post (registry : RegistryId) (amid : Option Bool) (d : Dispatch)
    (slot : Option TraceHook) : Prop where
  busy : d.busy = (amid == some true)
  balanced : d.activated = d.isActive
  off : d.activated = false → Foreign slot
  on : d.activated = true → Fronts registry d slot
  clear : d.activated = true → Clear d slot amid

namespace Post

variable {amid : Option Bool} {d : Dispatch} {slot : Option TraceHook}

/-- Who is on does not matter to the slot, as long as somebody is. -/
theorem counts (h : Post registry amid d slot) {on : List (ProfilerId × Nat)}
    (listening : d.activated = true) (somebody : on ≠ []) :
    Post registry amid { d with active := on } slot := by
  refine ⟨h.busy, listening.trans ?_, h.off, fun on => ?_, fun on => ?_⟩
  · exact (Dispatch.isActive_iff_ne_nil.mpr somebody).symm
  · exact ⟨(h.on on).ours, (h.on on).saved, (h.on on).wrapped, (h.on on).slot⟩
  · have clear := h.clear on
    cases amid with
    | none => exact clear
    | some passed => cases passed <;> exact clear

/-- Where a hook that was called by the machine has done with the slot. -/
theorem ends (h : Post registry (some false) d slot) : Post registry none d slot :=
  ⟨h.busy, h.balanced, h.off, h.on, fun on => .inr (.inr (h.clear on))⟩

/-- The machine calls a hook of somebody. -/
theorem begins (h : Post registry none d slot) {id : ScriptId} (script : slot = some (.script id)) :
    Post registry (some false) d slot := by
  refine ⟨h.busy, h.balanced, h.off, h.on, fun on => ?_⟩
  obtain ⟨serial, ours⟩ := (h.on on).ours
  rcases h.clear on with mine | none | clear
  · rw [script, ours] at mine
    cases mine
  · rw [script] at none
    cases none
  · exact clear

/-- The slot is emptied after a hook failed. -/
theorem emptied (h : Post registry (some false) d slot ∨ Post registry none d slot) :
    Post registry none d none := by
  have h : Post registry none d slot := h.elim ends id
  exact ⟨h.busy, h.balanced, fun _ => ⟨none, rfl⟩,
    fun on => ⟨(h.on on).ours, (h.on on).saved, (h.on on).wrapped, .inr ⟨none, rfl⟩⟩,
    fun _ => .inr (.inl rfl)⟩

end Post

/-! ## The invariant -/

/-- A hook that was told of a line of a frame on a thread was told of it by nobody's keeping: neither
the frame nor the profilers on that thread kept its lines from the hooks. -/
def Heeded (notes : List Note) : Prop :=
  ∀ th visit earlier, .told th visit :: earlier <:+ notes → visit.event = .line →
    keeper visit.frame.id earlier ≠ .frame ∧ keeper visit.frame.id earlier ≠ .thread th

/-- A note that is no invocation. -/
def Note.quiet : Note → Bool
  | .told _ _ => false
  | _ => true

namespace Heeded

variable {notes new : List Note}

theorem told (h : Heeded notes) (th : ThreadKey) (visit : Visit)
    (kept : visit.event = .line →
      keeper visit.frame.id notes ≠ .frame ∧ keeper visit.frame.id notes ≠ .thread th) :
    Heeded (.told th visit :: notes) := by
  intro th' visit' earlier suffix line
  rcases List.suffix_cons_iff.mp suffix with same | earlier
  · cases same
    exact kept line
  · exact h th' visit' _ earlier line

theorem append (h : Heeded notes) (quiet : ∀ note ∈ new, note.quiet = true) :
    Heeded (new ++ notes) := by
  induction new with
  | nil => exact h
  | cons note new ih =>
    have rest := ih fun note mem => quiet note (List.mem_cons_of_mem _ mem)
    intro th visit earlier suffix line
    rcases List.suffix_cons_iff.mp suffix with same | earlier
    · cases same
      cases quiet _ List.mem_cons_self
    · exact rest th visit _ earlier line

end Heeded

theorem quiet_ceasing (e e' : Engine) : ∀ note ∈ ceasing registry e e', note.quiet = true := by
  unfold ceasing
  intro note mem
  split at mem
  · cases List.mem_singleton.mp mem
    rfl
  · cases mem

theorem quiet_remarks (m : Meddling) (frame : Frame) (th : ThreadKey) (d : Dispatch) :
    ∀ note ∈ m.remarks frame th d, note.quiet = true := by
  unfold Meddling.remarks
  intro note mem
  rcases List.mem_append.mp mem with mem | mem
  · split at mem
    · cases List.mem_singleton.mp mem
      rfl
    · cases mem
  · obtain ⟨on, -, rfl⟩ := Option.map_eq_some_iff.mp (Option.mem_toList.mp mem)
    rfl

/-- The machine with the frames that are not finished. `amid` says whether a hook is running, and
whether the profilers called it. -/
structure Minds (registry : RegistryId) (amid : Option Bool) (c : Flags) (x : Meddled) : Prop where
  present : (x.engine.registries.get? registry).isSome
  backend : (x.engine.registry registry).backend = .slot
  silent : ∀ tool kind, x.engine.facility.callback? tool kind = none
  sole : (x.engine.scene registry).Sole registry
  young : ∀ id, c id ≠ none → id < x.engine.frames
  unborn : ∀ id, x.engine.frames ≤ id → keeper id x.notes = .nobody
  posts : ∀ th, Post registry (if th = x.engine.thread then amid else none)
    (x.engine.dispatchAt th registry) (x.engine.slots.get? th)
  frames : ∀ id, c id = some true → keeper id x.notes ≠ .frame
  threads : ∀ id th, c id ≠ none → keeper id x.notes = .thread th →
    (x.engine.dispatchAt th registry).activated = true ∧
      id ∈ (x.engine.dispatchAt th registry).muted
  heeded : Heeded x.notes

namespace Minds

variable {amid amid' : Option Bool} {c c' : Flags} {x : Meddled} {e : Engine} {d : Dispatch}
  {slot : Option TraceHook} {hooks : Meddlers}

theorem ready (h : Minds registry amid c x) : Ready registry x.engine := ⟨h.present, h.sole⟩

/-- How the running thread stands. -/
theorem here (h : Minds registry amid c x) :
    Post registry amid (x.engine.dispatchOf registry) x.engine.traceHook? := by
  have post := h.posts x.engine.thread
  rwa [if_pos rfl] at post

/-- **A change on the running thread.** Who keeps a frame afterwards did so before on another thread,
or has it among the muted frames now. -/
theorem become (h : Minds registry amid c x) (alters : Alters registry x.engine e d slot)
    (post : Post registry amid' d slot) {new : List Note} (quiet : ∀ note ∈ new, note.quiet = true)
    (young : ∀ id, c' id ≠ none → c id ≠ none)
    (unborn : ∀ id, x.engine.frames ≤ id → keeper id (new ++ x.notes) = .nobody)
    (frames : ∀ id, c' id = some true → keeper id (new ++ x.notes) ≠ .frame)
    (threads : ∀ id th, c' id ≠ none → keeper id (new ++ x.notes) = .thread th →
      (th ≠ x.engine.thread ∧ keeper id x.notes = .thread th) ∨
        (th = x.engine.thread ∧ d.activated = true ∧ id ∈ d.muted)) :
    Minds registry amid' c' ⟨e, new ++ x.notes⟩ := by
  refine ⟨?_, ?_, ?_, alters.sole h.sole, fun id live => ?_, fun id later => unborn id ?_,
    fun th => ?_, frames, fun id th live kept => ?_, h.heeded.append quiet⟩
  · rw [alters.registries]
    exact h.present
  · exact (backend_congr alters.registries registry).trans h.backend
  · rw [alters.facility]
    exact h.silent
  · rw [alters.frames]
    exact h.young id (young id live)
  · rwa [← alters.frames]
  · rw [alters.thread, alters.dispatch, alters.slots]
    by_cases this : th = x.engine.thread
    · rw [if_pos this, if_pos this, if_pos this]
      exact post
    · have there := h.posts th
      rw [if_neg this] at there
      rw [if_neg this, if_neg this, if_neg this]
      exact there
  · rw [alters.dispatch]
    rcases threads id th live kept with ⟨other, before⟩ | ⟨this, on, muted⟩
    · rw [if_neg other]
      exact h.threads id th (young id live) before
    · rw [if_pos this]
      exact ⟨on, muted⟩

/-- A change on the running thread that takes no frame from the muted ones, unless the profilers stop
listening. -/
theorem moved (h : Minds registry amid c x) (alters : Alters registry x.engine e d slot)
    (post : Post registry amid' d slot)
    (keeps : (x.engine.dispatchOf registry).activated = true → d.activated = true →
      ∀ id, c id ≠ none → id ∈ (x.engine.dispatchOf registry).muted → id ∈ d.muted) :
    Minds registry amid' c (x.moveTo registry e) := by
  have after : (e.dispatchAt x.engine.thread registry).activated = d.activated := by
    rw [alters.dispatch, if_pos rfl]
  refine h.become alters post (quiet_ceasing _ _) (fun _ => id) (fun id later => ?_)
    (fun id lit => ?_) fun id th live kept => ?_
  · rw [keeper_ceasing, h.unborn id later]
    exact ite_self _
  · rw [keeper_ceasing]
    split
    · simp
    · exact h.frames id lit
  · rw [keeper_ceasing, after] at kept
    split at kept
    · cases kept
    · rename_i stays
      by_cases this : th = x.engine.thread
      · subst this
        obtain ⟨on, muted⟩ := h.threads id _ live kept
        have on' : d.activated = true := by
          rw [← Bool.not_eq_false]
          exact fun off => stays ⟨kept, on, off⟩
        exact .inr ⟨rfl, on', keeps on on' id live muted⟩
      · exact .inl ⟨this, kept⟩

/-- Fewer frames are live. -/
theorem drop (h : Minds registry amid c x) (id : FrameId) : Minds registry amid (c.drop id) x := by
  have live : ∀ {i}, c.drop id i ≠ none → c.drop id i = c i ∧ c i ≠ none := by
    intro i live
    by_cases this : i = id
    · subst this
      exact absurd (Flags.drop_self c i) live
    · rw [Flags.drop_of_ne this] at live ⊢
      exact ⟨rfl, live⟩
  refine ⟨h.present, h.backend, h.silent, h.sole, fun i lives => h.young i (live lives).2, h.unborn,
    h.posts, fun i lit => h.frames i ?_, fun i th lives => h.threads i th (live lives).2, h.heeded⟩
  rw [← (live (by rw [lit]; simp)).1]
  exact lit

/-! ## Switching -/

/-- **Switching profilers** on the running thread, whatever hook is running. -/
theorem turned (h : Minds registry amid c x) (turns : SlotWraps.Turns registry x.engine e) :
    Minds registry amid c (x.moveTo registry e) := by
  have here := h.here
  obtain ⟨d, slot, alters, shifts⟩ := Alters.turns turns
  cases shifts with
  | same => exact h.moved alters here fun _ _ _ _ => id
  | counts on listening somebody =>
    exact h.moved alters (here.counts listening somebody) fun _ _ _ _ => id
  | starts on serial off somebody =>
    refine h.moved alters ⟨here.busy, ?_, fun off => ?_, fun _ => ?_, fun _ => ?_⟩ fun on => ?_
    · exact (Dispatch.isActive_iff_ne_nil.mpr somebody).symm
    · cases off
    · exact ⟨⟨_, rfl⟩, rfl, here.off off, .inl rfl⟩
    · cases amid with
      | none => exact .inl rfl
      | some passed =>
        cases passed with
        | false => exact rfl
        | true => trivial
    · rw [off] at on
      cases on
  | stops listening =>
    refine h.moved alters ⟨here.busy, rfl, fun _ => ?_, fun on => ?_, fun on => ?_⟩ fun _ on => ?_
    · rw [(here.on listening).saved]
      exact (here.on listening).wrapped
    · cases on
    · cases on
    · cases on

theorem frames_turned (turns : SlotWraps.Turns registry x.engine e) :
    e.frames = x.engine.frames := by cases turns <;> rfl

end Minds

end LineClock

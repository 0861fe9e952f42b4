import LineClock.Proofs.Engine.Passing
import LineClock.Proofs.Engine.Recording
import LineClock.Proofs.Engine.SlotEvent

/-!
# What events tell profilers

An event brings `Tidings`, which every profiler that is on books in its own tally. How a registry
listens does not matter to that.

Main statements: `Scene.profiler_hear` and `Scene.profiler_hearEvent`, and `Engine.Books` for what
several registries make of one event.
-/

namespace LineClock

open Machine Engine

/-- What an event tells a profiler. -/
inductive Tidings where
  | starts (block : BlockHash) (line : UInt32)
  | left (block : BlockHash)
  | nothing

/-- What a profiler makes of it. -/
def Tidings.book (t : Tidings) (th : ThreadKey) (now : Counter) (p : Profiler) : Profiler :=
  match t with
  | .starts block line => p.lineStarts th block line now
  | .left block => p.blockLeft th block now
  | .nothing => p

/-- What a trace event tells. -/
def TraceEvent.tidings (frame : Frame) : TraceEvent → Tidings
  | .line => .starts frame.block.identity frame.line
  | .ret => .left frame.block.identity
  | .call | .exception => .nothing

/-- What a monitoring event tells. -/
def MonitorEvent.tidings (event : MonitorEvent) : Tidings :=
  match event.kind with
  | .line => .starts event.block.identity event.line
  | .ret | .yield | .unwind => .left event.block.identity
  | .start | .raise | .reraise => .nothing

/-- Only the tally changes. -/
theorem Tidings.book_bare (t : Tidings) (th : ThreadKey) (now : Counter) (p : Profiler) :
    (t.book th now p).bare = p.bare := by
  cases t with
  | starts block line => exact p.bare_lineStarts th block line now
  | left block => exact p.bare_blockLeft th block now
  | nothing => rfl

namespace Scene

variable {s : Scene}

/-- **A trace event** is booked by every profiler that is on. -/
theorem profiler_hear (once : (s.here.map Prod.fst).Nodup) (frame : Frame) (event : TraceEvent)
    (p : ProfilerId) :
    (s.hear frame event).profiler p =
      if s.isOn p then (event.tidings frame).book s.thread (s.time p) (s.profiler p)
      else s.profiler p := by
  cases event with
  | line => exact profiler_recordLine once _ _ p
  | ret => exact profiler_recordExit once _ p
  | call | exception => exact (ite_self _).symm

/-- **A monitoring event** is booked by every profiler that is on. -/
theorem profiler_hearEvent (once : (s.here.map Prod.fst).Nodup) (event : MonitorEvent)
    (p : ProfilerId) :
    (s.hearEvent event).profiler p =
      if s.isOn p then event.tidings.book s.thread (s.time p) (s.profiler p) else s.profiler p := by
  obtain ⟨kind, block, offset, line⟩ := event
  cases kind with
  | line => exact profiler_recordLine once _ _ p
  | ret | yield | unwind => exact profiler_recordExit once _ p
  | start | raise | reraise => exact (ite_self _).symm

end Scene

namespace Engine

/-- The profilers for which `on` holds book the tidings. -/
def Books (t : Tidings) (on : ProfilerId → Bool) (e e' : Engine) : Prop :=
  ∀ p, e'.profiler p =
    if on p then t.book e.thread (e.now (e.profiler p)) (e.profiler p) else e.profiler p

variable {t : Tidings} {on on' : ProfilerId → Bool} {e e' e'' : Engine} {registry : RegistryId}

/-- Nobody is on. -/
theorem Books.nobody (none : ∀ p, on p = false) (same : e'.profilers = e.profilers) :
    Books t on e e' := by
  intro p
  rw [none, Engine.profiler, same]
  rfl

/-- Nothing changes for profilers afterwards. -/
theorem Books.same (books : Books t on e e') (same : e''.profilers = e'.profilers) :
    Books t on e e'' := by
  intro p
  rw [profiler_congr same]
  exact books p

/-- Who was on is settled. -/
theorem Books.congr (books : Books t on e e') (same : ∀ p, on p = on' p) : Books t on' e e' := by
  intro p
  rw [← same]
  exact books p

/-- Nothing is told. -/
theorem Books.nothing (same : e'.profilers = e.profilers) (on : ProfilerId → Bool) :
    Books .nothing on e e' := by
  intro p
  rw [Engine.profiler, same]
  exact (ite_self _).symm

/-- Others book the same tidings. -/
theorem Books.trans (books : Books t on e e') (books' : Books t on' e' e'')
    (thread : e'.thread = e.thread) (clock : e'.clock = e.clock)
    (apart : ∀ p, on p = true → on' p = false) : Books t (fun p => on p || on' p) e e'' := by
  intro p
  show _ = if (on p || on' p) = true then _ else _
  rw [books' p]
  cases here : on p with
  | true =>
    rw [apart p here, books p, here]
    rfl
  | false =>
    have same : e'.profiler p = e.profiler p := by
      rw [books p, here]
      rfl
    have now : e'.now (e.profiler p) = e.now (e.profiler p) := by
      unfold Engine.now
      rw [clock]
    rw [same, thread, now, Bool.false_or]

/-- Only tallies change. -/
theorem Books.bare (books : Books t on e e') (p : ProfilerId) :
    (e'.profiler p).bare = (e.profiler p).bare := by
  rw [books p]
  split
  · exact t.book_bare _ _ _
  · rfl

theorem Books.wrap (books : Books t on e e') (p : ProfilerId) :
    (e'.profiler p).wrap = (e.profiler p).wrap := by
  have same := congrArg Profiler.wrap (books.bare p)
  exact same

theorem now_scene (registry : RegistryId) (e : Engine) (p : Profiler) :
    (e.scene registry).now p = e.now p := by
  unfold Scene.now Engine.now
  cases p.clock <;> rfl

/-- A trace event is booked by the profilers of a registry that are on. -/
theorem books_heard (once : ((e.dispatchOf registry).active.map Prod.fst).Nodup) (frame : Frame)
    (event : TraceEvent) :
    Books (event.tidings frame) (e.dispatchOf registry).isOn e (heard registry e frame event) := by
  intro p
  have scene := congrArg (Scene.profiler · p) (heard_scene registry e frame event)
  have told := Scene.profiler_hear (s := e.scene registry) once frame event p
  refine Eq.trans scene (told.trans ?_)
  unfold Scene.time
  rw [now_scene]
  rfl

/-- A monitoring event is booked by the profilers of a registry that are on. -/
theorem books_recorded (once : ((e.dispatchOf registry).active.map Prod.fst).Nodup)
    (event : MonitorEvent) :
    Books event.tidings (e.dispatchOf registry).isOn e (recorded registry e event) := by
  intro p
  have scene := congrArg (Scene.profiler · p) (scene_hearEvent registry e event)
  have told := Scene.profiler_hearEvent (s := e.scene registry) once event p
  refine Eq.trans scene (told.trans ?_)
  unfold Scene.time
  rw [now_scene]
  rfl

/-- An event goes on where somebody is on and everybody wraps. -/
theorem wantsWrap_of_all {d : Dispatch} (known : e.dispatchOf registry = d) (somebody : d.active ≠ [])
    (wraps : ∀ p, d.isOn p = true → (e.profiler p).wrap = true) : e.wantsWrap registry = true := by
  unfold Engine.wantsWrap
  rw [known]
  cases here : d.active with
  | nil => exact absurd here somebody
  | cons a rest =>
    have on : d.isOn a.1 = true := by
      unfold Dispatch.isOn
      rw [here]
      simp
    rw [List.any_cons, wraps a.1 on]
    rfl

end Engine

end LineClock

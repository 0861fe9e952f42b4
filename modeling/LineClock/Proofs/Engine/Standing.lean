import LineClock.Proofs.Engine.Recording
import LineClock.Proofs.Engine.Switching
import LineClock.Proofs.Machine.Clearing

/-!
# Lines that are left running

While a profiler is on it may have running lines, on the thread, of the blocks that have frames there.
What recording and switching make of this is said once for all ways in which a registry listens. A
registry whose hook is gone hears no more, and nothing may be left running then.

Main statements: `Scene.Runs.recordExit` and its companions, and `Earshot.enter`.
-/

namespace LineClock

open Machine Engine

namespace Scene

/-- A profiler on a thread, and the routines of the machine. -/
structure Post where
  profiler : ProfilerId
  thread : ThreadKey
  routines : Assoc RoutineId Routine

variable {registry : RegistryId} {post : Post} {c c' : List BlockHash} {n : Nat} {s : Scene}

/-- On the running thread a profiler is on at least `n` times, and no lines are running but those of
blocks in `c`. -/
structure Runs (post : Post) (c : List BlockHash) (n : Nat) (s : Scene) : Prop where
  thread : s.thread = post.thread
  routines : s.routines = post.routines
  fair : Fair s.here
  on : 0 < n
  often : n ≤ s.count post.profiler
  watched : ∀ block, s.mark post.profiler post.thread block ≠ none →
    (s.profiler post.profiler).watches block = true
  within : ∀ block, s.mark post.profiler post.thread block ≠ none → block ∈ c

namespace Runs

theorem weaken (h : s.Runs post c n) (sub : ∀ block ∈ c, block ∈ c') :
    s.Runs post c' n :=
  { h with within := fun block running => sub block (h.within block running) }

theorem isOn (h : s.Runs post c n) : s.isOn post.profiler = true := by
  rw [← Bool.not_eq_false]
  intro off
  have none : s.count post.profiler = 0 := Dispatch.countOf_of_not_isOn off
  have := h.on
  have := h.often
  omega

/-- Nobody is switched, and what runs is changed as a profiler records. -/
theorem recorded (h : s.Runs post c n) {s' : Scene} (thread : s'.thread = s.thread)
    (here : s'.here = s.here) (routines : s'.routines = s.routines)
    (watched : ∀ block,
      (s'.profiler post.profiler).watches block = (s.profiler post.profiler).watches block)
    (marks : ∀ block, s'.mark post.profiler post.thread block ≠ none →
      (s.profiler post.profiler).watches block = true ∧ block ∈ c') : s'.Runs post c' n where
  thread := thread.trans h.thread
  routines := routines.trans h.routines
  fair := by
    rw [here]
    exact h.fair
  on := h.on
  often := by
    unfold count
    rw [here]
    exact h.often
  watched block running := (watched block).trans (marks block running).1
  within block running := (marks block running).2

/-- A line starts of a block that has a frame. -/
theorem recordLine (h : s.Runs post c n) {block : BlockHash} (mem : block ∈ c)
    (line : UInt32) : (s.recordLine block line).Runs post c n := by
  refine h.recorded rfl rfl rfl (watches_recordLine h.fair.once block line _) fun b running => ?_
  rw [mark_recordLine h.fair.once] at running
  split at running
  · rename_i hears
    obtain ⟨hears, -, rfl⟩ := hears
    have watched : (s.isOn post.profiler && (s.profiler post.profiler).watches block) = true := hears
    exact ⟨(Bool.and_eq_true _ _ ▸ watched).2, mem⟩
  · exact ⟨h.watched b running, h.within b running⟩

/-- No line of a block runs once it was left. -/
theorem recordExit {block : BlockHash} (h : s.Runs post (block :: c) n) :
    (s.recordExit block).Runs post c n := by
  refine h.recorded rfl rfl rfl (watches_recordExit h.fair.once block _) fun b running => ?_
  rw [mark_recordExit h.fair.once] at running
  split at running
  · exact absurd rfl running
  · rename_i other
    have watched := h.watched b running
    refine ⟨watched, ?_⟩
    rcases List.mem_cons.mp (h.within b running) with rfl | mem
    · have hears : s.hears post.profiler b = true := by
        unfold hears
        rw [h.isOn, watched]
        rfl
      exact absurd ⟨hears, h.thread, rfl⟩ other
    · exact mem

/-- Nothing runs on the thread once all that is pending there was dropped. -/
theorem forgetPending (h : s.Runs post c n) :
    s.forgetPending.Runs post [] n := by
  have forgotten : s.forgetPending.profiler post.profiler =
      { s.profiler post.profiler with
        tally := (s.profiler post.profiler).tally.forgetThread s.thread } := by
    unfold Scene.forgetPending
    rw [profiler_update h.fair.once rfl post.profiler, if_pos h.isOn]
  refine h.recorded rfl rfl rfl (fun b => ?_) fun b running => ?_
  · rw [forgotten]
    rfl
  · unfold mark at running
    rw [forgotten, Tally.mark?_forgetThread, if_pos h.thread] at running
    exact absurd rfl running

/-- A trace event, which is that of a line only for a block that has a frame. -/
theorem hear (h : s.Runs post c n) (frame : Frame) (event : TraceEvent)
    (own : event = .line → frame.block.identity ∈ c) : (s.hear frame event).Runs post c n := by
  cases event with
  | line => exact h.recordLine (own rfl) _
  | ret => exact (h.weaken fun _ mem => List.mem_cons_of_mem _ mem).recordExit
  | call | exception => exact h

/-- A monitoring event, which is that of a line only for a block that has a frame. -/
theorem hearEvent (h : s.Runs post c n) (event : MonitorEvent)
    (own : event.kind = .line → event.block.identity ∈ c) :
    (s.hearEvent event).Runs post c n := by
  obtain ⟨kind, block, offset, line⟩ := event
  cases kind with
  | line => exact h.recordLine (own rfl) _
  | ret | yield | unwind => exact (h.weaken fun _ mem => List.mem_cons_of_mem _ mem).recordExit
  | start | raise | reraise => exact h

/-- A monitoring event that a frame is left. -/
theorem hearEvent_left {event : MonitorEvent} (h : s.Runs post (event.block.identity :: c) n)
    (left : event.kind ∈ [.ret, .yield, .unwind]) : (s.hearEvent event).Runs post c n := by
  obtain ⟨kind, block, offset, line⟩ := event
  simp only [List.mem_cons, List.not_mem_nil, or_false] at left
  rcases left with rfl | rfl | rfl <;> exact h.recordExit

theorem withClock (h : s.Runs post c n) (clock : Counter) :
    (s.withClock clock).Runs post c n := ⟨h.thread, h.routines, h.fair,
    h.on, h.often, h.watched, h.within⟩

theorem addFrame (h : s.Runs post c n) : s.addFrame.Runs post c n :=
  ⟨h.thread, h.routines, h.fair, h.on, h.often, h.watched, h.within⟩

/-- Other counts, and other numbers of times that are known. -/
theorem counted (h : s.Runs post c n) {s' : Scene} {n' : Nat} (thread : s'.thread = s.thread)
    (routines : s'.routines = s.routines) (profilers : s'.profilers = s.profilers)
    (fair : Fair s'.here) (on : 0 < n') (often : n' ≤ s'.count post.profiler) :
    s'.Runs post c n' := by
  have same : s'.profiler post.profiler = s.profiler post.profiler := by
    unfold profiler
    rw [profilers]
  refine ⟨thread.trans h.thread, routines.trans h.routines, fair, on, often, fun b running => ?_,
    fun b running => ?_⟩
  · unfold mark at running
    rw [same] at running ⊢
    exact h.watched b running
  · unfold mark at running
    rw [same] at running
    exact h.within b running

/-- Switching a profiler on once more. -/
theorem raise (h : s.Runs post c n) (q : ProfilerId) :
    (s.raise q).Runs post c (if q = post.profiler then n + 1 else n) := by
  have on := h.on
  have often := h.often
  refine h.counted rfl rfl rfl ?_ (by split <;> omega) ?_
  · unfold Scene.raise
    rw [switch_here]
    exact h.fair.raise q
  · rw [count_raise]
    split <;> omega

/-- Undoing one switching on. -/
theorem lower (q : ProfilerId) (on : 0 < n)
    (h : s.Runs post c (if q = post.profiler then n + 1 else n)) :
    (s.lower q).Runs post c n := by
  have often := h.often
  have same : (s.lower q).thread = s.thread ∧ (s.lower q).routines = s.routines ∧
      (s.lower q).profilers = s.profilers := by
    rw [lower_eq]
    exact ⟨rfl, rfl, rfl⟩
  refine h.counted same.1 same.2.1 same.2.2 ?_ on ?_
  · unfold Scene.lower
    simp only
    split
    · rw [switch_here]
      exact h.fair.lower q _
    · exact h.fair
  · rw [count_lower]
    split at often <;> rename_i this
    · rw [if_pos this]
      omega
    · rw [if_neg this]
      exact often

/-- Nothing is pending where no line runs. -/
theorem pendingOn (h : s.Runs post [] n) : (s.profiler post.profiler).tally.pendingOn post.thread = [] := by
  refine Tally.pendingOn_eq_nil fun b => Decidable.byContradiction fun running => ?_
  cases h.within b running

end Runs

end Scene

/-! ## Within earshot -/

/-- A way in which a registry listens on the running thread, or is deaf. -/
structure Earshot (registry : RegistryId) (L : Bool → Engine → Prop) : Prop where
  withActive : ∀ {deaf e}, L deaf e → ∀ on : List (ProfilerId × Nat),
    L deaf (e.withDispatch registry { e.dispatchOf registry with active := on })
  passing : ∀ {deaf e}, L deaf e → ∀ clock frames, L deaf { e with clock, frames }

namespace Earshot

variable {σ : Type} {s : Scripts σ} {registry : RegistryId} {L : Bool → Engine → Prop}
  {post : Scene.Post} {c : List BlockHash} {n : Nat} {x : σ}

/-- The registry listens, and lines of blocks in `c` at most are running, or it is deaf and none is. -/
def Leaves (s : Scripts σ) (registry : RegistryId) (L : Bool → Engine → Prop) (post : Scene.Post)
    (c : List BlockHash) (n : Nat) (x : σ) : Prop :=
  ∃ deaf, L deaf (s.engine x) ∧
    ((s.engine x).scene registry).Runs post (if deaf then [] else c) n

theorem weaken {c' : List BlockHash} (h : Leaves s registry L post c n x)
    (sub : ∀ block ∈ c, block ∈ c') : Leaves s registry L post c' n x := by
  obtain ⟨deaf, there, runs⟩ := h
  refine ⟨deaf, there, runs.weaken ?_⟩
  cases deaf with
  | true => exact fun _ mem => mem
  | false => exact sub

theorem newFrame (earshot : Earshot registry L) (get_put : ∀ x e, s.engine (s.withEngine x e) = e)
    (h : Leaves s registry L post c n x) : Leaves s registry L post c n (s.host.newFrame x).2 := by
  obtain ⟨deaf, there, runs⟩ := h
  have made : s.engine (s.host.newFrame x).2 =
    { s.engine x with frames := (s.engine x).frames + 1 } := get_put _ _
  refine ⟨deaf, ?_, ?_⟩
  · rw [made]
    exact earshot.passing there (s.engine x).clock _
  · rw [made]
    exact runs.addFrame

theorem work (earshot : Earshot registry L) (get_put : ∀ x e, s.engine (s.withEngine x e) = e)
    (h : Leaves s registry L post c n x) (units : UInt8) :
    Leaves s registry L post c n (s.host.work units x).2 := by
  obtain ⟨deaf, there, runs⟩ := h
  have spent : s.engine (s.host.work units x).2 = (s.engine x).withClock
    ((s.engine x).clock.satAdd (units.toUInt64 * Scripts.ticksPerUnit)) := get_put _ _
  refine ⟨deaf, ?_, ?_⟩
  · rw [spent]
    exact earshot.passing there _ (s.engine x).frames
  · rw [spent, scene_withClock]
    exact runs.withClock _

/-- Where a profiler is on, the registry is active. -/
theorem active_of_runs {e : Engine} (runs : (e.scene registry).Runs post c n) :
    (e.dispatchOf registry).isActive = true :=
  Dispatch.isActive_of_isOn (d := e.dispatchOf registry) runs.isOn

/-- Switching a profiler on where one is on. -/
theorem enable (earshot : Earshot registry L) {deaf : Bool} {e : Engine} (h : L deaf e)
    (runs : (e.scene registry).Runs post c n) (q : ProfilerId) :
    ∃ e' k, answer (Engine.enable registry q) e = (.ok k, e') ∧ L deaf e' ∧
      (e'.scene registry).Runs post c (if q = post.profiler then n + 1 else n) := by
  have raised := earshot.withActive h ((e.dispatchOf registry).raise q).active
  rw [← Dispatch.raise_eq] at raised
  refine ⟨_, _, answer_enable_active (active_of_runs runs) q, raised, ?_⟩
  rw [scene_withDispatch, Dispatch.active_raise]
  exact runs.raise q

/-- Undoing one switching on where the profiler stays on. -/
theorem disable (earshot : Earshot registry L) {deaf : Bool} {e : Engine} (h : L deaf e)
    (q : ProfilerId) (on : 0 < n)
    (runs : (e.scene registry).Runs post c (if q = post.profiler then n + 1 else n)) :
    ∃ e' k, answer (Engine.disable registry q) e = (.ok k, e') ∧ L deaf e' ∧
      (e'.scene registry).Runs post c n := by
  have lowered := Scene.Runs.lower q on runs
  cases here : (e.dispatchOf registry).isOn q with
  | true =>
    let d := (e.dispatchOf registry).lower q ((e.dispatchOf registry).countOf q - 1)
    have scene : (e.withDispatch registry d).scene registry = (e.scene registry).lower q := by
      rw [scene_withDispatch, Dispatch.active_lower]
      exact (if_pos here).symm
    have there := earshot.withActive h d.active
    rw [← scene] at lowered
    have still := active_of_runs lowered
    rw [withDispatch_dispatchOf] at still
    rw [← Dispatch.lower_eq] at there
    exact ⟨_, _, answer_disable_active here still, there, lowered⟩
  | false =>
    have same : (e.scene registry).lower q = e.scene registry := if_neg ((Bool.not_eq_true _).mpr here)
    rw [same] at lowered
    exact ⟨e, 0, answer_lower_off here _, h, lowered⟩

/-- The scope of a routine is entered, and leaving it leads back. -/
theorem enter (earshot : Earshot registry L) (get_put : ∀ x e, s.engine (s.withEngine x e) = e)
    (own : ∀ id scope, (post.routines.getD id { slot := id }).scope = some scope →
      scope.registry = registry)
    (h : Leaves s registry L post c n x) (routine : RoutineId) :
    match answer (s.host.enter routine) x with
    | (.ok _, x') => ∃ n', Leaves s registry L post c n' x' ∧
        ∀ {x}, Leaves s registry L post c n' x →
          Leaves s registry L post c n (s.host.leave routine x).2
    | (.error _, x') => Leaves s registry L post c n x' := by
  have known : ∀ {x k m}, ((s.engine x).scene registry).Runs post k m →
      (s.engine x).routine routine = post.routines.getD routine { slot := routine } := by
    intro x k m runs
    rw [← runs.routines]
    rfl
  obtain ⟨deaf, there, runs⟩ := h
  rw [Scripts.answer_enter, known runs]
  cases found : (post.routines.getD routine { slot := routine }).scope with
  | none =>
    refine ⟨n, ⟨deaf, there, runs⟩, ?_⟩
    rintro y ⟨deaf, there, runs⟩
    rw [Scripts.host_leave, known runs, found]
    exact ⟨deaf, there, runs⟩
  | some scope =>
    obtain ⟨e', k, enabled, there', runs'⟩ := earshot.enable there runs scope.profiler
    simp only
    rw [own routine scope found, enabled]
    refine ⟨if scope.profiler = post.profiler then n + 1 else n, ⟨deaf, ?_, ?_⟩, ?_⟩
    · rw [get_put]
      exact there'
    · rw [get_put]
      exact runs'
    · rintro y ⟨deaf, there, raised⟩
      obtain ⟨e', k, disabled, there', runs'⟩ := earshot.disable there scope.profiler runs.on raised
      rw [Scripts.host_leave, known raised, found]
      simp only
      rw [own routine scope found, disabled]
      refine ⟨deaf, ?_, ?_⟩
      · rw [get_put]
        exact there'
      · rw [get_put]
        exact runs'

end Earshot

end LineClock

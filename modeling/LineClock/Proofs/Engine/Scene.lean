import LineClock.Engine.Host
import LineClock.Engine.Watch
import LineClock.Proofs.Machine.Outcome
import LineClock.Proofs.Profiler.Watch

/-!
# Scenes

A `Scene` is what profilers of one registry have to do with: the clock, the code, who is on where,
and the profilers themselves. How the registry listens is not part of it. Recording and switching
are functions of scenes here; `Engine.scene` reads the scene off an engine.
-/

namespace LineClock

/-- An engine without the means by which a registry listens. -/
structure Scene where
  clock : Counter
  blocks : Nat
  frames : Nat
  code : Assoc RoutineId Block
  routines : Assoc RoutineId Routine
  /-- The thread that runs. -/
  thread : ThreadKey
  profilers : Assoc ProfilerId Profiler
  files : Files
  padding : Padding
  /-- Whether profilers wrap, if they do not say. -/
  wrap : Bool
  /-- The profilers that are on with their counts, for each thread. -/
  active : ThreadKey → List (ProfilerId × Nat)

namespace Scene

variable (s : Scene)

/-- The profilers that are on on the running thread. -/
def here : List (ProfilerId × Nat) := s.active s.thread

/-- Whether a profiler is on on the running thread. -/
def isOn (p : ProfilerId) : Bool := ({ active := s.here } : Dispatch).isOn p

/-- How often a profiler is switched on on the running thread. -/
def count (p : ProfilerId) : Nat := ({ active := s.here } : Dispatch).countOf p

/-- The profiler with a given number. -/
def profiler (p : ProfilerId) : Profiler := s.profilers.getD p default

/-- The routine with a given number. -/
def routine (id : RoutineId) : Routine := s.routines.getD id { slot := id }

/-- The block a routine would run now. -/
def codeOf (id : RoutineId) : Block := s.code.getD (s.routine id).slot default

/-- What a profiler's clock shows. -/
def now (p : Profiler) : Counter :=
  match p.clock with
  | .shared => s.clock
  | .frozen => 0

/-- Change every profiler that is on on the running thread. -/
def update (f : Profiler → Profiler) : Scene :=
  { s with profilers := s.here.foldl (fun ps a => ps.modify a.1 f) s.profilers }

/-- A line of a block starts. -/
def recordLine (block : BlockHash) (line : UInt32) : Scene :=
  s.update fun p => p.lineStarts s.thread block line (s.now p)

/-- A block is left. -/
def recordExit (block : BlockHash) : Scene :=
  s.update fun p => p.blockLeft s.thread block (s.now p)

/-- What a trace event changes. -/
def hear (frame : Frame) : TraceEvent → Scene
  | .line => s.recordLine frame.block.identity frame.line
  | .ret => s.recordExit frame.block.identity
  | .call | .exception => s

/-- What a monitoring event changes. -/
def hearEvent (event : MonitorEvent) : Scene :=
  match event.kind with
  | .line => s.recordLine event.block.identity event.line
  | .ret | .yield | .unwind => s.recordExit event.block.identity
  | .start | .raise | .reraise => s

/-- Drop all that is pending on the running thread. -/
def forgetPending : Scene :=
  s.update fun p => { p with tally := p.tally.forgetThread s.thread }

/-- Change who is on on the running thread. -/
def switch (on : List (ProfilerId × Nat)) : Scene :=
  { s with active := fun th => if th = s.thread then on else s.active th }

/-- Switch a profiler on once more. -/
def raise (p : ProfilerId) : Scene := s.switch (({ active := s.here } : Dispatch).raise p).active

/-- Undo one switching on. -/
def lower (p : ProfilerId) : Scene :=
  let d : Dispatch := { active := s.here }
  if d.isOn p then s.switch (d.lower p (d.countOf p - 1)).active else s

/-- Set how often a profiler is on to `left` of what it is. -/
def cut (p : ProfilerId) (left : Nat → Nat) : Scene :=
  let d : Dispatch := { active := s.here }
  if d.isOn p then s.switch (d.lower p (left (d.countOf p))).active else s

/-- Enter the scope of a routine. -/
def enterScope (id : RoutineId) : Scene :=
  match (s.routine id).scope with
  | none => s
  | some scope => s.raise scope.profiler

/-- Leave the scope of a routine. -/
def leaveScope (id : RoutineId) : Scene :=
  match (s.routine id).scope with
  | none => s
  | some scope => s.lower scope.profiler

/-- All profilers are of one registry, and all wrappers switch profilers of that registry. Profilers
are numbered in the order in which they were made. -/
structure Sole (registry : RegistryId) : Prop where
  profilers : ∀ id, (s.profiler id).registry = registry
  wrappers : ∀ id scope, (s.routine id).scope = some scope → scope.registry = registry
  numbered : s.profilers.keys = List.range s.profilers.entries.length

/-- Set the clock. -/
def withClock (clock : Counter) : Scene := { s with clock }

/-- Spend ticks. -/
def spend (ticks : Counter) : Scene := s.withClock (s.clock.satAdd ticks)

/-- Count one more frame. -/
def addFrame : Scene := { s with frames := s.frames + 1 }

theorem withClock_frames (clock : Counter) : (s.withClock clock).frames = s.frames := rfl

@[simp] theorem spend_frames (ticks : Counter) : (s.spend ticks).frames = s.frames :=
  s.withClock_frames _

/-- Switching changes nothing but who is on, and so do scopes. -/
theorem raise_eq (p : ProfilerId) : s.raise p = { s with active := (s.raise p).active } := rfl

theorem lower_eq (p : ProfilerId) : s.lower p = { s with active := (s.lower p).active } := by
  unfold lower
  simp only
  split <;> rfl

theorem enterScope_eq (id : RoutineId) :
    s.enterScope id = { s with active := (s.enterScope id).active } := by
  unfold enterScope
  split <;> rfl

theorem leaveScope_eq (id : RoutineId) :
    s.leaveScope id = { s with active := (s.leaveScope id).active } := by
  unfold leaveScope
  split
  · rfl
  · exact s.lower_eq _

@[simp] theorem enterScope_frames (id : RoutineId) : (s.enterScope id).frames = s.frames := by
  rw [enterScope_eq]

@[simp] theorem leaveScope_frames (id : RoutineId) : (s.leaveScope id).frames = s.frames := by
  rw [leaveScope_eq]

theorem lower_profiler (p q : ProfilerId) : (s.lower p).profiler q = s.profiler q := by
  rw [lower_eq]
  rfl

@[simp] theorem enterScope_profiler (id : RoutineId) (p : ProfilerId) :
    (s.enterScope id).profiler p = s.profiler p := by
  rw [enterScope_eq]
  rfl

@[simp] theorem leaveScope_profiler (id : RoutineId) (p : ProfilerId) :
    (s.leaveScope id).profiler p = s.profiler p := by
  rw [leaveScope_eq]
  rfl

@[simp] theorem update_here (f : Profiler → Profiler) : (s.update f).here = s.here := rfl

/-- Where nobody is on, nothing changes. -/
theorem update_nobody {s : Scene} (h : s.here = []) (f : Profiler → Profiler) : s.update f = s := by
  unfold update
  rw [h]
  rfl

theorem hear_nobody {s : Scene} (h : s.here = []) (frame : Frame) (event : TraceEvent) :
    s.hear frame event = s := by
  cases event with
  | line | ret => exact update_nobody h _
  | call | exception => rfl

theorem hearEvent_nobody {s : Scene} (h : s.here = []) (event : MonitorEvent) :
    s.hearEvent event = s := by
  obtain ⟨kind, block, offset, line⟩ := event
  cases kind with
  | line | ret | yield | unwind => exact update_nobody h _
  | start | raise | reraise => rfl

/-- Where nobody is on, nobody is switched off. -/
theorem lower_nobody {s : Scene} (h : s.here = []) (p : ProfilerId) : s.lower p = s := by
  unfold lower
  rw [h]
  rfl

theorem leaveScope_nobody {s : Scene} (h : s.here = []) (id : RoutineId) : s.leaveScope id = s := by
  unfold leaveScope
  split
  · rfl
  · exact lower_nobody h _

/-- Profilers make nothing of events of other kinds. -/
theorem hearEvent_other {event : MonitorEvent} (h : event.kind ∉ ourKinds) :
    s.hearEvent event = s := by
  obtain ⟨kind, block, offset, line⟩ := event
  cases kind with
  | start => rfl
  | line | ret | yield | raise | reraise | unwind => exact absurd (by simp [ourKinds]) h

@[simp] theorem switch_here (on : List (ProfilerId × Nat)) : (s.switch on).here = on := by
  simp [here, switch]

theorem switch_active_ne (on : List (ProfilerId × Nat)) {th : ThreadKey} (h : th ≠ s.thread) :
    (s.switch on).active th = s.active th := by
  simp [switch, h]

@[simp] theorem switch_switch (on off : List (ProfilerId × Nat)) :
    (s.switch on).switch off = s.switch off := by
  unfold switch
  congr 1
  funext th
  by_cases h : th = s.thread
  · simp [h]
  · simp [h]

/-- Putting back who was on. -/
theorem switch_self : s.switch s.here = s := by
  have same : (fun th => if th = s.thread then s.here else s.active th) = s.active := by
    funext th
    split
    · rename_i h
      rw [h]
      rfl
    · rfl
  simp only [switch, same]

end Scene

namespace Scene.Sole

variable {registry : RegistryId} {s : Scene}

/-- One more routine that is no wrapper for another registry. -/
theorem addRoutine (h : s.Sole registry) (id : RoutineId) {r : Routine}
    (wraps : ∀ scope, r.scope = some scope → scope.registry = registry)
    (code : Assoc RoutineId Block) :
    ({ s with routines := s.routines.set id r, code } : Scene).Sole registry := by
  refine ⟨h.profilers, fun id' scope found => ?_, h.numbered⟩
  unfold Scene.routine at found
  simp only [Assoc.getD_set] at found
  split at found
  · exact wraps scope found
  · exact h.wrappers id' scope found

/-- The number of the next profiler is not taken. -/
theorem next_free (h : s.Sole registry) : s.profilers.get? s.profilers.entries.length = none := by
  rw [Assoc.get?_eq_none_iff, h.numbered, List.mem_range]
  exact Nat.lt_irrefl _

/-- One more profiler of the registry. -/
theorem addProfiler (h : s.Sole registry) {p : Profiler} (own : p.registry = registry) :
    ({ s with profilers := s.profilers.set s.profilers.entries.length p } : Scene).Sole registry := by
  refine ⟨fun id' => ?_, h.wrappers, ?_⟩
  · unfold Scene.profiler
    simp only [Assoc.getD_set]
    split
    · exact own
    · exact h.profilers id'
  · have keys := Assoc.keys_set_of_get?_none h.next_free p
    have length : (s.profilers.set s.profilers.entries.length p).entries.length =
        s.profilers.entries.length + 1 := by
      have counted := congrArg List.length keys
      unfold Assoc.keys at counted
      simpa using counted
    rw [keys, length, h.numbered, List.range_succ]

/-- A profiler changed without moving it to another registry. -/
theorem modifyProfiler (h : s.Sole registry) (id : ProfilerId) {f : Profiler → Profiler}
    (own : ∀ p, p.registry = registry → (f p).registry = registry) :
    ({ s with profilers := s.profilers.modify id f } : Scene).Sole registry := by
  refine ⟨fun id' => ?_, h.wrappers, ?_⟩
  · have old := h.profilers id'
    unfold Scene.profiler at old ⊢
    simp only [Assoc.getD_modify]
    split
    · exact own _ old
    · exact old
  · have length : (s.profilers.modify id f).entries.length = s.profilers.entries.length := by
      have counted := congrArg List.length (Assoc.keys_modify s.profilers id f)
      unfold Assoc.keys at counted
      simpa using counted
    rw [Assoc.keys_modify, length, h.numbered]

/-- Changing profilers without moving them to another registry. -/
theorem update (h : s.Sole registry) {f : Profiler → Profiler}
    (hf : ∀ p, (f p).registry = p.registry) : (s.update f).Sole registry := by
  have all : ∀ (on : List (ProfilerId × Nat)) (s : Scene), s.Sole registry →
      ({ s with profilers := on.foldl (fun ps a => ps.modify a.1 f) s.profilers } : Scene).Sole
        registry := by
    intro on
    induction on with
    | nil => exact fun _ h => h
    | cons a rest ih => exact fun s h => ih _ (h.modifyProfiler a.1 fun p own => (hf p).trans own)
  exact all s.here s h

theorem recordLine (h : s.Sole registry) (block : BlockHash) (line : UInt32) :
    (s.recordLine block line).Sole registry :=
  h.update fun p => p.registry_lineStarts _ _ _ _

theorem recordExit (h : s.Sole registry) (block : BlockHash) :
    (s.recordExit block).Sole registry :=
  h.update fun p => p.registry_blockLeft _ _ _

theorem hear (h : s.Sole registry) (frame : Frame) (event : TraceEvent) :
    (s.hear frame event).Sole registry := by
  cases event with
  | line => exact h.recordLine _ _
  | ret => exact h.recordExit _
  | call | exception => exact h

theorem hearEvent (h : s.Sole registry) (event : MonitorEvent) :
    (s.hearEvent event).Sole registry := by
  obtain ⟨kind, block, offset, line⟩ := event
  cases kind with
  | line => exact h.recordLine _ _
  | ret | yield | unwind => exact h.recordExit _
  | start | raise | reraise => exact h

theorem raise (h : s.Sole registry) (p : ProfilerId) : (s.raise p).Sole registry :=
  ⟨h.profilers, h.wrappers, h.numbered⟩

theorem lower (h : s.Sole registry) (p : ProfilerId) : (s.lower p).Sole registry := by
  rw [lower_eq]
  exact ⟨h.profilers, h.wrappers, h.numbered⟩

theorem enterScope (h : s.Sole registry) (id : RoutineId) : (s.enterScope id).Sole registry := by
  rw [enterScope_eq]
  exact ⟨h.profilers, h.wrappers, h.numbered⟩

theorem leaveScope (h : s.Sole registry) (id : RoutineId) : (s.leaveScope id).Sole registry := by
  rw [leaveScope_eq]
  exact ⟨h.profilers, h.wrappers, h.numbered⟩

end Scene.Sole

namespace Engine

/-! ## The scene of an engine -/

/-- What a thread knows of a registry. -/
def dispatchAt (e : Engine) (th : ThreadKey) (registry : RegistryId) : Dispatch :=
  e.dispatch.getD (th, registry) {}

/-- What the profilers of a registry have to do with. -/
def scene (registry : RegistryId) (e : Engine) : Scene where
  clock := e.clock
  blocks := e.blocks
  frames := e.frames
  code := e.code
  routines := e.routines
  thread := e.thread
  profilers := e.profilers
  files := e.files
  padding := (e.registry registry).padding
  wrap := (e.registry registry).wrap
  active := fun th => (e.dispatchAt th registry).active

variable (registry : RegistryId) (e : Engine)

theorem scene_here : (e.scene registry).here = (e.dispatchOf registry).active := rfl

theorem scene_codeOf (id : RoutineId) : (e.scene registry).codeOf id = e.codeOf id := rfl

theorem scene_routine (id : RoutineId) : (e.scene registry).routine id = e.routine id := rfl

theorem scene_profiler (id : ProfilerId) : (e.scene registry).profiler id = e.profiler id := rfl

section

variable {e e' : Engine}

theorem profiler_congr (same : e'.profilers = e.profilers) (id : ProfilerId) :
    e'.profiler id = e.profiler id :=
  congrArg (fun profilers => Assoc.getD profilers id default) same

theorem routine_congr (same : e'.routines = e.routines) (id : RoutineId) :
    e'.routine id = e.routine id := by
  unfold Engine.routine
  rw [same]

theorem registry_congr (same : e'.registries = e.registries) (registry : RegistryId) :
    e'.registry registry = e.registry registry :=
  congrArg (fun registries => Assoc.getD registries registry default) same

theorem backend_congr (same : e'.registries = e.registries) (registry : RegistryId) :
    (e'.registry registry).backend = (e.registry registry).backend :=
  congrArg Registry.backend (registry_congr same registry)

end

omit registry in
/-- One profiler changed, if it is there. -/
theorem profiler_modify (id : ProfilerId) (f : Profiler → Profiler) (q : ProfilerId) :
    ({ e with profilers := e.profilers.modify id f } : Engine).profiler q =
      if id = q ∧ id ∈ e.profilers.keys then f (e.profiler q) else e.profiler q := by
  unfold Engine.profiler
  simp only [Assoc.getD_modify, Assoc.isSome_get?_iff]

/-- A new profiler gets the next number. -/
theorem profiler_newProfiler (wrap : Option Bool) (clock : Timepiece) (sources : Sources)
    (q : ProfilerId) :
    ((newProfiler registry wrap clock sources).run e).2.profiler q =
      if e.profilers.entries.length = q then
        { registry, wrap := wrap.getD (e.registry registry).wrap, clock, sources }
      else e.profiler q :=
  Assoc.getD_set _ _ _ _ _

/-- The engine with its clock set. -/
def withClock (clock : Counter) : Engine := { e with clock }

theorem scene_withClock (clock : Counter) :
    (e.withClock clock).scene registry = (e.scene registry).withClock clock := rfl

/-- The engine with other knowledge of a registry on the running thread. -/
def withDispatch (d : Dispatch) : Engine :=
  { e with dispatch := e.dispatch.set (e.thread, registry) d }

@[simp] theorem run_modifyDispatch (f : Dispatch → Dispatch) :
    (modifyDispatch registry f).run e = ((), e.withDispatch registry (f (e.dispatchOf registry))) :=
  rfl

@[simp] theorem withDispatch_dispatchOf (d : Dispatch) :
    (e.withDispatch registry d).dispatchOf registry = d := by
  simp [withDispatch, dispatchOf, Assoc.getD_set]

theorem withDispatch_dispatchAt (d : Dispatch) (th : ThreadKey) :
    (e.withDispatch registry d).dispatchAt th registry =
      if th = e.thread then d else e.dispatchAt th registry := by
  simp only [withDispatch, dispatchAt, Assoc.getD_set, Prod.mk.injEq, and_true]
  by_cases h : th = e.thread
  · simp [h]
  · simp [h, Ne.symm h]

/-- Of two changes on the running thread the last one counts. -/
theorem withDispatch_dispatchAt_twice (e' : Engine) {d : Dispatch} (thread : e'.thread = e.thread)
    (dispatch : ∀ th, e'.dispatchAt th registry =
      if th = e.thread then d else e.dispatchAt th registry) (d' : Dispatch) (th : ThreadKey) :
    (e'.withDispatch registry d').dispatchAt th registry =
      if th = e.thread then d' else e.dispatchAt th registry := by
  rw [withDispatch_dispatchAt, thread, dispatch]
  split <;> rfl

/-- Who is on changes with what the running thread knows of the registry. -/
theorem scene_withDispatch (d : Dispatch) :
    (e.withDispatch registry d).scene registry = (e.scene registry).switch d.active := by
  have active : (fun th => ((e.withDispatch registry d).dispatchAt th registry).active) =
      fun th => if th = e.thread then d.active else (e.dispatchAt th registry).active := by
    funext th
    rw [withDispatch_dispatchAt]
    split <;> rfl
  simp only [scene, active]
  rfl

/-- Nothing changes for profilers as long as nobody is switched. -/
theorem scene_withDispatch_same {d : Dispatch} (h : d.active = (e.dispatchOf registry).active) :
    (e.withDispatch registry d).scene registry = e.scene registry := by
  rw [scene_withDispatch, h, ← scene_here, Scene.switch_self]

/-! ## Recording -/

/-- The engine with other profilers. -/
def withProfilers (profilers : Assoc ProfilerId Profiler) : Engine := { e with profilers }

/-- Each step of the recording changes one profiler. -/
theorem foldl_modify (f : Engine → Profiler → Profiler)
    (h : ∀ ps, f (e.withProfilers ps) = f e) (on : List (ProfilerId × Nat)) :
    ∀ ps, on.foldl (fun e a => { e with profilers := e.profilers.modify a.1 (f e) })
        (e.withProfilers ps) =
      e.withProfilers (on.foldl (fun ps a => ps.modify a.1 (f e)) ps) := by
  induction on with
  | nil => exact fun _ => rfl
  | cons a rest ih =>
    intro ps
    simp only [List.foldl_cons]
    rw [h ps]
    exact ih _

theorem run_forEachActive (f : Engine → Profiler → Profiler)
    (h : ∀ ps, f (e.withProfilers ps) = f e) :
    (forEachActive registry f).run e =
      ((), e.withProfilers (((e.scene registry).update (f e)).profilers)) := by
  have all := foldl_modify e f h (e.dispatchOf registry).active e.profilers
  exact congrArg (Prod.mk ()) all

theorem run_recordLine (block : BlockHash) (line : UInt32) :
    (recordLine registry block line).run e =
      ((), e.withProfilers ((e.scene registry).recordLine block line).profilers) :=
  run_forEachActive registry e _ fun _ => rfl

theorem run_recordExit (block : BlockHash) :
    (recordExit registry block).run e =
      ((), e.withProfilers ((e.scene registry).recordExit block).profilers) :=
  run_forEachActive registry e _ fun _ => rfl

theorem run_recordTrace (frame : Frame) (event : TraceEvent) :
    (recordTrace registry frame event).run e =
      ((), e.withProfilers ((e.scene registry).hear frame event).profilers) := by
  cases event with
  | line => exact run_recordLine registry e _ _
  | ret => exact run_recordExit registry e _
  | call | exception => rfl

theorem run_recordEvent (event : MonitorEvent) :
    (recordEvent registry event).run e =
      ((), e.withProfilers ((e.scene registry).hearEvent event).profilers) := by
  obtain ⟨kind, block, offset, line⟩ := event
  cases kind with
  | line => exact run_recordLine registry e _ _
  | ret | yield | unwind => exact run_recordExit registry e _
  | start | raise | reraise => rfl

/-- Hearing of events changes nothing but the profilers. -/
theorem scene_hear (frame : Frame) (event : TraceEvent) :
    (e.withProfilers ((e.scene registry).hear frame event).profilers).scene registry =
      (e.scene registry).hear frame event := by
  cases event <;> rfl

theorem scene_hearEvent (event : MonitorEvent) :
    (e.withProfilers ((e.scene registry).hearEvent event).profilers).scene registry =
      (e.scene registry).hearEvent event := by
  obtain ⟨kind, block, offset, line⟩ := event
  cases kind <;> rfl

theorem run_forgetPending :
    (forgetPending registry).run e =
      ((), e.withProfilers (e.scene registry).forgetPending.profilers) :=
  run_forEachActive registry e _ fun _ => rfl

end Engine

end LineClock

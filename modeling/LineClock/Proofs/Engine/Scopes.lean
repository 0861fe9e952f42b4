import LineClock.Proofs.Engine.Counts

/-!
# The scopes of routines

A wrapper switches its profiler while it runs. In a `Scoped` scene nothing else does: a profiler is on
as often as wrappers of it are running, and on no thread but the one that runs.

Main statements: `Scoped.enterScope`, `Scoped.leaveScope` and `Scoped.nobody`.
-/

namespace LineClock

open Machine

/-- Whether the calls of a routine switch a profiler. -/
def Routine.switches (r : Routine) (p : ProfilerId) : Bool := r.scope.any fun s => s.profiler = p

namespace Scene

variable {s t : Scene}

/-! ## How often profilers are on -/

/-- Where the counts are fair, who is on has a count. -/
theorem AllFair.isOn_iff (fair : s.AllFair) (p : ProfilerId) : s.isOn p = true ↔ 0 < s.count p := by
  constructor
  · intro on
    exact (fair _).countOf_pos ((Dispatch.isOn_iff _ _).mp on)
  · intro some
    cases on : s.isOn p with
    | true => rfl
    | false =>
      have none : s.count p = 0 := Dispatch.countOf_of_not_isOn on
      omega

/-- Where nobody has a count, nobody is on. -/
theorem Fair.eq_nil {on : List (ProfilerId × Nat)} (fair : Fair on)
    (none : ∀ p, ({ active := on } : Dispatch).countOf p = 0) : on = [] := by
  cases on with
  | nil => rfl
  | cons a rest =>
    have some := fair.countOf_pos (List.mem_map_of_mem (f := Prod.fst) List.mem_cons_self)
    rw [none] at some
    cases some

/-- How often a profiler is on on some thread, after switching on the running one. -/
theorem countOf_switch (s : Scene) (on : List (ProfilerId × Nat)) (p : ProfilerId) (th : ThreadKey) :
    ({ active := (s.switch on).active th } : Dispatch).countOf p =
      if th = s.thread then ({ active := on } : Dispatch).countOf p
      else ({ active := s.active th } : Dispatch).countOf p := by
  unfold switch
  simp only
  split <;> rfl

theorem countOf_raise (s : Scene) (q p : ProfilerId) (th : ThreadKey) :
    ({ active := (s.raise q).active th } : Dispatch).countOf p =
      ({ active := s.active th } : Dispatch).countOf p +
        if th = s.thread ∧ q = p then 1 else 0 := by
  unfold raise
  rw [countOf_switch]
  by_cases here : th = s.thread
  · subst here
    refine (if_pos rfl).trans ((Dispatch.countOf_raise _ q p).trans ?_)
    by_cases this : q = p
    · rw [if_pos this, if_pos ⟨rfl, this⟩]
      rfl
    · rw [if_neg this, if_neg fun h => this h.2]
      rfl
  · rw [if_neg here, if_neg fun h => here h.1]
    rfl

theorem countOf_lower (s : Scene) (q p : ProfilerId) (th : ThreadKey) :
    ({ active := (s.lower q).active th } : Dispatch).countOf p =
      ({ active := s.active th } : Dispatch).countOf p -
        if th = s.thread ∧ q = p then 1 else 0 := by
  by_cases here : th = s.thread
  · subst here
    have thread : (s.lower q).thread = s.thread := by rw [lower_eq]
    have lowered := count_lower s q p
    unfold count Scene.here at lowered
    rw [thread] at lowered
    rw [lowered]
    by_cases this : q = p
    · rw [if_pos this, if_pos ⟨rfl, this⟩]
    · rw [if_neg this, if_neg fun h => this h.2]
      rfl
  · rw [if_neg fun h => here h.1]
    unfold lower
    simp only
    split
    · rw [countOf_switch, if_neg here]
      rfl
    · rfl

/-! ## Entering and leaving -/

theorem enterScope_outer (s : Scene) (r : RoutineId) :
    (s.enterScope r).thread = s.thread ∧ (s.enterScope r).routines = s.routines := by
  rw [enterScope_eq]
  exact ⟨rfl, rfl⟩

theorem leaveScope_outer (s : Scene) (r : RoutineId) :
    (s.leaveScope r).thread = s.thread ∧ (s.leaveScope r).routines = s.routines := by
  rw [leaveScope_eq]
  exact ⟨rfl, rfl⟩

/-- Entering the scope of a routine counts for the profiler that its calls switch. -/
theorem countOf_enterScope (s : Scene) (r : RoutineId) (p : ProfilerId) (th : ThreadKey) :
    ({ active := (s.enterScope r).active th } : Dispatch).countOf p =
      ({ active := s.active th } : Dispatch).countOf p +
        if th = s.thread ∧ (s.routine r).switches p = true then 1 else 0 := by
  unfold enterScope Routine.switches
  cases (s.routine r).scope with
  | none => simp
  | some scope =>
    simp only [Option.any_some, decide_eq_true_eq]
    exact s.countOf_raise scope.profiler p th

theorem countOf_leaveScope (s : Scene) (r : RoutineId) (p : ProfilerId) (th : ThreadKey) :
    ({ active := (s.leaveScope r).active th } : Dispatch).countOf p =
      ({ active := s.active th } : Dispatch).countOf p -
        if th = s.thread ∧ (s.routine r).switches p = true then 1 else 0 := by
  unfold leaveScope Routine.switches
  cases (s.routine r).scope with
  | none => simp
  | some scope =>
    simp only [Option.any_some, decide_eq_true_eq]
    exact s.countOf_lower scope.profiler p th

/-! ## Only wrappers switch -/

/-- How many of some routines are wrappers of a profiler. -/
def wrappers (s : Scene) (running : List RoutineId) (p : ProfilerId) : Nat :=
  running.countP fun r => (s.routine r).switches p

/-- Profilers are on as often as wrappers of theirs are running, and only where these run. -/
structure Scoped (s : Scene) (running : List RoutineId) : Prop where
  fair : s.AllFair
  count : ∀ p, s.count p = s.wrappers running p
  elsewhere : ∀ th, th ≠ s.thread → s.active th = []

namespace Scoped

variable {running : List RoutineId}

/-- A scene in which the same are on. -/
theorem congr (h : s.Scoped running) (thread : t.thread = s.thread) (active : t.active = s.active)
    (routines : t.routines = s.routines) : t.Scoped running := by
  have routine : ∀ r, t.routine r = s.routine r := by
    intro r
    unfold Scene.routine
    rw [routines]
  refine ⟨fun th => ?_, fun p => ?_, fun th other => ?_⟩
  · rw [active]
    exact h.fair th
  · have same : t.count p = s.count p := by
      unfold Scene.count Scene.here
      rw [thread, active]
    rw [same, h.count p]
    unfold Scene.wrappers
    simp only [routine]
  · rw [thread] at other
    rw [active]
    exact h.elsewhere th other

theorem hear (h : s.Scoped running) (frame : Frame) (event : TraceEvent) :
    (s.hear frame event).Scoped running := by
  cases event <;> exact h.congr rfl rfl rfl

theorem hearEvent (h : s.Scoped running) (event : MonitorEvent) :
    (s.hearEvent event).Scoped running := by
  obtain ⟨kind, block, offset, line⟩ := event
  cases kind <;> exact h.congr rfl rfl rfl

/-- A scene in which others are on here, as other routines are running. -/
theorem switched {running' : List RoutineId} (h : s.Scoped running) (fair : t.AllFair)
    (outer : t.thread = s.thread ∧ t.routines = s.routines)
    (count : ∀ p, ({ active := t.active s.thread } : Dispatch).countOf p = s.wrappers running' p)
    (elsewhere : ∀ p th, th ≠ s.thread → ({ active := t.active th } : Dispatch).countOf p =
      ({ active := s.active th } : Dispatch).countOf p) : t.Scoped running' := by
  obtain ⟨thread, routines⟩ := outer
  refine ⟨fair, fun p => ?_, fun th other => (fair th).eq_nil fun p => ?_⟩
  · have wrappers : t.wrappers running' p = s.wrappers running' p := by
      unfold Scene.wrappers Scene.routine
      rw [routines]
    unfold Scene.count Scene.here
    rw [wrappers, ← count, thread]
  · rw [thread] at other
    rw [elsewhere p th other, h.elsewhere th other]
    rfl

theorem wrappers_cons (s : Scene) (r : RoutineId) (running : List RoutineId) (p : ProfilerId) :
    s.wrappers (r :: running) p =
      s.wrappers running p + if (s.routine r).switches p = true then 1 else 0 :=
  List.countP_cons

/-- **A routine runs inside its scope.** -/
theorem enterScope (h : s.Scoped running) (r : RoutineId) :
    (s.enterScope r).Scoped (r :: running) := by
  refine h.switched (h.fair.enterScope r) (s.enterScope_outer r) (fun p => ?_) fun p th other => ?_
  · have before : ({ active := s.active s.thread } : Dispatch).countOf p = _ := h.count p
    rw [s.countOf_enterScope, before, wrappers_cons]
    simp only [true_and]
  · rw [s.countOf_enterScope, if_neg fun here => other here.1, Nat.add_zero]

/-- **When a routine stops running its scope is left.** -/
theorem leaveScope {r : RoutineId} (h : s.Scoped (r :: running)) :
    (s.leaveScope r).Scoped running := by
  refine h.switched (h.fair.leaveScope r) (s.leaveScope_outer r) (fun p => ?_) fun p th other => ?_
  · have before : ({ active := s.active s.thread } : Dispatch).countOf p = _ := h.count p
    rw [s.countOf_leaveScope, before, wrappers_cons]
    simp only [true_and, Nat.add_sub_cancel]
  · rw [s.countOf_leaveScope, if_neg fun here => other here.1, Nat.sub_zero]

/-- **While nothing runs nobody is on**, on any thread. -/
theorem nobody (h : s.Scoped []) (th : ThreadKey) : s.active th = [] := by
  by_cases here : th = s.thread
  · rw [here]
    exact (h.fair _).eq_nil h.count
  · exact h.elsewhere th here

/-- Where nobody is on, nothing runs. -/
theorem of_nobody (nobody : ∀ th, s.active th = []) : s.Scoped [] := by
  refine ⟨fun th => ?_, fun p => ?_, fun th _ => nobody th⟩
  · rw [nobody]
    exact .nil
  · unfold Scene.count Scene.here
    rw [nobody]
    rfl

/-- A profiler is on while a wrapper of it is running. -/
theorem isOn (h : s.Scoped running) (p : ProfilerId) :
    s.isOn p = running.any fun r => (s.routine r).switches p := by
  rw [Bool.eq_iff_iff, h.fair.isOn_iff, h.count, List.any_eq_true]
  exact List.countP_pos_iff

end Scoped

end Scene

end LineClock

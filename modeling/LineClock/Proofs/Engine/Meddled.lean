import LineClock.Proofs.Engine.Hooked

/-!
# Hooks that meddle with profilers

Hooks that may put other hooks into the trace slot, switch profilers on and off while they are called,
say whether they want line events of a frame, and fail, by what was noted before. What is noted are
their invocations and what they say, and when the profilers stop listening on a thread. From the
notes it can be told who keeps the lines of a frame from the hooks.

Main statements: `traced_keeper` and `keeper_lapsed`.
-/

namespace LineClock

open Machine Engine

/-- Something a hook does while it is called. -/
inductive Meddle where
  /-- Put a hook into the trace slot, or empty it. -/
  | put (hook : Option ScriptId)
  | enable (p : ProfilerId)
  | disable (p : ProfilerId)
  deriving DecidableEq, Repr

/-- What a hook makes of an invocation. -/
structure Meddling where
  deeds : List Meddle := []
  /-- Whether it wants line events of the frame, if it says so. -/
  lines : Option Bool := none
  error : Option HookError := none
  deriving DecidableEq, Repr

/-- What is noted. -/
inductive Note where
  /-- A hook is told of an event on a thread. -/
  | told (thread : ThreadKey) (visit : Visit)
  /-- A hook says whether it wants line events of a frame. -/
  | sets (frame : FrameId) (linesOn : Bool)
  /-- The profilers that listen on a thread had passed an event of a frame on to a hook, and it goes
  back to them without line events. -/
  | handed (thread : ThreadKey) (frame : FrameId)
  /-- The profilers listen on a thread no more. -/
  | ceased (thread : ThreadKey)
  deriving DecidableEq

/-- What hooks do, by what was noted before, the last of it first. -/
abbrev Meddlers := List Note → Visit → Meddling

/-! ## Who keeps lines from the hooks -/

/-- Who keeps the lines of a frame from the hooks: nobody, the frame itself, of which no lines are
announced, or the profilers that listen on a thread. -/
inductive Keeper where
  | nobody
  | frame
  | thread (th : ThreadKey)
  deriving DecidableEq, Repr

/-- Who keeps the lines of a frame from the hooks after what was noted. -/
def keeper (id : FrameId) : List Note → Keeper
  | [] => .nobody
  | .told _ _ :: earlier => keeper id earlier
  | .sets i linesOn :: earlier =>
    if i = id then (if linesOn then .nobody else .frame) else keeper id earlier
  | .handed th i :: earlier =>
    if i = id ∧ keeper id earlier = .frame then .thread th else keeper id earlier
  | .ceased th :: earlier =>
    if keeper id earlier = .thread th then .nobody else keeper id earlier

/-- Since something was noted, the profilers on a thread were handed the keeping of a frame, and the
thread is another one, or they stopped listening there afterwards. -/
def Lapsed (id : FrameId) (th : ThreadKey) (later : List Note) : Prop :=
  ∃ newer older w, later = newer ++ .handed w id :: older ∧ (w ≠ th ∨ .ceased w ∈ newer)

section

variable {id : FrameId} {th : ThreadKey} {notes later : List Note}

/-- How a frame whose lines were switched off came to its keeper: the frame keeps them itself, or the
profilers on a thread were handed them since, and where nobody does, such profilers ceased. -/
def Traced (id : FrameId) (later : List Note) : Keeper → Prop
  | .frame => True
  | .thread w => ∃ newer older, later = newer ++ .handed w id :: older
  | .nobody => ∃ newer older w, later = newer ++ .handed w id :: older ∧ .ceased w ∈ newer

/-- More is noted. -/
theorem Traced.cons {k : Keeper} (note : Note) (h : Traced id later k) :
    Traced id (note :: later) k := by
  cases k with
  | frame => trivial
  | thread w =>
    obtain ⟨newer, older, rfl⟩ := h
    exact ⟨note :: newer, older, rfl⟩
  | nobody =>
    obtain ⟨newer, older, w, rfl, ceased⟩ := h
    exact ⟨note :: newer, older, w, rfl, List.mem_cons_of_mem _ ceased⟩

/-- **A frame whose lines were switched off** can be traced to its keeper, as long as they are not
switched on again. -/
theorem traced_keeper (notes : List Note) (never : .sets id true ∉ later) :
    Traced id later (keeper id (later ++ .sets id false :: notes)) := by
  induction later with
  | nil => simp [keeper, Traced]
  | cons note later ih =>
    have ih := ih fun mem => never (List.mem_cons_of_mem _ mem)
    rw [List.cons_append]
    generalize before : keeper id (later ++ .sets id false :: notes) = k at ih
    cases note with
    | told th visit =>
      rw [keeper, before]
      exact ih.cons _
    | sets i linesOn =>
      rw [keeper]
      by_cases own : i = id
      · subst own
        cases linesOn with
        | true => exact absurd List.mem_cons_self never
        | false => simp [Traced]
      · rw [if_neg own, before]
        exact ih.cons _
    | handed th i =>
      rw [keeper, before]
      by_cases takes : i = id ∧ k = .frame
      · rw [if_pos takes, takes.1]
        exact ⟨[], later, rfl⟩
      · rw [if_neg takes]
        exact ih.cons _
    | ceased th =>
      rw [keeper, before]
      by_cases lets : k = .thread th
      · rw [if_pos lets]
        subst lets
        obtain ⟨newer, older, rfl⟩ := ih
        exact ⟨.ceased th :: newer, older, th, rfl, List.mem_cons_self⟩
      · rw [if_neg lets]
        exact ih.cons _

/-- **A keeping lapsed** if neither the frame nor the profilers on a thread keep it there. -/
theorem keeper_lapsed (never : .sets id true ∉ later)
    (frame : keeper id (later ++ .sets id false :: notes) ≠ .frame)
    (thread : keeper id (later ++ .sets id false :: notes) ≠ .thread th) : Lapsed id th later := by
  have traced := traced_keeper notes never
  cases now : keeper id (later ++ .sets id false :: notes) with
  | frame => exact absurd now frame
  | thread w =>
    rw [now] at traced
    obtain ⟨newer, older, split⟩ := traced
    exact ⟨newer, older, w, split, .inl fun same => thread (same ▸ now)⟩
  | nobody =>
    rw [now] at traced
    obtain ⟨newer, older, w, split, ceased⟩ := traced
    exact ⟨newer, older, w, split, .inr ceased⟩

end

/-! ## The machine -/

/-- An engine with hooks beside it, and what was noted, the last of it first. -/
structure Meddled where
  engine : Engine
  notes : List Note := []

variable {registry : RegistryId}

/-- What is noted when an engine becomes another one: whether the profilers stop listening on the
thread that runs. -/
def ceasing (registry : RegistryId) (e e' : Engine) : List Note :=
  if (e.dispatchOf registry).activated ∧ ¬ (e'.dispatchAt e.thread registry).activated then
    [.ceased e.thread]
  else []

/-- What is noted when a hook answered: what it says about the lines of a frame, and whether the
profilers that listen had passed the event on to it and get the frame back without them. -/
def Meddling.remarks (m : Meddling) (frame : Frame) (th : ThreadKey) (d : Dispatch) : List Note :=
  (if d.busy ∧ d.activated ∧ ¬ m.lines.getD frame.linesOn then [.handed th frame.id] else []) ++
    (m.lines.map (Note.sets frame.id)).toList

/-- What a hook does to an engine. -/
def Meddle.act (registry : RegistryId) : Meddle → StateM Engine Unit
  | .put hook => setTraceHook (hook.map .script)
  | .enable p => discard (Engine.enable registry p).run
  | .disable p => discard (Engine.disable registry p).run

namespace Meddled

/-- Go on with an engine. -/
def moveTo (registry : RegistryId) (x : Meddled) (e : Engine) : Meddled where
  engine := e
  notes := ceasing registry x.engine e ++ x.notes

/-- A hook did something. -/
def deed (registry : RegistryId) (x : Meddled) (m : Meddle) : Meddled :=
  x.moveTo registry ((m.act registry).run x.engine).2

/-- The state once a hook was called and did what it does. -/
def called (registry : RegistryId) (hooks : Meddlers) (x : Meddled) (visit : Visit) : Meddled :=
  (hooks x.notes visit).deeds.foldl (deed registry)
    { x with notes := .told x.engine.thread visit :: x.notes }

/-- What a hook answers, and the state it leaves. -/
def invoke (registry : RegistryId) (hooks : Meddlers) (visit : Visit) (x : Meddled) :
    Except HookError Bool × Meddled :=
  let m := hooks x.notes visit
  let y := x.called registry hooks visit
  match m.error with
  | some err => (.error err, y)
  | none =>
    (.ok (m.lines.getD visit.frame.linesOn),
      { y with notes :=
          m.remarks visit.frame y.engine.thread (y.engine.dispatchOf registry) ++ y.notes })

/-- The scripts of the hooks. -/
def scripts (registry : RegistryId) (hooks : Meddlers) : Scripts Meddled where
  engine := engine
  withEngine := moveTo registry
  trace id frame event := ExceptT.mk (invoke registry hooks ⟨id, frame, event⟩)
  monitor _ _ := pure .goOn

end Meddled

/-! ## Remarks and keepers -/

section

variable {id : FrameId} {notes : List Note} {e e' : Engine}

/-- That profilers stop listening has to do with the thread that runs only. -/
theorem keeper_ceasing (id : FrameId) (notes : List Note) (e e' : Engine) :
    keeper id (ceasing registry e e' ++ notes) =
      if keeper id notes = .thread e.thread ∧ (e.dispatchOf registry).activated = true ∧
          (e'.dispatchAt e.thread registry).activated = false then .nobody
      else keeper id notes := by
  unfold ceasing
  by_cases ends : (e.dispatchOf registry).activated ∧
    ¬ (e'.dispatchAt e.thread registry).activated
  · rw [if_pos ends, List.singleton_append, keeper]
    simp only [ends.1, Bool.not_eq_true _ ▸ ends.2, and_true]
  · rw [if_neg ends, List.nil_append, if_neg]
    rintro ⟨-, on, off⟩
    exact ends ⟨on, by simp [off]⟩

/-- Where the profilers do not stop listening nothing is noted. -/
theorem ceasing_nil
    (stays : (e.dispatchOf registry).activated = true →
      (e'.dispatchAt e.thread registry).activated = true) : ceasing registry e e' = [] := by
  unfold ceasing
  rw [if_neg]
  rintro ⟨on, off⟩
  exact off (stays on)

variable {m : Meddling} {frame : Frame} {th : ThreadKey} {d : Dispatch}

/-- What is said about a frame is nothing to others. -/
theorem keeper_remarks_of_ne (other : id ≠ frame.id) :
    keeper id (m.remarks frame th d ++ notes) = keeper id notes := by
  have others : keeper id ((m.lines.map (Note.sets frame.id)).toList ++ notes) = keeper id notes := by
    cases m.lines with
    | none => rfl
    | some on => exact if_neg fun same => other same.symm
  unfold Meddling.remarks
  rw [List.append_assoc]
  split
  · rw [List.singleton_append, keeper, if_neg fun own => other own.1.symm, others]
  · exact others

/-- Who keeps a frame when a hook answered that wants its lines, if the frame did not keep them
before: not the frame. -/
theorem keeper_remarks_on (wants : m.lines.getD frame.linesOn = true)
    (before : frame.linesOn = true → keeper frame.id notes ≠ .frame) :
    keeper frame.id (m.remarks frame th d ++ notes) ≠ .frame ∧
      ∀ w, keeper frame.id (m.remarks frame th d ++ notes) = .thread w →
        keeper frame.id notes = .thread w := by
  unfold Meddling.remarks
  rw [if_neg (by simp [wants]), List.nil_append]
  cases said : m.lines with
  | none =>
    rw [said] at wants
    exact ⟨before wants, fun _ => id⟩
  | some on =>
    rw [said] at wants
    have on : on = true := wants
    subst on
    have nobody : keeper frame.id (((some true).map (Note.sets frame.id)).toList ++ notes) = .nobody :=
      if_pos rfl
    rw [nobody]
    exact ⟨by simp, fun _ same => by cases same⟩

/-- Who keeps a frame when a hook answered that does not want its lines: where the profilers get it
back, not the frame, and otherwise not the profilers of a thread that did not before. -/
theorem keeper_remarks_off (unwanted : m.lines.getD frame.linesOn = false) :
    (d.busy = true → d.activated = true →
        keeper frame.id (m.remarks frame th d ++ notes) ≠ .frame) ∧
      ∀ w, keeper frame.id (m.remarks frame th d ++ notes) = .thread w →
        keeper frame.id notes = .thread w ∨ (w = th ∧ d.busy = true ∧ d.activated = true) := by
  -- who keeps it after what the hook said
  have said : ∀ w, keeper frame.id ((m.lines.map (Note.sets frame.id)).toList ++ notes) = .thread w →
      keeper frame.id notes = .thread w := by
    intro w
    cases said : m.lines with
    | none => exact id
    | some on =>
      rw [said] at unwanted
      have on : on = false := unwanted
      subst on
      have frame : keeper frame.id (((some false).map (Note.sets frame.id)).toList ++ notes) = .frame :=
        if_pos rfl
      rw [frame]
      intro same
      cases same
  unfold Meddling.remarks
  rw [List.append_assoc]
  by_cases back : d.busy ∧ d.activated
  · rw [if_pos ⟨back.1, back.2, by simp [unwanted]⟩, List.singleton_append, keeper]
    simp only [true_and]
    split
    · refine ⟨fun _ _ => by simp, fun w same => ?_⟩
      cases same
      exact .inr ⟨rfl, back⟩
    · rename_i other
      exact ⟨fun _ _ => other, fun w same => .inl (said w same)⟩
  · rw [if_neg fun h => back ⟨h.1, h.2.1⟩, List.nil_append]
    exact ⟨fun busy on => absurd ⟨busy, on⟩ back, fun w same => .inl (said w same)⟩

end

end LineClock

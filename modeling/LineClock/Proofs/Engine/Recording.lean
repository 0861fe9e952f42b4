import LineClock.Proofs.Engine.Counts
import LineClock.Proofs.Profiler.Watch

/-!
# What recording changes

For one profiler, a scene shows which blocks it hears of on the running thread, what is charged to
each line so far, and which lines are still running. Main statements: what a line that starts and a
block that is left change in this.
-/

namespace LineClock

namespace Scene

variable {s : Scene}

/-- Whether a profiler is on here and watches a block. -/
def hears (s : Scene) (p : ProfilerId) (block : BlockHash) : Bool :=
  s.isOn p && (s.profiler p).watches block

/-- The line of a block that is still running on a thread, for a profiler. -/
def mark (s : Scene) (p : ProfilerId) (th : ThreadKey) (block : BlockHash) : Option Mark :=
  (s.profiler p).tally.mark? th block

/-- What a profiler has charged to a line of a block. -/
def cell (s : Scene) (p : ProfilerId) (block : BlockHash) (line : UInt32) : Cell :=
  (s.profiler p).tally.cell block line

/-- What the clock of a profiler shows. -/
def time (s : Scene) (p : ProfilerId) : Counter := s.now (s.profiler p)

/-! ## One profiler among those who are on -/

/-- Every profiler that is on is changed once. -/
theorem profiler_update (once : (s.here.map Prod.fst).Nodup) {f : Profiler → Profiler}
    (blank : f default = default) (p : ProfilerId) :
    (s.update f).profiler p = if s.isOn p then f (s.profiler p) else s.profiler p := by
  have all : ∀ (on : List (ProfilerId × Nat)) (ps : Assoc ProfilerId Profiler),
      (on.map Prod.fst).Nodup →
      (on.foldl (fun ps a => ps.modify a.1 f) ps).getD p default =
        if On on p then f (ps.getD p default) else ps.getD p default := by
    intro on
    induction on with
    | nil => exact fun _ _ => rfl
    | cons a rest ih =>
      intro ps once
      rw [List.map_cons, List.nodup_cons] at once
      have head : On (a :: rest) p = (decide (a.1 = p) || On rest p) := rfl
      rw [List.foldl_cons, ih _ once.2, Assoc.getD_modify, head]
      by_cases here : a.1 = p
      · have off : On rest p = false := by
          rw [← here, ← Bool.not_eq_true]
          exact fun on => once.1 ((Dispatch.isOn_iff _ _).mp on)
        subst here
        rw [off]
        cases there : ps.get? a.1 with
        | some q => simp
        | none =>
          unfold Assoc.getD
          rw [there]
          simp [blank]
      · simp [here]
  exact all s.here s.profilers once

theorem profiler_recordLine (once : (s.here.map Prod.fst).Nodup) (block : BlockHash)
    (line : UInt32) (p : ProfilerId) :
    (s.recordLine block line).profiler p =
      if s.isOn p then (s.profiler p).lineStarts s.thread block line (s.time p)
      else s.profiler p :=
  profiler_update once (f := fun p => p.lineStarts s.thread block line (s.now p))
    (if_neg Bool.false_ne_true) p

theorem profiler_recordExit (once : (s.here.map Prod.fst).Nodup) (block : BlockHash)
    (p : ProfilerId) :
    (s.recordExit block).profiler p =
      if s.isOn p then (s.profiler p).blockLeft s.thread block (s.time p) else s.profiler p :=
  profiler_update once (f := fun p => p.blockLeft s.thread block (s.now p))
    (if_neg Bool.false_ne_true) p

/-! ## Watching stays -/

section

variable (once : (s.here.map Prod.fst).Nodup) (block : BlockHash) (line : UInt32)

include once

theorem watches_recordLine (p : ProfilerId) (h : BlockHash) :
    ((s.recordLine block line).profiler p).watches h = (s.profiler p).watches h := by
  rw [profiler_recordLine once]
  split
  · exact Profiler.watches_lineStarts _ _ _ _ _ h
  · rfl

theorem watches_recordExit (p : ProfilerId) (h : BlockHash) :
    ((s.recordExit block).profiler p).watches h = (s.profiler p).watches h := by
  rw [profiler_recordExit once]
  split
  · exact Profiler.watches_blockLeft _ _ _ _ h
  · rfl

/-! ## Lines that run -/

theorem mark_recordLine (p : ProfilerId) (th : ThreadKey) (h : BlockHash) :
    (s.recordLine block line).mark p th h =
      if s.hears p block ∧ s.thread = th ∧ block = h then some ⟨line, s.time p⟩
      else s.mark p th h := by
  unfold mark hears
  rw [profiler_recordLine once]
  cases s.isOn p with
  | false => simp
  | true =>
    unfold Profiler.lineStarts
    cases (s.profiler p).watches block with
    | false => simp
    | true => simp [Tally.mark?_lineStarts]

theorem mark_recordExit (p : ProfilerId) (th : ThreadKey) (h : BlockHash) :
    (s.recordExit block).mark p th h =
      if s.hears p block ∧ s.thread = th ∧ block = h then none else s.mark p th h := by
  unfold mark hears
  rw [profiler_recordExit once]
  cases s.isOn p with
  | false => simp
  | true =>
    unfold Profiler.blockLeft
    cases (s.profiler p).watches block with
    | false => simp
    | true => simp [Tally.mark?_blockLeft]

end

/-! ## Charges -/

/-- A cell once the line that was running is over: it is charged if it is the cell of that line. -/
def settled (s : Scene) (p : ProfilerId) (block : BlockHash) (line : UInt32) : Cell :=
  match s.mark p s.thread block with
  | some mark =>
    if mark.line = line then (s.cell p block line).charged ((s.time p).satSub mark.ticks)
    else s.cell p block line
  | none => s.cell p block line

theorem cell_settle (p : ProfilerId) (block h : BlockHash) (line : UInt32) :
    ((s.profiler p).tally.settle s.thread block (s.time p)).cell h line =
      if block = h then s.settled p h line else s.cell p h line := by
  unfold settled mark
  split
  · rename_i same
    subst same
    cases there : (s.profiler p).tally.mark? s.thread block with
    | none =>
      rw [Tally.settle_none there]
      rfl
    | some mark =>
      rw [Tally.settle_some there, Tally.cell_charge]
      simp only [true_and]
      rfl
  · rename_i other
    exact Tally.cell_settle_ne other line

section

variable (once : (s.here.map Prod.fst).Nodup) (block : BlockHash)

include once

theorem cell_recordLine (line : UInt32) (p : ProfilerId) (h : BlockHash) (l : UInt32) :
    (s.recordLine block line).cell p h l =
      if s.hears p block ∧ block = h then s.settled p h l else s.cell p h l := by
  have settle := cell_settle (s := s) p block h l
  unfold cell hears at *
  rw [profiler_recordLine once]
  cases s.isOn p with
  | false => simp
  | true =>
    unfold Profiler.lineStarts
    cases (s.profiler p).watches block with
    | false => simp
    | true => simpa using settle

theorem cell_recordExit (p : ProfilerId) (h : BlockHash) (l : UInt32) :
    (s.recordExit block).cell p h l =
      if s.hears p block ∧ block = h then s.settled p h l else s.cell p h l := by
  have settle := cell_settle (s := s) p block h l
  unfold cell hears at *
  rw [profiler_recordExit once]
  cases s.isOn p with
  | false => simp
  | true =>
    unfold Profiler.blockLeft
    cases (s.profiler p).watches block with
    | false => simp
    | true => simpa using settle

end

/-! ## All but the tally stays -/

/-- A scene in which nobody is on and nothing was recorded. -/
def bare (s : Scene) : Scene :=
  { s with
    profilers := ⟨s.profilers.entries.map fun p => (p.1, p.2.bare)⟩
    active := fun _ => [] }

theorem bare_bare (s : Scene) : s.bare.bare = s.bare := by
  unfold bare
  simp only [List.map_map]
  rfl

/-- The profilers of a bare scene. -/
theorem get?_bare (s : Scene) (id : ProfilerId) :
    s.bare.profilers.get? id = (s.profilers.get? id).map Profiler.bare :=
  Assoc.find?_map s.profilers.entries id Profiler.bare

theorem profiler_bare (s : Scene) (id : ProfilerId) : s.bare.profiler id = (s.profiler id).bare := by
  unfold profiler Assoc.getD
  rw [get?_bare]
  cases s.profilers.get? id <;> rfl

theorem bare_setProfiler (s : Scene) (id : ProfilerId) (p : Profiler) :
    ({ s with profilers := s.profilers.set id p } : Scene).bare =
      { s.bare with profilers := s.bare.profilers.set id p.bare } := by
  have put := Assoc.put_map s.profilers.entries id p Profiler.bare
  unfold bare Assoc.set
  simp only
  rw [put]

/-- Changes of a profiler's tally, and those that do not depend on it. -/
theorem bare_modifyProfiler (s : Scene) (id : ProfilerId) {f g : Profiler → Profiler}
    (same : (g (s.profiler id).bare).bare = (f (s.profiler id)).bare) :
    ({ s.bare with profilers := s.bare.profilers.modify id g } : Scene).bare =
      ({ s with profilers := s.profilers.modify id f } : Scene).bare := by
  unfold Assoc.modify
  rw [get?_bare]
  cases found : s.profilers.get? id with
  | none => exact s.bare_bare
  | some p =>
    have this : s.profiler id = p := Assoc.getD_of_get? found default
    rw [this] at same
    simp only [Option.map_some]
    rw [bare_setProfiler, bare_setProfiler, bare_bare, same]

/-- Hearing of events only adds to tallies. -/
theorem bare_updated (s : Scene) {f : Profiler → Profiler} (hf : ∀ p, (f p).bare = p.bare) :
    (s.update f).bare = s.bare := by
  have all : ∀ (on : List (ProfilerId × Nat)) (s : Scene),
      ({ s with profilers := on.foldl (fun ps a => ps.modify a.1 f) s.profilers } : Scene).bare =
        s.bare := by
    intro on
    induction on with
    | nil => exact fun _ => rfl
    | cons a rest ih =>
      intro s
      have plain : (f (s.profiler a.1)).bare = (s.profiler a.1).bare.bare := hf _
      have first := s.bare_modifyProfiler a.1 (f := f) (g := id) plain.symm
      have nothing : s.bare.profilers.modify a.1 id = s.bare.profilers :=
        Assoc.modify_same fun _ _ => rfl
      rw [nothing] at first
      exact (ih { s with profilers := s.profilers.modify a.1 f }).trans
        (first.symm.trans s.bare_bare)
  exact all s.here s

theorem bare_hearEvent (s : Scene) (event : MonitorEvent) : (s.hearEvent event).bare = s.bare := by
  obtain ⟨kind, block, offset, line⟩ := event
  cases kind with
  | line => exact s.bare_updated fun p => p.bare_lineStarts _ _ _ _
  | ret | yield | unwind => exact s.bare_updated fun p => p.bare_blockLeft _ _ _
  | start | raise | reraise => rfl

theorem bare_hear (s : Scene) (frame : Frame) (event : TraceEvent) :
    (s.hear frame event).bare = s.bare := by
  cases event with
  | line => exact s.bare_updated fun p => p.bare_lineStarts _ _ _ _
  | ret => exact s.bare_updated fun p => p.bare_blockLeft _ _ _
  | call | exception => rfl

theorem bare_forgetPending (s : Scene) : s.forgetPending.bare = s.bare :=
  s.bare_updated fun _ => rfl

/-- To whom profilers and wrappers belong is part of a bare scene. -/
theorem Sole.of_bare {registry : RegistryId} {s t : Scene} (h : s.Sole registry)
    (same : t.bare = s.bare) : t.Sole registry := by
  have profiler : ∀ id, (t.profiler id).bare = (s.profiler id).bare := by
    intro id
    rw [← profiler_bare, ← profiler_bare, same]
  have routine : ∀ id, t.routine id = s.routine id := by
    intro id
    have whole : ∀ s : Scene, s.bare.routine id = s.routine id := fun _ => rfl
    rw [← whole, same, whole]
  have keys : ∀ s : Scene, s.bare.profilers.keys = s.profilers.keys := by
    intro s
    unfold bare Assoc.keys
    simp only [List.map_map]
    rfl
  have entries : ∀ s : Scene, s.bare.profilers.entries.length = s.profilers.entries.length :=
    fun s => List.length_map _
  refine ⟨fun id => ?_, fun id scope found => ?_, ?_⟩
  · exact (congrArg Profiler.registry (profiler id)).trans (h.profilers id)
  · rw [routine] at found
    exact h.wrappers id scope found
  · rw [← keys, ← entries, same, keys, entries]
    exact h.numbered

/-- Who is on is not part of a bare scene. -/
theorem bare_lower (s : Scene) (p : ProfilerId) : (s.lower p).bare = s.bare := by
  rw [lower_eq]
  rfl

theorem bare_enterScope (s : Scene) (id : RoutineId) : (s.enterScope id).bare = s.bare := by
  rw [enterScope_eq]
  rfl

theorem bare_leaveScope (s : Scene) (id : RoutineId) : (s.leaveScope id).bare = s.bare := by
  rw [leaveScope_eq]
  rfl

/-- Recording changes nothing but tallies. -/
theorem bare_update {s : Scene} {f : Profiler → Profiler} (hf : ∀ p, (f p).bare = p.bare)
    (p : ProfilerId) : ((s.update f).profiler p).bare = (s.profiler p).bare := by
  rw [← profiler_bare, bare_updated s hf, profiler_bare]

theorem bare_recordLine (s : Scene) (block : BlockHash) (line : UInt32) (p : ProfilerId) :
    ((s.recordLine block line).profiler p).bare = (s.profiler p).bare :=
  bare_update (fun p => p.bare_lineStarts _ _ _ _) p

theorem bare_recordExit (s : Scene) (block : BlockHash) (p : ProfilerId) :
    ((s.recordExit block).profiler p).bare = (s.profiler p).bare :=
  bare_update (fun p => p.bare_blockLeft _ _ _) p

end Scene

end LineClock

import LineClock.Proofs.Counter
import LineClock.Proofs.Engine.Sightings

/-!
# Books that balance

Cells against the log. Hits are `Balanced` if every line of a block has as many as it started where
the profiler heard of it, one fewer while it is still running. Ticks are `Timed` if they are the time
that the log tells. Main statements: a line that starts and a block that is left keep both.
-/

namespace LineClock

open Machine

/-- Blocks of a given identity. -/
def like (h : BlockHash) (block : Block) : Bool := block.identity = h

/-! ## Several identities -/

section

variable {hashes : List BlockHash}

/-- A sum of which one term is raised by one. -/
theorem sum_map_raise {k : BlockHash} (once : hashes.Nodup) (mem : k ∈ hashes)
    (f : BlockHash → Nat) :
    (hashes.map fun h => f h + if k = h then 1 else 0).sum = (hashes.map f).sum + 1 := by
  induction hashes with
  | nil => cases mem
  | cons h rest ih =>
    rw [List.nodup_cons] at once
    rw [List.map_cons, List.map_cons, List.sum_cons, List.sum_cons]
    by_cases here : k = h
    · have others : (rest.map fun h' => f h' + if k = h' then 1 else 0) = rest.map f := by
        refine List.map_congr_left fun h' mem' => ?_
        have other : k ≠ h' := by
          rintro rfl
          exact once.1 (here ▸ mem')
        rw [if_neg other, Nat.add_zero]
      rw [others, if_pos here]
      omega
    · have later : k ∈ rest := (List.mem_cons.mp mem).resolve_left here
      rw [ih once.2 later, if_neg here]
      omega

/-- The hits of the blocks of some identities are the sum of the hits of each. -/
theorem Log.hits_sum (p : ProfilerId) (line : UInt32) (log : List Sighting)
    {mine : BlockHash → Bool} (once : hashes.Nodup) (own : ∀ h ∈ hashes, mine h)
    (rest : ∀ h, mine h → h ∉ hashes → Log.hits p (like h) line log = 0) :
    Log.hits p (fun c => mine c.identity) line log =
      (hashes.map fun h => Log.hits p (like h) line log).sum := by
  induction log with
  | nil =>
    have nothing : (hashes.map fun h => Log.hits p (like h) line []) = hashes.map fun _ => 0 := rfl
    rw [nothing, List.map_const', List.sum_replicate_nat]
    rfl
  | cons y earlier ih =>
    have before := ih fun h stands absent => by
      have none := rest h stands absent
      rw [Log.hits_cons] at none
      omega
    have each : ∀ h, Log.hits p (like h) line (y :: earlier) =
        Log.hits p (like h) line earlier + if y.fires p line && like h y.frame.block then 1 else 0 :=
      fun h => Log.hits_cons p (like h) line y
    rw [Log.hits_cons, before]
    simp only [each]
    unfold like
    by_cases counts : y.fires p line && mine y.frame.block.identity
    · have mem : y.frame.block.identity ∈ hashes := by
        by_cases mem : y.frame.block.identity ∈ hashes
        · exact mem
        · have none := rest _ (Bool.and_eq_true_iff.mp counts).2 mem
          rw [each] at none
          simp [like, (Bool.and_eq_true_iff.mp counts).1] at none
      have raised := sum_map_raise once mem fun h => Log.hits p (like h) line earlier
      rw [if_pos counts]
      simp only [(Bool.and_eq_true_iff.mp counts).1, Bool.true_and, decide_eq_true_eq]
      exact raised.symm
    · rw [if_neg counts, Nat.add_zero]
      congr 1
      refine List.map_congr_left fun h mem => ?_
      rw [if_neg, Nat.add_zero]
      intro here
      obtain ⟨fires, same⟩ := Bool.and_eq_true_iff.mp here
      have block : y.frame.block.identity = h := of_decide_eq_true same
      rw [block, fires, own h mem] at counts
      exact counts rfl

end

/-- One hit that is not charged yet, if the line is still running. -/
def owes (mark : Option Mark) (line : UInt32) : Nat :=
  match mark with
  | some m => if m.line = line then 1 else 0
  | none => 0

/-- The line of a frame that is still running for a profiler. -/
def Log.running (p : ProfilerId) (id : FrameId) (log : List Sighting) : Option Mark :=
  match previous? id log with
  | some x =>
    if x.event = .line ∧ x.scene.hears p x.frame.block.identity then some ⟨x.frame.line, x.time p⟩
    else none
  | none => none

namespace View

/-- Every line has as many hits as it started, one fewer while it is running. -/
def Balanced (v : View) : Prop :=
  ∀ p h line, ∃ n, Log.hits p (like h) line v.log =
      n + owes (v.scene.mark p v.scene.thread h) line ∧
    (v.scene.cell p h line).hits.toNat = min n (2 ^ 64 - 1)

/-- The ticks of the blocks of an identity are the time that the log tells. -/
def Timed (v : View) (h : BlockHash) : Prop :=
  ∀ p line, (v.scene.cell p h line).ticks = Log.spent p (like h) line v.log

end View

namespace Scene

variable {s : Scene}

/-- Settling charges what a line owes. -/
theorem settled_hits {p : ProfilerId} {h : BlockHash} {line : UInt32} {n : Nat}
    (count : (s.cell p h line).hits.toNat = min n (2 ^ 64 - 1)) :
    (s.settled p h line).hits.toNat =
      min (n + owes (s.mark p s.thread h) line) (2 ^ 64 - 1) := by
  unfold settled owes
  cases s.mark p s.thread h with
  | none => exact count
  | some m =>
    simp only
    split
    · unfold Cell.charged
      simp only
      rw [Counter.toNat_satAdd, count]
      have one : (1 : UInt64).toNat = 1 := rfl
      omega
    · exact count

end Scene

namespace View

variable {v : View}

/-- A line that starts is one more hit to come, and that of the line before it is charged. -/
theorem Balanced.startLine (balanced : v.Balanced) (once : (v.scene.here.map Prod.fst).Nodup)
    (frame : Frame) : (v.startLine frame).Balanced := by
  intro p h line
  obtain ⟨n, hits, count⟩ := balanced p h line
  have cell := Scene.cell_recordLine once frame.block.identity frame.line p h line
  have mark := Scene.mark_recordLine once frame.block.identity frame.line p v.scene.thread h
  have more : Log.hits p (like h) line (_ :: v.log) = _ := Log.hits_cons p (like h) line
    ⟨v.scene, { frame with suspended := false }, .line⟩
  change ∃ n, Log.hits p (like h) line (_ :: v.log) =
      n + owes ((v.scene.recordLine frame.block.identity frame.line).mark p v.scene.thread h) line ∧
    ((v.scene.recordLine frame.block.identity frame.line).cell p h line).hits.toNat = _
  rw [more, cell, mark, hits]
  unfold Sighting.fires like
  cases hears : v.scene.hears p frame.block.identity with
  | false =>
    simp only [Bool.and_false, Bool.false_and, Bool.false_eq_true, if_false, false_and]
    exact ⟨n, rfl, count⟩
  | true =>
    by_cases same : frame.block.identity = h
    · refine ⟨n + owes (v.scene.mark p v.scene.thread h) line, ?_, ?_⟩
      · simp [same, owes]
      · rw [if_pos ⟨rfl, same⟩]
        exact Scene.settled_hits count
    · simp only [same, decide_false, Bool.and_false, Bool.false_eq_true, if_false, and_false]
      exact ⟨n, rfl, count⟩

/-- When a block is left, the line that was running is charged. -/
theorem Balanced.exit {w : View} (balanced : v.Balanced)
    (once : (v.scene.here.map Prod.fst).Nodup) {block : BlockHash}
    (scene : w.scene = v.scene.recordExit block)
    (hits : ∀ p h line, Log.hits p (like h) line w.log = Log.hits p (like h) line v.log) :
    w.Balanced := by
  intro p h line
  obtain ⟨n, before, count⟩ := balanced p h line
  have cell := Scene.cell_recordExit once block p h line
  have mark := Scene.mark_recordExit once block p v.scene.thread h
  have thread : (v.scene.recordExit block).thread = v.scene.thread := rfl
  rw [hits, before, scene, thread, cell, mark]
  by_cases here : v.scene.hears p block ∧ block = h
  · refine ⟨n + owes (v.scene.mark p v.scene.thread h) line, ?_, ?_⟩
    · rw [if_pos ⟨here.1, rfl, here.2⟩]
      rfl
    · rw [if_pos here]
      exact Scene.settled_hits count
  · rw [if_neg here, if_neg fun h => here ⟨h.1, h.2.2⟩]
    exact ⟨n, rfl, count⟩

/-! ## Time -/

/-- A profiler's running line of a frame's block is that of the frame, and the profiler hears of
the block as long as there is one. -/
structure InStep (v : View) (p : ProfilerId) (id : FrameId) (h : BlockHash) : Prop where
  mark : v.scene.mark p v.scene.thread h = Log.running p id v.log
  hears : ∀ m, v.scene.mark p v.scene.thread h = some m → v.scene.hears p h = true

/-- What is settled is the time that ends. -/
theorem InStep.settled {p : ProfilerId} {h : BlockHash} {y x : Sighting}
    (inStep : v.InStep p y.frame.id h) (line : UInt32) (scene : y.scene = v.scene)
    (ends : y.event = .line ∨ y.event = .ret) (found : Log.previous? y.frame.id v.log = some x)
    (same : x.frame.block.identity = h) :
    (if v.scene.hears p h then v.scene.settled p h line else v.scene.cell p h line).ticks =
      (v.scene.cell p h line).ticks.satAdd (Log.lap p (like h) line y v.log) := by
  obtain ⟨mark, hears⟩ := inStep
  unfold Log.running at mark
  unfold Log.lap Scene.settled
  rw [found] at mark ⊢
  simp only at mark ⊢
  by_cases running : x.event = .line ∧ x.scene.hears p x.frame.block.identity
  · rw [if_pos running] at mark
    rw [mark, if_pos (hears _ mark)]
    simp only
    have fires : x.fires p line = decide (x.frame.line = line) := by
      unfold Sighting.fires
      simp [running.1, running.2]
    have mine : like h x.frame.block = true := decide_eq_true same
    have time : y.time p = v.scene.time p := congrArg (Scene.time · p) scene
    rw [fires, mine, time]
    by_cases here : x.frame.line = line
    · simp only [here, ends, decide_true, and_self, if_true]
      rfl
    · simp [here]
  · rw [if_neg running] at mark
    rw [mark]
    have fires : x.fires p line = false := by
      unfold Sighting.fires
      cases event : decide (x.event = .line) with
      | false => rfl
      | true =>
        have quiet : x.scene.hears p x.frame.block.identity = false := by
          rw [← Bool.not_eq_true]
          exact fun hears => running ⟨of_decide_eq_true event, hears⟩
        rw [quiet, Bool.and_false]
    simp [fires]

/-- No time of other blocks ends. -/
theorem lap_other {p : ProfilerId} {h : BlockHash} {line : UInt32} {y x : Sighting}
    (found : Log.previous? y.frame.id v.log = some x) (other : x.frame.block.identity ≠ h) :
    Log.lap p (like h) line y v.log = 0 := by
  unfold Log.lap
  rw [found]
  simp [like, other]

/-- An announcement that ends the running line of its frame keeps the ticks right. -/
theorem Timed.ends {w : View} {block h : BlockHash} {y x : Sighting} (timed : v.Timed h)
    (scene : y.scene = v.scene) (ends : y.event = .line ∨ y.event = .ret)
    (found : Log.previous? y.frame.id v.log = some x) (same : x.frame.block.identity = block)
    (inStep : block = h → ∀ p, v.InStep p y.frame.id h)
    (cells : ∀ p line, w.scene.cell p h line =
      if v.scene.hears p block ∧ block = h then v.scene.settled p h line
      else v.scene.cell p h line)
    (log : ∀ p line, Log.spent p (like h) line w.log = Log.spent p (like h) line (y :: v.log)) :
    w.Timed h := by
  intro p line
  have more : Log.spent p (like h) line (y :: v.log) =
    (Log.spent p (like h) line v.log).satAdd (Log.lap p (like h) line y v.log) := rfl
  rw [log, more, ← timed p line, cells]
  by_cases here : block = h
  · have settled := (inStep here p).settled line scene ends found (same.trans here)
    rw [← settled, here]
    simp only [and_true]
  · rw [if_neg fun h => here h.2, lap_other found (by rw [same]; exact here), Counter.satAdd_zero]

end View

end LineClock

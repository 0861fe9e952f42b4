import LineClock.Proofs.Counter
import LineClock.Proofs.Engine.Echo

/-!
# Scenes of which one is ahead

The same is done in two scenes of which the second is some ticks ahead of the first: as profilers
record differences of times, what they charge to a block on one side can be what they charge to
another block on the other. Main statements: `Ahead` and `Matched` are kept by all that a run does.
-/

namespace LineClock

namespace Scene

variable {base s t : Scene} {lead : Nat}

/-- The second scene is `lead` ticks ahead of the first, as far as counters go. Both have the code of
a third one, and the same profilers are on. -/
structure Ahead (base : Scene) (lead : Nat) (s t : Scene) : Prop where
  code : s.code = base.code
  code' : t.code = base.code
  routines : s.routines = base.routines
  routines' : t.routines = base.routines
  thread : t.thread = s.thread
  active : t.active = s.active
  fair : s.AllFair
  clock : t.clock.toNat = min (s.clock.toNat + lead) (2 ^ 64 - 1)

namespace Ahead

theorem codeOf (h : Ahead base lead s t) (r : RoutineId) :
    s.codeOf r = base.codeOf r ∧ t.codeOf r = base.codeOf r := by
  unfold Scene.codeOf routine
  rw [h.code, h.code', h.routines, h.routines']
  exact ⟨rfl, rfl⟩

theorem here (h : Ahead base lead s t) : t.here = s.here := by
  unfold Scene.here
  rw [h.active, h.thread]

theorem isOn (h : Ahead base lead s t) (p : ProfilerId) : t.isOn p = s.isOn p := by
  unfold Scene.isOn
  rw [h.here]

theorem count (h : Ahead base lead s t) (p : ProfilerId) : t.count p = s.count p := by
  unfold Scene.count
  rw [h.here]

theorem once' (h : Ahead base lead s t) : (t.here.map Prod.fst).Nodup := by
  rw [h.here]
  exact h.fair.once

/-- Changes in which code, threads and the clock have no part. -/
theorem same (h : Ahead base lead s t) {s' t' : Scene} (code : s'.code = s.code)
    (code' : t'.code = t.code) (routines : s'.routines = s.routines)
    (routines' : t'.routines = t.routines) (thread : t'.thread = s'.thread)
    (active : t'.active = s'.active) (fair : s'.AllFair) (clock : s'.clock = s.clock)
    (clock' : t'.clock = t.clock) : Ahead base lead s' t' :=
  ⟨code.trans h.code, code'.trans h.code', routines.trans h.routines, routines'.trans h.routines',
    thread, active, fair, by rw [clock, clock']; exact h.clock⟩

theorem addFrame (h : Ahead base lead s t) : Ahead base lead s.addFrame t.addFrame :=
  h.same rfl rfl rfl rfl h.thread h.active h.fair rfl rfl

theorem withThread (h : Ahead base lead s t) (thread : ThreadKey) :
    Ahead base lead { s with thread } { t with thread } :=
  h.same rfl rfl rfl rfl rfl h.active h.fair rfl rfl

theorem update (h : Ahead base lead s t) (f g : Profiler → Profiler) :
    Ahead base lead (s.update f) (t.update g) :=
  h.same rfl rfl rfl rfl h.thread h.active h.fair rfl rfl

theorem withClock (h : Ahead base lead s t) {now now' : Counter}
    (clock : now'.toNat = min (now.toNat + lead) (2 ^ 64 - 1)) :
    Ahead base lead (s.withClock now) (t.withClock now') :=
  ⟨h.code, h.code', h.routines, h.routines', h.thread, h.active, h.fair, clock⟩

theorem spend (h : Ahead base lead s t) (ticks : Counter) :
    Ahead base lead (s.spend ticks) (t.spend ticks) := by
  refine h.withClock ?_
  rw [Counter.toNat_satAdd, Counter.toNat_satAdd, h.clock]
  omega

theorem switch (h : Ahead base lead s t) {on : List (ProfilerId × Nat)} (fair : Fair on) :
    Ahead base lead (s.switch on) (t.switch on) := by
  refine h.same rfl rfl rfl rfl h.thread ?_ (h.fair.switch fair) rfl rfl
  unfold Scene.switch
  simp only [h.thread, h.active]

theorem raise (h : Ahead base lead s t) (p : ProfilerId) :
    Ahead base lead (s.raise p) (t.raise p) := by
  unfold Scene.raise
  rw [h.here]
  exact h.switch ((h.fair _).raise p)

theorem lower (h : Ahead base lead s t) (p : ProfilerId) :
    Ahead base lead (s.lower p) (t.lower p) := by
  unfold Scene.lower
  simp only [h.here]
  split
  · exact h.switch ((h.fair _).lower p _)
  · exact h

theorem scope (h : Ahead base lead s t) {r q : RoutineId}
    (same : (base.routine q).scope = (base.routine r).scope) :
    (t.routine q).scope = (s.routine r).scope := by
  unfold routine at same ⊢
  rw [h.routines, h.routines']
  exact same

theorem enterScope (h : Ahead base lead s t) {r q : RoutineId}
    (same : (base.routine q).scope = (base.routine r).scope) :
    Ahead base lead (s.enterScope r) (t.enterScope q) := by
  unfold Scene.enterScope
  rw [h.scope same]
  split
  · exact h
  · exact h.raise _

theorem leaveScope (h : Ahead base lead s t) {r q : RoutineId}
    (same : (base.routine q).scope = (base.routine r).scope) :
    Ahead base lead (s.leaveScope r) (t.leaveScope q) := by
  unfold Scene.leaveScope
  rw [h.scope same]
  split
  · exact h
  · exact h.lower _

/-- Without a lead both clocks show the same. -/
theorem clock_eq (h : Ahead base 0 s t) : t.clock = s.clock := by
  have bound := s.clock.toNat_lt
  have clock := h.clock
  rw [← UInt64.toNat_inj]
  omega

end Ahead

/-! ## What is charged -/

/-- How far the clock of a profiler is ahead. -/
def lag (s : Scene) (p : ProfilerId) (lead : Nat) : Nat :=
  match (s.profiler p).clock with
  | .shared => lead
  | .frozen => 0

/-- The lead can be read off the clock: there is none, or the clock has not come to its end. -/
def Exact (lead : Nat) (t : Scene) : Prop := lead = 0 ∨ t.clock.toNat < 2 ^ 64 - 1

/-- No clock goes back. -/
theorem le_spend (s : Scene) (ticks : Counter) : s.clock.toNat ≤ (s.spend ticks).clock.toNat := by
  have bound := s.clock.toNat_lt
  have clock : (s.spend ticks).clock.toNat = min (s.clock.toNat + ticks.toNat) (2 ^ 64 - 1) :=
    Counter.toNat_satAdd s.clock ticks
  omega

theorem withClock_profiler (s : Scene) (clock : Counter) (p : ProfilerId) :
    (s.withClock clock).profiler p = s.profiler p := rfl

@[simp] theorem spend_profiler (s : Scene) (ticks : Counter) (p : ProfilerId) :
    (s.spend ticks).profiler p = s.profiler p :=
  s.withClock_profiler _ p

@[simp] theorem lower_clock (s : Scene) (p : ProfilerId) : (s.lower p).clock = s.clock := by
  rw [lower_eq]

@[simp] theorem enterScope_clock (s : Scene) (r : RoutineId) : (s.enterScope r).clock = s.clock := by
  rw [enterScope_eq]

@[simp] theorem leaveScope_clock (s : Scene) (r : RoutineId) : (s.leaveScope r).clock = s.clock := by
  rw [leaveScope_eq]

/-- Whatever a profiler charges to a block in one scene, it charges to another in the other. -/
structure Matched (lead : Nat) (p : ProfilerId) (g g' : BlockHash) (s t : Scene) : Prop where
  timepiece : (t.profiler p).clock = (s.profiler p).clock
  watches : (t.profiler p).watches g' = (s.profiler p).watches g
  cell : ∀ line, t.cell p g' line = s.cell p g line
  mark : ∀ th, Option.Rel
    (fun m m' : Mark => m'.line = m.line ∧ m'.ticks.toNat = m.ticks.toNat + s.lag p lead)
    (s.mark p th g) (t.mark p th g')

theorem Ahead.time (h : Ahead base lead s t) (exact : Exact lead t) {p : ProfilerId}
    (timepiece : (t.profiler p).clock = (s.profiler p).clock) :
    (t.time p).toNat = (s.time p).toNat + s.lag p lead := by
  have bound := s.clock.toNat_lt
  have clock := h.clock
  unfold Exact at exact
  unfold Scene.time now lag
  rw [timepiece]
  cases (s.profiler p).clock with
  | frozen => rfl
  | shared =>
    simp only
    omega

/-- Recording leaves alone what clock a profiler reads. -/
theorem clock_recordLine (s : Scene) (block : BlockHash) (line : UInt32) (p : ProfilerId) :
    ((s.recordLine block line).profiler p).clock = (s.profiler p).clock := by
  have same := congrArg Profiler.clock (s.bare_recordLine block line p)
  exact same

theorem clock_recordExit (s : Scene) (block : BlockHash) (p : ProfilerId) :
    ((s.recordExit block).profiler p).clock = (s.profiler p).clock := by
  have same := congrArg Profiler.clock (s.bare_recordExit block p)
  exact same

namespace Matched

variable {p : ProfilerId} {g g' : BlockHash}

/-- Nothing that was recorded changes, and no clock is exchanged. -/
theorem same (h : Matched lead p g g' s t) {s' t' : Scene} (left : s'.profiler p = s.profiler p)
    (right : t'.profiler p = t.profiler p) : Matched lead p g g' s' t' := by
  obtain ⟨timepiece, watches, cell, mark⟩ := h
  unfold Scene.cell Scene.mark lag at *
  rw [← left, ← right] at *
  exact ⟨timepiece, watches, cell, mark⟩

/-- The running line is charged in the same way on both sides. -/
theorem settled (h : Matched lead p g g' s t) (ahead : Ahead base lead s t) (exact : Exact lead t)
    (line : UInt32) : t.settled p g' line = s.settled p g line := by
  have time := ahead.time exact h.timepiece
  have mark := h.mark s.thread
  unfold Scene.settled
  rw [ahead.thread, h.cell line]
  generalize s.mark p s.thread g = m at mark ⊢
  generalize t.mark p s.thread g' = m' at mark ⊢
  cases mark with
  | none => rfl
  | @some m m' later =>
    have elapsed : (t.time p).satSub m'.ticks = (s.time p).satSub m.ticks := by
      rw [← UInt64.toNat_inj, Counter.toNat_satSub, Counter.toNat_satSub, time, later.2]
      omega
    simp only [later.1, elapsed]

theorem hears (h : Matched lead p g g' s t) (ahead : Ahead base lead s t) :
    t.hears p g' = s.hears p g := by
  unfold Scene.hears
  rw [ahead.isOn, h.watches]

/-- What is recorded for a block on the first side is recorded for another on the second: the line
that was running is charged, and `new` runs from then on. -/
theorem recorded (h : Matched lead p g g' s t) (ahead : Ahead base lead s t) (exact : Exact lead t)
    {b c : BlockHash} (both : b = g ↔ c = g') {s' t' : Scene} {new new' : Option Mark}
    (clock : (s'.profiler p).clock = (s.profiler p).clock)
    (clock' : (t'.profiler p).clock = (t.profiler p).clock)
    (watches : (s'.profiler p).watches g = (s.profiler p).watches g)
    (watches' : (t'.profiler p).watches g' = (t.profiler p).watches g')
    (cell : ∀ l, s'.cell p g l = if s.hears p b ∧ b = g then s.settled p g l else s.cell p g l)
    (cell' : ∀ l, t'.cell p g' l =
      if t.hears p c ∧ c = g' then t.settled p g' l else t.cell p g' l)
    (mark : ∀ th, s'.mark p th g =
      if s.hears p b ∧ s.thread = th ∧ b = g then new else s.mark p th g)
    (mark' : ∀ th, t'.mark p th g' =
      if t.hears p c ∧ t.thread = th ∧ c = g' then new' else t.mark p th g')
    (later : Option.Rel
      (fun m m' : Mark => m'.line = m.line ∧ m'.ticks.toNat = m.ticks.toNat + s.lag p lead)
      new new') : Matched lead p g g' s' t' := by
  have lag : s'.lag p lead = s.lag p lead := by
    unfold Scene.lag
    rw [clock]
  refine ⟨by rw [clock, clock', h.timepiece], by rw [watches, watches', h.watches], fun l => ?_,
    fun th => ?_⟩
  · rw [cell, cell']
    by_cases this : b = g
    · cases this
      cases both.mp rfl
      simp only [h.hears ahead, h.settled ahead exact, h.cell]
    · rw [if_neg fun there => this (both.mpr there.2), if_neg fun there => this there.2]
      exact h.cell l
  · rw [lag, mark, mark']
    by_cases this : b = g
    · cases this
      cases both.mp rfl
      rw [h.hears ahead, ahead.thread]
      by_cases now : s.hears p g = true ∧ s.thread = th
      · rw [if_pos ⟨now.1, now.2, rfl⟩, if_pos ⟨now.1, now.2, rfl⟩]
        exact later
      · rw [if_neg fun there => now ⟨there.1, there.2.1⟩, if_neg fun there => now ⟨there.1, there.2.1⟩]
        exact h.mark th
    · rw [if_neg fun there => this there.2.2, if_neg fun there => this (both.mpr there.2.2)]
      exact h.mark th

/-- A line of a block starts on both sides. -/
theorem recordLine (h : Matched lead p g g' s t) (ahead : Ahead base lead s t)
    (exact : Exact lead t) {b c : BlockHash} (both : b = g ↔ c = g') (line : UInt32) :
    Matched lead p g g' (s.recordLine b line) (t.recordLine c line) :=
  have once := ahead.fair.once
  have once' := ahead.once'
  h.recorded ahead exact both (clock_recordLine s b line p) (clock_recordLine t c line p)
    (watches_recordLine once b line p g) (watches_recordLine once' c line p g')
    (cell_recordLine once b line p g) (cell_recordLine once' c line p g')
    (mark_recordLine once b line p · g) (mark_recordLine once' c line p · g')
    (.some ⟨rfl, ahead.time exact h.timepiece⟩)

/-- A block is left on both sides. -/
theorem recordExit (h : Matched lead p g g' s t) (ahead : Ahead base lead s t)
    (exact : Exact lead t) {b c : BlockHash} (both : b = g ↔ c = g') :
    Matched lead p g g' (s.recordExit b) (t.recordExit c) :=
  have once := ahead.fair.once
  have once' := ahead.once'
  h.recorded ahead exact both (clock_recordExit s b p) (clock_recordExit t c p)
    (watches_recordExit once b p g) (watches_recordExit once' c p g')
    (cell_recordExit once b p g) (cell_recordExit once' c p g')
    (mark_recordExit once b p · g) (mark_recordExit once' c p · g') .none

end Matched

end Scene

/-!
## A copy instead of a block

Two relations of views that a run does not break in which a copy of a block runs where the block
itself would. For whoever listens, the same is announced: `heard`. For a profiler, what is charged to
the block in one run is charged to the copy in the other, provided that neither runs the other's
code: `charged`.
-/

/-- An echo that the moves between runs do not break either. -/
structure Carries (L : Block → Block → Prop) (C : RoutineId → RoutineId → Prop) (padding : Nat)
    (V : View → View → Prop) : Prop extends Echo L C padding V where
  count : ∀ {v w}, V v w → ∀ p, w.scene.count p = v.scene.count p
  thread : ∀ {v w}, V v w → ∀ thread,
    V (v.on fun s => { s with thread }) (w.on fun s => { s with thread })
  raise : ∀ {v w}, V v w → ∀ p, V (v.on fun s => s.raise p) (w.on fun s => s.raise p)
  lower : ∀ {v w}, V v w → ∀ p, V (v.on fun s => s.lower p) (w.on fun s => s.lower p)

/-! ### What is heard -/

/-- What can be heard of an announcement. -/
structure Notice where
  thread : ThreadKey
  clock : Counter
  event : TraceEvent
  name : String
  line : UInt32
  suspended : Bool
  deriving DecidableEq

/-- What is heard of a sighting. -/
def Sighting.notice (x : Sighting) : Notice :=
  ⟨x.scene.thread, x.scene.clock, x.event, x.frame.block.name, x.frame.line, x.frame.suspended⟩

/-- `y` is `x`, or `a'` where that is `a`. -/
def Instead {α : Type} (a a' x y : α) : Prop := x = y ∨ x = a ∧ y = a'

namespace View

variable {base : Scene} {v w : View} {r r' : RoutineId} {F G : Block}

/-- The scenes agree, and the same was heard. -/
def Heard (base : Scene) (v w : View) : Prop :=
  base.Ahead 0 v.scene w.scene ∧ w.log.map Sighting.notice = v.log.map Sighting.notice

/-- A block that has the name and the first line of another. -/
structure Alike (b c : Block) : Prop where
  name : c.name = b.name
  firstLine : c.firstLine = b.firstLine
  callees : c.callees = b.callees

theorem Heard.on (h : Heard base v w) {f g : Scene → Scene}
    (ahead : base.Ahead 0 (f v.scene) (g w.scene)) : Heard base (v.on f) (w.on g) := ⟨ahead, h.2⟩

/-- One more announcement is made on both sides. -/
theorem Heard.hear (h : Heard base v w) {f g : Frame} (name : g.block.name = f.block.name)
    (line : g.line = f.line) (event : TraceEvent) (suspended : Bool) :
    (⟨w.scene, { g with suspended }, event⟩ :: w.log).map Sighting.notice =
      (⟨v.scene, { f with suspended }, event⟩ :: v.log).map Sighting.notice := by
  rw [List.map_cons, List.map_cons, h.2]
  unfold Sighting.notice
  simp only [h.1.thread, h.1.clock_eq, name, line]

theorem Alike.of_instead (alike : Alike F G) {b c : Block} (both : Instead F G b c) : Alike b c := by
  rcases both with rfl | ⟨rfl, rfl⟩
  · exact ⟨rfl, rfl, rfl⟩
  · exact alike

/-- Frames that echo each other are at the same line. -/
theorem Alike.line (alike : Alike F G) {f g : Frame} (echoes : f.Echoes (Instead F G) g) :
    g.line = f.line := by
  rcases echoes.line with same | ⟨left, right⟩
  · exact same
  · rw [left, right, (alike.of_instead echoes.pair).firstLine]

theorem Instead.scope (same : (base.routine r').scope = (base.routine r).scope) {x y : RoutineId}
    (both : Instead r r' x y) : (base.routine y).scope = (base.routine x).scope := by
  rcases both with rfl | ⟨rfl, rfl⟩
  · rfl
  · exact same

/-- **The same is heard** of a run in which a copy stands for the block, under the same name. -/
theorem heard (code : base.codeOf r = F) (code' : base.codeOf r' = G) (copies : F.Copies G)
    (alike : Alike F G) (scope : (base.routine r').scope = (base.routine r).scope) :
    Carries (Instead F G) (Instead r r') G.padding (Heard base) where
  pair := by
    rintro b c (rfl | ⟨rfl, rfl⟩)
    · exact .inl rfl
    · exact .inr ⟨copies, Nat.le_refl _⟩
  callees {b c} both i := by
    rw [(alike.of_instead both).callees]
    cases b.callees[i]? with
    | none => exact .none
    | some x => exact .some (.inl rfl)
  code {v w} h x y both := by
    rw [(h.1.codeOf x).1, (h.1.codeOf y).2]
    rcases both with rfl | ⟨rfl, rfl⟩
    · exact .inl rfl
    · exact .inr ⟨code, code'⟩
  newFrame h := h.on h.1.addFrame
  work h ticks := h.on (h.1.spend ticks)
  enter h _ _ both := h.on (h.1.enterScope (Instead.scope scope both))
  leave h _ _ both := h.on (h.1.leaveScope (Instead.scope scope both))
  enterFrame h _ _ echoes :=
    ⟨h.1, h.hear (alike.of_instead echoes.pair).name (alike.line echoes) .call false⟩
  startLine h _ _ echoes same :=
    ⟨h.1.update _ _, h.hear (alike.of_instead echoes.pair).name same .line false⟩
  depart h _ _ echoes flow :=
    ⟨h.1.update _ _, h.hear (alike.of_instead echoes.pair).name (alike.line echoes) .ret
      (flow = .yielded)⟩
  unwind {v w} h f g echoes := by
    have name := (alike.of_instead echoes.pair).name
    have both : Heard base { v with log := ⟨v.scene, { f with suspended := false }, .exception⟩ :: v.log }
        { w with log := ⟨w.scene, { g with suspended := false }, .exception⟩ :: w.log } :=
      ⟨h.1, h.hear name (alike.line echoes) .exception false⟩
    exact ⟨h.1.update _ _, both.hear name (alike.line echoes) .ret false⟩
  count h p := h.1.count p
  thread h thread := h.on (h.1.withThread thread)
  raise h p := h.on (h.1.raise p)
  lower h p := h.on (h.1.lower p)

/-! ### What is charged -/

end View

/-- What two routines call besides themselves never comes back to the code of either. -/
structure Scene.Enclosed (s : Scene) (r r' : RoutineId) (inner : RoutineId → Prop) : Prop where
  calls : ∀ x ∈ (s.codeOf r).callees, x = r ∨ inner x
  calls' : (s.codeOf r').callees = (s.codeOf r).callees.map fun x => if x = r then r' else x
  apart : ∀ x, inner x → (s.codeOf x).identity ≠ (s.codeOf r).identity ∧
    (s.codeOf x).identity ≠ (s.codeOf r').identity
  closed : ∀ x, inner x → ∀ y ∈ (s.codeOf x).callees, inner y

/-- A routine that is called by both, or the two themselves. -/
def Inner (inner : RoutineId → Prop) (r r' x y : RoutineId) : Prop :=
  x = r ∧ y = r' ∨ x = y ∧ inner x

namespace View

variable {base : Scene} {v w : View} {r r' : RoutineId} {inner : RoutineId → Prop} {lead : Nat}
  {p : ProfilerId} {g g' : BlockHash} {kept kept' : UInt32 → Cell}

/-- What a profiler charges to one block in the first view it charges to another in the second, and
otherwise nothing to either of them. -/
structure Charged (base : Scene) (lead : Nat) (p : ProfilerId) (g g' : BlockHash)
    (kept kept' : UInt32 → Cell) (v w : View) : Prop where
  ahead : base.Ahead lead v.scene w.scene
  later : base.clock.toNat ≤ v.scene.clock.toNat
  bare : (v.scene.profiler p).bare = (base.profiler p).bare
  bare' : (w.scene.profiler p).bare = (base.profiler p).bare
  matched : Scene.Exact lead w.scene → Scene.Matched lead p g g' v.scene w.scene
  kept : ∀ line, v.scene.cell p g' line = kept line
  kept' : ∀ line, w.scene.cell p g line = kept' line

namespace Charged

/-- Changes that leave profilers alone, and do not set the clock back. -/
theorem on (h : Charged base lead p g g' kept kept' v w) {f f' : Scene → Scene}
    (ahead : base.Ahead lead (f v.scene) (f' w.scene))
    (left : (f v.scene).profiler p = v.scene.profiler p)
    (right : (f' w.scene).profiler p = w.scene.profiler p)
    (clock : v.scene.clock.toNat ≤ (f v.scene).clock.toNat)
    (clock' : w.scene.clock.toNat ≤ (f' w.scene).clock.toNat) :
    Charged base lead p g g' kept kept' (v.on f) (w.on f') := by
  refine ⟨ahead, Nat.le_trans h.later clock, (congrArg Profiler.bare left).trans h.bare,
    (congrArg Profiler.bare right).trans h.bare',
    fun exact => (h.matched (exact.imp id fun low => ?_)).same left right,
    fun line => ?_, fun line => ?_⟩
  · exact Nat.lt_of_le_of_lt clock' low
  · unfold Scene.cell View.on
    rw [left]
    exact h.kept line
  · unfold Scene.cell View.on
    rw [right]
    exact h.kept' line

/-- A line of a block starts on both sides. -/
theorem recordLine (h : Charged base lead p g g' kept kept' v w) {b c : BlockHash}
    (both : b = g ↔ c = g') (other : b ≠ g') (other' : c ≠ g) (line : UInt32)
    (log log' : List Sighting) :
    Charged base lead p g g' kept kept' ⟨v.scene.recordLine b line, log⟩
      ⟨w.scene.recordLine c line, log'⟩ := by
  have once := h.ahead.fair.once
  have once' := h.ahead.once'
  refine ⟨h.ahead.update _ _, h.later, (v.scene.bare_recordLine b line p).trans h.bare,
    (w.scene.bare_recordLine c line p).trans h.bare',
    fun exact => (h.matched exact).recordLine h.ahead exact both line, fun l => ?_, fun l => ?_⟩
  · simp only
    rw [Scene.cell_recordLine once, if_neg fun there => other there.2]
    exact h.kept l
  · simp only
    rw [Scene.cell_recordLine once', if_neg fun there => other' there.2]
    exact h.kept' l

/-- A block is left on both sides. -/
theorem recordExit (h : Charged base lead p g g' kept kept' v w) {b c : BlockHash}
    (both : b = g ↔ c = g') (other : b ≠ g') (other' : c ≠ g) (log log' : List Sighting) :
    Charged base lead p g g' kept kept' ⟨v.scene.recordExit b, log⟩ ⟨w.scene.recordExit c, log'⟩ := by
  have once := h.ahead.fair.once
  have once' := h.ahead.once'
  refine ⟨h.ahead.update _ _, h.later, (v.scene.bare_recordExit b p).trans h.bare,
    (w.scene.bare_recordExit c p).trans h.bare',
    fun exact => (h.matched exact).recordExit h.ahead exact both, fun l => ?_, fun l => ?_⟩
  · simp only
    rw [Scene.cell_recordExit once, if_neg fun there => other there.2]
    exact h.kept l
  · simp only
    rw [Scene.cell_recordExit once', if_neg fun there => other' there.2]
    exact h.kept' l

end Charged

/-- Blocks that run in the same place: the block and its copy, or one that both call. -/
def Beside (base : Scene) (r r' : RoutineId) (inner : RoutineId → Prop) (b c : Block) : Prop :=
  ∃ x y, Inner inner r r' x y ∧ b = base.codeOf x ∧ c = base.codeOf y

section

variable (copies : (base.codeOf r).Copies (base.codeOf r'))
  (differ : (base.codeOf r).identity ≠ (base.codeOf r').identity)
  (enclosed : base.Enclosed r r' inner) (scope : (base.routine r').scope = (base.routine r).scope)

include scope in
theorem scope_of_inner {x y : RoutineId} (both : Inner inner r r' x y) :
    (base.routine y).scope = (base.routine x).scope := by
  rcases both with ⟨rfl, rfl⟩ | ⟨rfl, -⟩
  · exact scope
  · rfl

include differ enclosed in
/-- The block runs where its copy does, and neither run has the other's code. -/
theorem Beside.told {b c : Block} (both : Beside base r r' inner b c) :
    (b.identity = (base.codeOf r).identity ↔ c.identity = (base.codeOf r').identity) ∧
      b.identity ≠ (base.codeOf r').identity ∧ c.identity ≠ (base.codeOf r).identity := by
  obtain ⟨x, y, ⟨rfl, rfl⟩ | ⟨rfl, there⟩, rfl, rfl⟩ := both
  · exact ⟨⟨fun _ => rfl, fun _ => rfl⟩, differ, differ.symm⟩
  · obtain ⟨left, right⟩ := enclosed.apart x there
    exact ⟨⟨fun h => absurd h left, fun h => absurd h right⟩, right, left⟩

include enclosed in
theorem Beside.callees {b c : Block} (both : Beside base r r' inner b c) (i : Nat) :
    Option.Rel (Inner inner r r') b.callees[i]? c.callees[i]? := by
  obtain ⟨x, y, ⟨rfl, rfl⟩ | ⟨rfl, there⟩, rfl, rfl⟩ := both
  · rw [enclosed.calls', List.getElem?_map]
    cases found : (base.codeOf x).callees[i]? with
    | none => exact .none
    | some callee =>
      refine .some ?_
      simp only
      split
      · exact .inl ⟨‹_›, rfl⟩
      · rename_i other
        exact .inr ⟨rfl, (enclosed.calls callee (List.mem_of_getElem? found)).resolve_left other⟩
  · cases found : (base.codeOf x).callees[i]? with
    | none => exact .none
    | some callee =>
      exact .some (.inr ⟨rfl, enclosed.closed x there callee (List.mem_of_getElem? found)⟩)

include copies differ enclosed scope in
/-- **The same is charged** to the block in one run and to its copy in another. -/
theorem charged (lead : Nat) (p : ProfilerId) (kept kept' : UInt32 → Cell) :
    Carries (Beside base r r' inner) (Inner inner r r') (base.codeOf r').padding
      (Charged base lead p (base.codeOf r).identity (base.codeOf r').identity kept kept') where
  pair := by
    rintro b c ⟨x, y, ⟨rfl, rfl⟩ | ⟨rfl, -⟩, rfl, rfl⟩
    · exact .inr ⟨copies, Nat.le_refl _⟩
    · exact .inl rfl
  callees both i := both.callees enclosed i
  code h x y both := ⟨x, y, both, (h.ahead.codeOf x).1, (h.ahead.codeOf y).2⟩
  newFrame h := h.on h.ahead.addFrame rfl rfl (Nat.le_refl _) (Nat.le_refl _)
  work {v w} h ticks := h.on (h.ahead.spend ticks) (Scene.spend_profiler _ _ _)
    (Scene.spend_profiler _ _ _) (v.scene.le_spend ticks) (w.scene.le_spend ticks)
  enter h x y both := by
    refine h.on (h.ahead.enterScope (scope_of_inner scope both)) (Scene.enterScope_profiler _ _ _)
      (Scene.enterScope_profiler _ _ _) (Nat.le_of_eq ?_) (Nat.le_of_eq ?_)
    · rw [Scene.enterScope_clock]
    · rw [Scene.enterScope_clock]
  leave h x y both := by
    refine h.on (h.ahead.leaveScope (scope_of_inner scope both)) (Scene.leaveScope_profiler _ _ _)
      (Scene.leaveScope_profiler _ _ _) (Nat.le_of_eq ?_) (Nat.le_of_eq ?_)
    · rw [Scene.leaveScope_clock]
    · rw [Scene.leaveScope_clock]
  enterFrame h _ _ _ := ⟨h.ahead, h.later, h.bare, h.bare', h.matched, h.kept, h.kept'⟩
  startLine h f g echoes same := by
    obtain ⟨both, other, other'⟩ := echoes.pair.told differ enclosed
    have recorded := h.recordLine both other other' f.line
    unfold View.startLine
    rw [same]
    exact recorded _ _
  depart h _ _ echoes _ := by
    obtain ⟨both, other, other'⟩ := echoes.pair.told differ enclosed
    exact h.recordExit both other other' _ _
  unwind h _ _ echoes := by
    obtain ⟨both, other, other'⟩ := echoes.pair.told differ enclosed
    exact h.recordExit both other other' _ _
  count h q := h.ahead.count q
  thread h thread := h.on (h.ahead.withThread thread) rfl rfl (Nat.le_refl _) (Nat.le_refl _)
  raise h q := h.on (h.ahead.raise q) rfl rfl (Nat.le_refl _) (Nat.le_refl _)
  lower h q := by
    refine h.on (h.ahead.lower q) (Scene.lower_profiler _ _ _) (Scene.lower_profiler _ _ _)
      (Nat.le_of_eq ?_) (Nat.le_of_eq ?_)
    · rw [Scene.lower_clock]
    · rw [Scene.lower_clock]

end

end View

end LineClock

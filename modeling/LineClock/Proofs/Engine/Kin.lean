import Mathlib.Data.List.Forall2
import LineClock.Proofs.Engine.Audience
import LineClock.Proofs.Engine.Scopes

/-!
# What a profiler cannot tell apart

To a profiler it makes no difference whether a routine is called or a wrapper of it that switches
another profiler. Routines are `Kin` for a profiler if they run the code of one slot, and both or
neither switch the profiler; blocks are kin if they differ in nothing but whom they call, and call
kin; scenes are kin if their code is, and nothing else differs but who else is on and what others
recorded.

Recording and switching keep scenes kin, and so does switching another profiler in one of them.
-/

namespace LineClock

open Machine Engine

section

variable {α β : Type} {R : α → β → Prop} {as : List α} {bs : List β}

/-- What stands in the same place of related lists is related. -/
theorem forall₂_getElem? (h : List.Forall₂ R as bs) (i : Nat) : Option.Rel R as[i]? bs[i]? := by
  induction h generalizing i with
  | nil => exact .none
  | cons head tail ih =>
    cases i with
    | zero => exact .some head
    | succ i => exact ih i

theorem forall₂_set (h : List.Forall₂ R as bs) (i : Nat) {a : α} {b : β} (both : R a b) :
    List.Forall₂ R (as.set i a) (bs.set i b) := by
  induction h generalizing i with
  | nil => exact .nil
  | cons head tail ih =>
    cases i with
    | zero => exact .cons both tail
    | succ i => exact .cons head (ih i)

end

variable {p q : ProfilerId} {table : Assoc RoutineId Routine} {s t : Scene}

/-! ## Routines and blocks -/

/-- Routines that a profiler cannot tell apart: one and the same, or two that run the code of one slot
and both or neither switch the profiler. -/
def Kin (p : ProfilerId) (table : Assoc RoutineId Routine) (r r' : RoutineId) : Prop :=
  r = r' ∨ ∃ x y, table.get? r = some x ∧ table.get? r' = some y ∧ x.slot = y.slot ∧
    x.switches p = y.switches p

/-- What is in a table stays in it. -/
def Grows (table table' : Assoc RoutineId Routine) : Prop :=
  ∀ r x, table.get? r = some x → table'.get? r = some x

theorem Grows.refl (table : Assoc RoutineId Routine) : Grows table table := fun _ _ found => found

theorem Grows.trans {table table' table'' : Assoc RoutineId Routine} (h : Grows table table')
    (h' : Grows table' table'') : Grows table table'' := fun r x found => h' r x (h r x found)

theorem Kin.mono {table' : Assoc RoutineId Routine} {r r' : RoutineId} (h : Kin p table r r')
    (kept : Grows table table') : Kin p table' r r' := by
  rcases h with same | ⟨x, y, found, found', alike⟩
  · exact .inl same
  · exact .inr ⟨x, y, kept r x found, kept r' y found', alike⟩

namespace Block

/-- The block with other callees. -/
def relink (b : Block) (callees : List RoutineId) : Block := { b with callees }

/-- Blocks that a profiler cannot tell apart: they call kin, and are the same otherwise. -/
def Kin (p : ProfilerId) (table : Assoc RoutineId Routine) (b c : Block) : Prop :=
  ∃ callees, List.Forall₂ (LineClock.Kin p table) b.callees callees ∧ c = b.relink callees

namespace Kin

variable {b c : Block}

theorem refl (b : Block) : Kin p table b b :=
  ⟨b.callees, List.forall₂_same.mpr fun _ _ => .inl rfl, rfl⟩

theorem mono {table' : Assoc RoutineId Routine} (h : Kin p table b c) (kept : Grows table table') :
    Kin p table' b c := by
  obtain ⟨callees, kin, rfl⟩ := h
  exact ⟨callees, kin.imp fun _ _ kin => kin.mono kept, rfl⟩

/-- Kin have the same identity. -/
theorem identity (h : Kin p table b c) : c.identity = b.identity := by
  obtain ⟨callees, -, rfl⟩ := h
  rfl

/-- Copies of kin are kin. -/
theorem withPadding (h : Kin p table b c) (units : Nat) (id : BlockId) :
    Kin p table (b.withPadding units id) (c.withPadding units id) := by
  obtain ⟨callees, kin, rfl⟩ := h
  exact ⟨callees, kin, rfl⟩

end Kin

end Block

/-! ## Scenes -/

namespace Scene

/-- A scene without its code, what was recorded, who is on, and where. -/
def outline (s : Scene) : Scene := { s.bare with code := {}, thread := 0 }

/-- Scenes that a profiler cannot tell apart, but for the thread that runs. -/
structure Kin (p : ProfilerId) (s t : Scene) : Prop where
  outline : s.outline = t.outline
  code : ∀ slot, Block.Kin p s.routines (s.code.getD slot default) (t.code.getD slot default)
  own : s.profiler p = t.profiler p
  count : ∀ th, ({ active := s.active th } : Dispatch).countOf p =
    ({ active := t.active th } : Dispatch).countOf p
  fair : s.AllFair
  fair' : t.AllFair
  numbered : s.routines.keys = List.range s.routines.entries.length

namespace Kin

variable (h : Kin p s t)

include h

/-- Whatever the outline shows is the same. -/
theorem shown {α : Type} (f : Scene → α) (hf : ∀ s : Scene, f s.outline = f s) : f s = f t := by
  rw [← hf s, ← hf t, h.outline]

theorem clock : s.clock = t.clock := h.shown Scene.clock fun _ => rfl

theorem frames : s.frames = t.frames := h.shown Scene.frames fun _ => rfl

theorem routines : s.routines = t.routines := h.shown Scene.routines fun _ => rfl

theorem routine (id : RoutineId) : s.routine id = t.routine id :=
  h.shown (fun s => s.routine id) fun _ => rfl

/-- Kin run kin. -/
theorem codeOf {r r' : RoutineId} (kin : LineClock.Kin p s.routines r r') :
    Block.Kin p s.routines (s.codeOf r) (t.codeOf r') := by
  have slot : (s.routine r).slot = (t.routine r').slot := by
    rw [← h.routine]
    rcases kin with rfl | ⟨x, y, found, found', same, -⟩
    · rfl
    · unfold Scene.routine Assoc.getD
      rw [found, found']
      exact same
  unfold Scene.codeOf
  rw [slot]
  exact h.code _

/-- Whether the profiler is on. -/
theorem isOn (here : s.thread = t.thread) : s.isOn p = t.isOn p := by
  have count : s.count p = t.count p := by
    have same := h.count t.thread
    rw [← here] at same
    unfold Scene.count Scene.here
    rw [← here]
    exact same
  rw [Bool.eq_iff_iff, h.fair.isOn_iff, h.fair'.isOn_iff, count]

/-- What the profiler's clock shows. -/
theorem time : s.time p = t.time p := by
  unfold Scene.time Scene.now
  rw [h.own, h.clock]

/-- Which thread runs is left open. -/
theorem goTo (th th' : ThreadKey) : Kin p { s with thread := th } { t with thread := th' } :=
  { h with }

theorem addFrame : Kin p s.addFrame t.addFrame :=
  { h with outline := congrArg Scene.addFrame h.outline }

theorem withClock (clock : Counter) : Kin p (s.withClock clock) (t.withClock clock) :=
  { h with outline := congrArg (Scene.withClock · clock) h.outline }

/-! ### Recording -/

/-- Something is recorded on both sides, the same for the profiler. -/
theorem update {f g : Profiler → Profiler} (tallied : ∀ r, (f r).bare = r.bare)
    (tallied' : ∀ r, (g r).bare = r.bare)
    (own : (s.update f).profiler p = (t.update g).profiler p) : Kin p (s.update f) (t.update g) := by
  have outline : ∀ {s : Scene} {f : Profiler → Profiler}, (∀ r, (f r).bare = r.bare) →
      (s.update f).outline = s.outline := by
    intro s f tallied
    unfold Scene.outline
    rw [s.bare_updated tallied]
  exact { h with
    outline := (outline tallied).trans (h.outline.trans (outline tallied').symm)
    own }

theorem recordLine (here : s.thread = t.thread) (block : BlockHash) (line : UInt32) :
    Kin p (s.recordLine block line) (t.recordLine block line) := by
  refine h.update (fun r => r.bare_lineStarts _ _ _ _) (fun r => r.bare_lineStarts _ _ _ _) ?_
  have left := profiler_recordLine h.fair.once block line p
  have right := profiler_recordLine h.fair'.once block line p
  rw [h.isOn here, h.own, here, h.time] at left
  exact left.trans right.symm

theorem recordExit (here : s.thread = t.thread) (block : BlockHash) :
    Kin p (s.recordExit block) (t.recordExit block) := by
  refine h.update (fun r => r.bare_blockLeft _ _ _) (fun r => r.bare_blockLeft _ _ _) ?_
  have left := profiler_recordExit h.fair.once block p
  have right := profiler_recordExit h.fair'.once block p
  rw [h.isOn here, h.own, here, h.time] at left
  exact left.trans right.symm

/-! ### Switching -/

/-- Others are switched on both sides, the profiler in the same way. -/
theorem active {f g : ThreadKey → List (ProfilerId × Nat)} (fair : ∀ th, Fair (f th))
    (fair' : ∀ th, Fair (g th))
    (count : ∀ th, ({ active := f th } : Dispatch).countOf p = ({ active := g th } : Dispatch).countOf p) :
    Kin p { s with active := f } { t with active := g } :=
  { h with fair, fair', count }

/-- Scenes that differ from kin in nothing but who else is on. -/
theorem switched {s' t' : Scene} (left : s' = { s with active := s'.active })
    (right : t' = { t with active := t'.active }) (fair : s'.AllFair) (fair' : t'.AllFair)
    (count : ∀ th, ({ active := s'.active th } : Dispatch).countOf p =
      ({ active := t'.active th } : Dispatch).countOf p) : Kin p s' t' := by
  have both := h.active fair fair' count
  rwa [← left, ← right] at both

theorem raise (here : s.thread = t.thread) (q : ProfilerId) : Kin p (s.raise q) (t.raise q) := by
  refine h.switched (s.raise_eq q) (t.raise_eq q) (h.fair.raise q) (h.fair'.raise q) fun th => ?_
  rw [countOf_raise, countOf_raise, here, h.count]

theorem lower (here : s.thread = t.thread) (q : ProfilerId) : Kin p (s.lower q) (t.lower q) := by
  refine h.switched (s.lower_eq q) (t.lower_eq q) (h.fair.lower q) (h.fair'.lower q) fun th => ?_
  rw [countOf_lower, countOf_lower, here, h.count]

/-- Another profiler is switched on the first side. -/
theorem raise_left (other : q ≠ p) : Kin p (s.raise q) t := by
  refine h.switched (s.raise_eq q) rfl (h.fair.raise q) h.fair' fun th => ?_
  rw [countOf_raise, if_neg fun h => other h.2, h.count]
  rfl

theorem lower_left (other : q ≠ p) : Kin p (s.lower q) t := by
  refine h.switched (s.lower_eq q) rfl (h.fair.lower q) h.fair' fun th => ?_
  rw [countOf_lower, if_neg fun h => other h.2, h.count]
  rfl

/-- Another profiler is switched on the second side. -/
theorem raise_right (other : q ≠ p) : Kin p s (t.raise q) := by
  refine h.switched rfl (t.raise_eq q) h.fair (h.fair'.raise q) fun th => ?_
  rw [countOf_raise, if_neg fun h => other h.2, h.count]
  rfl

theorem lower_right (other : q ≠ p) : Kin p s (t.lower q) := by
  refine h.switched rfl (t.lower_eq q) h.fair (h.fair'.lower q) fun th => ?_
  rw [countOf_lower, if_neg fun h => other h.2, h.count]
  rfl

/-- Kin both switch the profiler, or neither does. -/
theorem switches {r r' : RoutineId} (kin : LineClock.Kin p s.routines r r') :
    (s.routine r).switches p = (t.routine r').switches p := by
  rw [← h.routine]
  rcases kin with rfl | ⟨x, y, found, found', -, same⟩
  · rfl
  · unfold Scene.routine Assoc.getD
    rw [found, found']
    exact same

/-- The scopes of kin are entered. -/
theorem enterScope (here : s.thread = t.thread) {r r' : RoutineId}
    (kin : LineClock.Kin p s.routines r r') : Kin p (s.enterScope r) (t.enterScope r') := by
  refine h.switched (s.enterScope_eq r) (t.enterScope_eq r') (h.fair.enterScope r)
    (h.fair'.enterScope r') fun th => ?_
  rw [countOf_enterScope, countOf_enterScope, here, h.switches kin, h.count]

/-- The scopes of kin are left. -/
theorem leaveScope (here : s.thread = t.thread) {r r' : RoutineId}
    (kin : LineClock.Kin p s.routines r r') : Kin p (s.leaveScope r) (t.leaveScope r') := by
  refine h.switched (s.leaveScope_eq r) (t.leaveScope_eq r') (h.fair.leaveScope r)
    (h.fair'.leaveScope r') fun th => ?_
  rw [countOf_leaveScope, countOf_leaveScope, here, h.switches kin, h.count]

end Kin

/-! ## Scenes of a run -/

/-- Kin scenes with the same thread running, and the routines that there are. -/
structure Level (p : ProfilerId) (table : Assoc RoutineId Routine) (s t : Scene) : Prop where
  kin : s.Kin p t
  here : s.thread = t.thread
  table : s.routines = table

namespace Level

variable {table : Assoc RoutineId Routine} (h : Level p table s t)

include h

theorem addFrame : Level p table s.addFrame t.addFrame := ⟨h.kin.addFrame, h.here, h.table⟩

theorem withClock (clock : Counter) : Level p table (s.withClock clock) (t.withClock clock) :=
  ⟨h.kin.withClock clock, h.here, h.table⟩

theorem spend (ticks : Counter) : Level p table (s.spend ticks) (t.spend ticks) := by
  unfold Scene.spend
  rw [h.kin.clock]
  exact h.withClock _

theorem recordLine (block : BlockHash) (line : UInt32) :
    Level p table (s.recordLine block line) (t.recordLine block line) :=
  ⟨h.kin.recordLine h.here block line, h.here, h.table⟩

theorem recordExit (block : BlockHash) : Level p table (s.recordExit block) (t.recordExit block) :=
  ⟨h.kin.recordExit h.here block, h.here, h.table⟩

theorem raise (q : ProfilerId) : Level p table (s.raise q) (t.raise q) :=
  ⟨h.kin.raise h.here q, h.here, h.table⟩

theorem lower (q : ProfilerId) : Level p table (s.lower q) (t.lower q) := by
  refine ⟨h.kin.lower h.here q, ?_, ?_⟩
  · rw [s.lower_eq, t.lower_eq]
    exact h.here
  · rw [s.lower_eq]
    exact h.table

theorem enterScope {r r' : RoutineId} (kin : LineClock.Kin p table r r') :
    Level p table (s.enterScope r) (t.enterScope r') := by
  obtain ⟨kin', here, rfl⟩ := h
  obtain ⟨thread, routines⟩ := s.enterScope_outer r
  exact ⟨kin'.enterScope here kin, thread.trans (here.trans (t.enterScope_outer r').1.symm), routines⟩

theorem leaveScope {r r' : RoutineId} (kin : LineClock.Kin p table r r') :
    Level p table (s.leaveScope r) (t.leaveScope r') := by
  obtain ⟨kin', here, rfl⟩ := h
  obtain ⟨thread, routines⟩ := s.leaveScope_outer r
  exact ⟨kin'.leaveScope here kin, thread.trans (here.trans (t.leaveScope_outer r').1.symm), routines⟩

end Level

end Scene

end LineClock

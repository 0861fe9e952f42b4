import LineClock.Proofs.Machine.Simulation

/-!
# Frames in custody

What holds of a state may depend on the frames that are not finished and on whether line events are
delivered for them: those that wait in the machine for a call to come back, those that somebody keeps
for later, and the one that runs. A host that keeps such a fact through every announcement, where the
answer says what becomes of the frame, keeps it through programs.

Main statements: `Custody.call` and `Custody.step`.
-/

namespace LineClock.Machine

/-- The frames that are not finished, with whether line events are delivered for them. -/
abbrev Flags := FrameId → Option Bool

namespace Flags

/-- A frame with its flag. -/
def put (c : Flags) (id : FrameId) (linesOn : Bool) : Flags :=
  fun i => if i = id then some linesOn else c i

/-- A frame is finished. -/
def drop (c : Flags) (id : FrameId) : Flags := fun i => if i = id then none else c i

variable {c : Flags} {id : FrameId}

@[simp] theorem put_self (c : Flags) (id : FrameId) (linesOn : Bool) :
    c.put id linesOn id = some linesOn := if_pos rfl

theorem put_of_ne {i : FrameId} (other : i ≠ id) (linesOn : Bool) : c.put id linesOn i = c i :=
  if_neg other

@[simp] theorem put_put (c : Flags) (id : FrameId) (before after : Bool) :
    (c.put id before).put id after = c.put id after := by
  funext i
  unfold put
  split <;> rfl

theorem put_same {linesOn : Bool} (there : c id = some linesOn) : c.put id linesOn = c := by
  funext i
  unfold put
  split
  · rename_i this
    rw [this, there]
  · rfl

/-- A frame comes and goes. -/
theorem drop_put (fresh : c id = none) (linesOn : Bool) : (c.put id linesOn).drop id = c := by
  funext i
  unfold drop put
  split
  · rename_i this
    rw [this, fresh]
  · rfl

/-- A frame goes and comes back. -/
theorem put_drop {linesOn : Bool} (there : c id = some linesOn) :
    (c.drop id).put id linesOn = c := by
  funext i
  unfold drop put
  split
  · rename_i this
    rw [this, there]
  · rename_i other
    exact if_neg other

@[simp] theorem drop_self (c : Flags) (id : FrameId) : c.drop id id = none := if_pos rfl

theorem drop_of_ne {i : FrameId} (other : i ≠ id) : c.drop id i = c i := if_neg other

end Flags

variable {σ : Type}

/-- A host that keeps `P` of its state and the frames that are not finished. The last return event
of a frame finishes it, whatever is answered; every other answer is the flag of the frame from then
on, and a failure leaves the flag. -/
structure Custody (h : Host σ) (P : Flags → σ → Prop) : Prop where
  drop : ∀ {c x}, P c x → ∀ id, P (c.drop id) x
  newFrame : ∀ {c x}, P c x →
    c (h.newFrame x).1 = none ∧ P (c.put (h.newFrame x).1 true) (h.newFrame x).2
  work : ∀ {c x}, P c x → ∀ units, P c (h.work units x).2
  monitor : ∀ {c x}, P c x → ∀ event, P c (answer (h.monitor event) x).2
  enter : ∀ {c x}, P c x → ∀ routine, P c (answer (h.enter routine) x).2
  leave : ∀ {c x}, P c x → ∀ routine, P c (h.leave routine x).2
  trace : ∀ {c x}, P c x → ∀ frame event, c frame.id = some frame.linesOn →
    (event = .line → frame.linesOn = true) →
    match answer (h.trace frame event) x with
    | (.ok linesOn, x') =>
      P (if event = .ret ∧ ¬ frame.suspended then c.drop frame.id else c.put frame.id linesOn) x'
    | (.error _, x') => P (if event = .ret ∧ ¬ frame.suspended then c.drop frame.id else c) x'

namespace Custody

variable {h : Host σ} {P : Flags → σ → Prop} {c : Flags} {id : FrameId}

/-- A frame that runs beside those of `c`. -/
def Within (P : Flags → σ → Prop) (c : Flags) (id : FrameId) (a : Activation) (x : σ) : Prop :=
  a.frame.id = id ∧ P (c.put id a.frame.linesOn) x

/-- An event that does not finish the frame. -/
theorem signal (custody : Custody h P) {event : TraceEvent} {suspended : Bool}
    (goes : ¬ (event = .ret ∧ ¬ suspended)) :
    Leaves (Within P c id) (Machine.signal h event suspended) := by
  rintro a x ⟨rfl, there⟩
  rw [out_signal_eq]
  split
  · rename_i told
    have lit : event = .line → a.frame.linesOn = true := fun line => told.resolve_left fun h => h line
    have there' := custody.trace there { a.frame with suspended } event
      (Flags.put_self c a.frame.id a.frame.linesOn) lit
    simp only [if_neg goes, Flags.put_put] at there'
    rcases told : answer (h.trace { a.frame with suspended } event) x with ⟨_ | on, x'⟩ <;>
      rw [told] at there' <;> exact ⟨rfl, there'⟩
  · exact ⟨rfl, there⟩

theorem notify (custody : Custody h P) (kind : EventKind) :
    Leaves (Within P c id) (Machine.notify h kind) := by
  rintro a x ⟨rfl, there⟩
  have there' := custody.monitor there ⟨kind, a.frame.block, a.frame.offset, a.frame.line⟩
  rw [out_notify_eq]
  rcases heard : answer (h.monitor ⟨kind, a.frame.block, a.frame.offset, a.frame.line⟩) x with
    ⟨_ | _, x'⟩ <;> rw [heard] at there' <;> exact ⟨rfl, there'⟩

theorem startLine (custody : Custody h P) : Leaves (Within P c id) (Machine.startLine h) :=
  (custody.signal (by simp)).bind fun _ => custody.notify .line

theorem enterFrame (custody : Custody h P) : Leaves (Within P c id) (Machine.enterFrame h) := by
  refine (custody.signal (by simp)).bind fun _ => ?_
  rintro a x ⟨rfl, there⟩
  rw [Act.out_bind, Act.out_get]
  simp only
  split
  · exact ⟨rfl, there⟩
  · have there' := custody.monitor there ⟨.start, a.frame.block, 0, a.frame.block.firstLine⟩
    rw [Act.out_bind, Act.out_set]
    simp only
    rw [Act.out_lift]
    rcases heard : answer (h.monitor ⟨.start, a.frame.block, 0, a.frame.block.firstLine⟩) x with
      ⟨_ | _, x'⟩ <;> rw [heard] at there' <;> exact ⟨rfl, there'⟩

/-- The last return event of a frame. -/
theorem finish (custody : Custody h P) (free : c id = none) {a : Activation} {x : σ}
    (there : Within P c id a x) (kind : EventKind) :
    P c ((do Machine.signal h .ret false; Machine.notify h kind : Act σ Unit).out a x).2 := by
  obtain ⟨rfl, there⟩ := there
  rw [Act.out_bind, out_signal_eq, if_pos (.inl (by simp))]
  have gone := custody.trace there { a.frame with suspended := false } .ret
    (Flags.put_self c a.frame.id a.frame.linesOn) fun line => by cases line
  simp only [Bool.false_eq_true, not_false_eq_true, and_self, if_true, Flags.drop_put free] at gone
  rcases told : answer (h.trace { a.frame with suspended := false } .ret) x with ⟨_ | on, x'⟩
  · rw [told] at gone
    exact gone
  · rw [told] at gone
    have gone' := custody.monitor gone ⟨kind, a.frame.block, a.frame.offset, a.frame.line⟩
    simp only
    rw [out_notify_eq]
    rcases heard : answer (h.monitor ⟨kind, a.frame.block, a.frame.offset, a.frame.line⟩) x' with
      ⟨_ | _, _⟩ <;> rw [heard] at gone' <;> exact gone'

/-- A frame that failed is no longer there. -/
theorem lost (custody : Custody h P) (free : c id = none) {a : Activation} {x : σ}
    (there : Within P c id a x) : P c x := by
  have gone := custody.drop there.2 id
  rwa [Flags.drop_put free] at gone

/-- An exception that passes through a frame finishes it, whoever fails. -/
theorem unwind (custody : Custody h P) (free : c id = none) {a : Activation} {x : σ}
    (there : Within P c id a x) (error : ExecError) :
    (∃ e, ((Machine.unwind h error).out a x).1.1 = .error e) ∧
      P c ((Machine.unwind h error).out a x).2 := by
  unfold Machine.unwind
  rw [Act.out_bind]
  have raises : Leaves (Within P c id) (Machine.signal h .exception false) :=
    custody.signal (by simp)
  have raised := raises a x there
  rcases told : (Machine.signal h .exception false).out a x with ⟨⟨e | _, a₁⟩, x₁⟩ <;>
    rw [told] at raised
  · exact ⟨⟨e, rfl⟩, custody.lost free raised⟩
  simp only
  rw [Act.out_bind]
  have notes : Leaves (Within P c id) (Machine.notify h .raise) := custody.notify .raise
  have noted := notes a₁ x₁ raised
  rcases heard : (Machine.notify h .raise).out a₁ x₁ with ⟨⟨e | _, a₂⟩, x₂⟩ <;>
    rw [heard] at noted
  · exact ⟨⟨e, rfl⟩, custody.lost free noted⟩
  have done := custody.finish free noted .unwind
  simp only
  rw [Act.out_bind] at done ⊢
  rcases gone : (Machine.signal h .ret false).out a₂ x₂ with ⟨⟨e | _, a₃⟩, x₃⟩
  · rw [gone] at done
    exact ⟨⟨e, rfl⟩, done⟩
  · rw [gone] at done
    simp only at done ⊢
    rw [Act.out_bind]
    rcases last : (Machine.notify h .unwind).out a₃ x₃ with ⟨⟨e | _, a₄⟩, x₄⟩ <;>
      rw [last] at done <;> exact ⟨⟨_, rfl⟩, done⟩

/-! ## Programs -/

/-- The machine beside itself, while a frame waits or runs beside those of `c`. -/
abbrev Carried (P : Flags → σ → Prop) (c : Flags) (f : Twin) (x y : σ) : Prop :=
  x = y ∧ c f.id = none ∧ P (c.put f.id f.left) x

/-- The bond of a state with itself. -/
def bond (P : Flags → σ → Prop) : Bond Flags σ σ where
  Lost _ := False
  Out c x y := x = y ∧ P c x
  Idle c f x y := f.left = f.right ∧ Carried P c f x y
  Run c f x y := f.left = f.right ∧ Carried P c f x y

/-- What steps leave of a frame beside itself. -/
theorem carried {a a' : Activation} {x' : σ} (free : c a.frame.id = none)
    (there : Within P c a.frame.id a' x') : Carried P c (twin a' a') x' x' := by
  obtain ⟨same, there⟩ := there
  have own : (twin a' a').id = a.frame.id := same
  refine ⟨rfl, ?_, ?_⟩
  · rw [own]
    exact free
  · rw [own]
    exact there

theorem simulation (custody : Custody h P) : Simulation (bond P) h h where
  keeps := Keeps.never h
  code := by
    rintro _ x _ routine ⟨rfl, -⟩
    rfl
  newFrame := by
    rintro _ x _ block ⟨rfl, there⟩
    exact ⟨rfl, rfl, rfl, custody.newFrame there⟩
  rest := by
    rintro c f x _ ⟨-, rfl, free, there⟩
    have gone := custody.drop there f.id
    rw [Flags.drop_put free] at gone
    exact ⟨rfl, gone⟩
  enter := by
    rintro c f x _ routine ⟨same, rfl, free, there⟩
    have entered := custody.enter there routine
    refine .inr ?_
    rcases came : answer (h.enter routine) x with ⟨e | _, x'⟩ <;> rw [came] at entered
    · have gone := custody.drop entered f.id
      rw [Flags.drop_put free] at gone
      exact ⟨rfl, rfl, gone⟩
    · refine ⟨c, ⟨same, rfl, free, entered⟩, ?_, ?_⟩
      · rintro g x _ ⟨same, rfl, free, there⟩
        exact ⟨same, rfl, free, custody.leave there routine⟩
      · rintro x _ ⟨rfl, there⟩
        exact ⟨rfl, custody.leave there routine⟩
  enterFrame c := by
    refine together fun a x y idle => ⟨idle.1, ?_⟩
    have there := custody.enterFrame a x (⟨rfl, idle.2.2⟩ : Within P c a.frame.id a x)
    rcases entered : (Machine.enterFrame h).out a x with ⟨⟨e | _, a'⟩, x'⟩ <;> rw [entered] at there
    · exact ⟨rfl, custody.lost idle.2.1 there⟩
    · exact alongside (P := Carried P c) (carried idle.2.1 there)
  startLine c := by
    refine together fun a x y run => ⟨run.1, ?_⟩
    have there := custody.startLine a x (⟨rfl, run.2.2⟩ : Within P c a.frame.id a x)
    exact alongside (P := Carried P c) (carried run.2.1 there)
  work := by
    rintro c f x _ units ⟨same, rfl, free, there⟩
    exact ⟨same, rfl, free, custody.work there units⟩
  call := by
    rintro c f x _ ⟨same, rfl, free, there⟩
    refine ⟨c.put f.id f.left, ⟨rfl, there⟩, ?_⟩
    rintro x _ ⟨rfl, there⟩
    exact ⟨same, rfl, free, there⟩
  depart c flow := by
    refine together fun a x y run => ⟨run.1, ?_⟩
    have own : Within P c a.frame.id a x := ⟨rfl, run.2.2⟩
    cases flow with
    | returned =>
      have there := custody.finish run.2.1 own .ret
      have same : (Machine.depart h .returned).out a x =
        (do Machine.signal h .ret false; Machine.notify h .ret : Act σ Unit).out a x := rfl
      rw [same]
      rcases gone : (do Machine.signal h .ret false; Machine.notify h .ret : Act σ Unit).out a x with
        ⟨⟨_ | _, a'⟩, x'⟩ <;> rw [gone] at there <;> exact ⟨rfl, there⟩
    | yielded =>
      have leaves : Leaves (Within P c a.frame.id) (Machine.depart h .yielded) :=
        (custody.signal (by simp)).bind fun _ => custody.notify .yield
      have there := leaves a x own
      rcases gone : (Machine.depart h .yielded).out a x with ⟨⟨_ | _, a'⟩, x'⟩ <;> rw [gone] at there
      · exact ⟨rfl, custody.lost run.2.1 there⟩
      · exact alongside (P := Carried P c) (carried run.2.1 there)
  unwind c error := by
    refine together fun a x y run => ⟨run.1, ?_⟩
    obtain ⟨⟨e, failed⟩, there⟩ :=
      custody.unwind run.2.1 (⟨rfl, run.2.2⟩ : Within P c a.frame.id a x) error
    rw [failed]
    exact ⟨rfl, there⟩

/-- **A call from outside** keeps what holds of the frames that wait. -/
theorem call (custody : Custody h P) (budget : Nat) (routine : RoutineId) {x : σ} (there : P c x) :
    P c ((Machine.call h budget routine).out x).2 := by
  rcases custody.simulation.calls budget c routine x x ⟨rfl, there⟩ with lost | ⟨-, -, left⟩
  · exact lost.elim
  · exact left

/-- **A frame that is resumed from outside** is with those that wait again if it yielded, and is
finished otherwise. -/
theorem step (custody : Custody h P) (budget : Nat) (routine : RoutineId) {a : Activation} {x : σ}
    (free : c a.frame.id = none) (there : P (c.put a.frame.id a.frame.linesOn) x) :
    match (Machine.step h budget routine a).out x with
    | (.ok (.yielded, a'), x') =>
      c a'.frame.id = none ∧ P (c.put a'.frame.id a'.frame.linesOn) x'
    | (_, x') => P c x' := by
  rcases custody.simulation.step c budget routine
      (alongside (P := Carried P c) (a := a) ⟨rfl, free, there⟩) with lost | resumed
  · exact lost.elim
  · rcases stepped : (Machine.step h budget routine a).out x with ⟨_ | ⟨_ | _, a'⟩, x'⟩ <;>
      rw [stepped] at resumed
    · exact resumed.2.2
    · exact resumed.2
    · exact (beside (P := Carried P c) resumed).2.2

end Custody

end LineClock.Machine

import LineClock.Proofs.Machine.Simulation

/-!
# What frames leave behind

While a frame runs, something of its block may stand in the state. A host is `Clearing` if everything
that ends a frame takes it away again, also where an announcement fails: then, after a call or a step
from outside, nothing of a frame stands that was not there before.

Main statements: `Clearing.call` and `Clearing.step`.
-/

namespace LineClock.Machine

variable {σ : Type}

/-- A host over states of which `S c n` says that something stands for blocks of `c` at most; `n`
says what the end of a scope has to lead back to. An announcement of a line may put something up for
its block, and what ends a frame takes down what stands for its block. An exception that is not
announced to the end, so that the frame is not left, takes everything down. -/
structure Clearing (h : Host σ) (S : List BlockHash → Nat → σ → Prop) : Prop where
  weaken : ∀ {c c' n x}, S c n x → (∀ b ∈ c, b ∈ c') → S c' n x
  newFrame : ∀ {c n x}, S c n x → S c n (h.newFrame x).2
  work : ∀ {c n x}, S c n x → ∀ units, S c n (h.work units x).2
  trace : ∀ {c n x}, S c n x → ∀ frame event, (event = .line → frame.block.identity ∈ c) →
    S c n (answer (h.trace frame event) x).2
  monitor : ∀ {c n x}, S c n x → ∀ event, (event.kind = .line → event.block.identity ∈ c) →
    S c n (answer (h.monitor event) x).2
  exception : ∀ {c n x e x'}, S c n x → ∀ frame,
    answer (h.trace frame .exception) x = (.error e, x') → S [] n x'
  raise : ∀ {c n x e x'}, S c n x → ∀ event, event.kind = .raise →
    answer (h.monitor event) x = (.error e, x') → S [] n x'
  ends : ∀ {c n x}, ∀ frame, S (frame.block.identity :: c) n x →
    ∀ event, event.kind ∈ [.ret, .yield, .unwind] → event.block = frame.block →
    match answer (h.trace frame .ret) x with
    | (.ok _, x') => S c n (answer (h.monitor event) x').2
    | (.error _, x') => S c n x'
  enter : ∀ {c n x}, S c n x → ∀ routine,
    match answer (h.enter routine) x with
    | (.ok _, x') => ∃ n', S c n' x' ∧ ∀ {x}, S c n' x → S c n (h.leave routine x).2
    | (.error _, x') => S c n x'

namespace Clearing

variable {h : Host σ} {S : List BlockHash → Nat → σ → Prop} {c : List BlockHash} {n : Nat}

/-- A frame of a block, in a state in which something stands for blocks of `c` at most. -/
def Within (S : List BlockHash → Nat → σ → Prop) (block : Block) (c : List BlockHash) (n : Nat)
    (a : Activation) (x : σ) : Prop := a.frame.block = block ∧ S c n x

variable {block : Block}

theorem signal (clearing : Clearing h S) (event : TraceEvent) (suspended : Bool)
    (own : event = .line → block.identity ∈ c) :
    Leaves (Within S block c n) (Machine.signal h event suspended) := by
  rintro a x ⟨rfl, there⟩
  rw [out_signal_eq]
  split
  · have there' := clearing.trace there { a.frame with suspended } event own
    rcases told : answer (h.trace { a.frame with suspended } event) x with ⟨_ | _, x'⟩ <;>
      rw [told] at there' <;> exact ⟨rfl, there'⟩
  · exact ⟨rfl, there⟩

theorem notify (clearing : Clearing h S) (kind : EventKind)
    (own : kind = .line → block.identity ∈ c) :
    Leaves (Within S block c n) (Machine.notify h kind) := by
  rintro a x ⟨rfl, there⟩
  have there' := clearing.monitor there ⟨kind, a.frame.block, a.frame.offset, a.frame.line⟩ own
  rw [out_notify_eq]
  rcases heard : answer (h.monitor ⟨kind, a.frame.block, a.frame.offset, a.frame.line⟩) x with
    ⟨_ | _, x'⟩ <;> rw [heard] at there' <;> exact ⟨rfl, there'⟩

theorem startLine (clearing : Clearing h S) (own : block.identity ∈ c) :
    Leaves (Within S block c n) (Machine.startLine h) :=
  (clearing.signal .line false fun _ => own).bind fun _ => clearing.notify .line fun _ => own

theorem enterFrame (clearing : Clearing h S) :
    Leaves (Within S block c n) (Machine.enterFrame h) := by
  refine (clearing.signal .call false fun line => by cases line).bind fun _ => ?_
  rintro a x ⟨rfl, there⟩
  rw [Act.out_bind, Act.out_get]
  simp only
  split
  · exact ⟨rfl, there⟩
  · have there' := clearing.monitor there ⟨.start, a.frame.block, 0, a.frame.block.firstLine⟩
      fun line => by cases line
    rw [Act.out_bind, Act.out_set]
    simp only
    rw [Act.out_lift]
    rcases heard : answer (h.monitor ⟨.start, a.frame.block, 0, a.frame.block.firstLine⟩) x with
      ⟨_ | _, x'⟩ <;> rw [heard] at there' <;> exact ⟨rfl, there'⟩

/-- Leaving a frame takes down what stands for its block, whoever fails. -/
theorem left (clearing : Clearing h S) {a : Activation} {x : σ} {kind : EventKind}
    (there : S (a.frame.block.identity :: c) n x) (suspended : Bool)
    (left : kind ∈ [.ret, .yield, .unwind]) :
    S c n ((do Machine.signal h .ret suspended; Machine.notify h kind : Act σ Unit).out a x).2 := by
  rw [Act.out_bind, out_signal_eq, if_pos (.inl (by simp))]
  have ends := clearing.ends { a.frame with suspended } there
    ⟨kind, a.frame.block, a.frame.offset, a.frame.line⟩ left rfl
  rcases told : answer (h.trace { a.frame with suspended } .ret) x with ⟨_ | on, x'⟩
  · rw [told] at ends
    exact ends
  · rw [told] at ends
    simp only at ends ⊢
    rw [out_notify_eq]
    rcases heard : answer (h.monitor ⟨kind, a.frame.block, a.frame.offset, a.frame.line⟩) x' with
      ⟨_ | _, _⟩ <;> rw [heard] at ends <;> exact ends

theorem depart (clearing : Clearing h S) {a : Activation} {x : σ}
    (there : S (a.frame.block.identity :: c) n x) (flow : Flow) :
    S c n ((Machine.depart h flow).out a x).2 := by
  refine clearing.left there _ ?_
  split <;> simp

/-- An exception that passes through a frame takes down what stands for its block, whoever fails. -/
theorem unwind (clearing : Clearing h S) {a : Activation} {x : σ}
    (there : S (a.frame.block.identity :: c) n x) (error : ExecError) :
    (∃ e, ((Machine.unwind h error).out a x).1.1 = .error e) ∧
      S c n ((Machine.unwind h error).out a x).2 := by
  have emptied : ∀ {x}, S [] n x → S c n x := fun there => clearing.weaken there fun _ mem => by cases mem
  unfold Machine.unwind
  rw [Act.out_bind, out_signal_eq, if_pos (.inl (by simp))]
  have kept := clearing.trace there { a.frame with suspended := false } .exception fun line => by cases line
  rcases told : answer (h.trace { a.frame with suspended := false } .exception) x with ⟨err | on, x₁⟩
  · exact ⟨⟨_, rfl⟩, emptied (clearing.exception there _ told)⟩
  rw [told] at kept
  simp only
  rw [Act.out_bind, out_notify_eq]
  simp only
  have kept' := clearing.monitor kept ⟨.raise, a.frame.block, a.frame.offset, a.frame.line⟩
    fun line => by cases line
  rcases heard : answer (h.monitor ⟨.raise, a.frame.block, a.frame.offset, a.frame.line⟩) x₁ with
    ⟨err | _, x₂⟩
  · exact ⟨⟨_, rfl⟩, emptied (clearing.raise kept _ rfl heard)⟩
  rw [heard] at kept'
  simp only
  let a' : Activation := { a with frame := { a.frame with linesOn := on } }
  have done := clearing.left (a := a') kept' false (by simp : EventKind.unwind ∈ [.ret, .yield, .unwind])
  rw [Act.out_bind] at done ⊢
  rcases gone : (Machine.signal h .ret false).out a' x₂ with ⟨⟨err | _, a₃⟩, x₃⟩
  · rw [gone] at done
    exact ⟨⟨_, rfl⟩, done⟩
  · rw [gone] at done
    simp only at done ⊢
    rw [Act.out_bind]
    rcases last : (Machine.notify h .unwind).out a₃ x₃ with ⟨⟨err | _, a₄⟩, x₄⟩ <;>
      rw [last] at done <;> exact ⟨⟨_, rfl⟩, done⟩

/-! ## The machine beside itself -/

/-- The machine beside itself, between frames or while a frame waits. -/
abbrev Still (S : List BlockHash → Nat → σ → Prop) (c : List BlockHash × Nat) (_ : Twin) (x y : σ) :
    Prop := x = y ∧ S c.1 c.2 x

/-- The machine beside itself, while a frame runs. -/
abbrev Busy (S : List BlockHash → Nat → σ → Prop) (c : List BlockHash × Nat) (f : Twin) (x y : σ) :
    Prop := x = y ∧ S (f.block.identity :: c.1) c.2 x

/-- The bond of a state with itself. -/
def bond (S : List BlockHash → Nat → σ → Prop) : Bond (List BlockHash × Nat) σ σ where
  Lost _ := False
  Out c x y := x = y ∧ S c.1 c.2 x
  Idle c f x y := f.left = f.right ∧ Still S c f x y
  Run c f x y := f.left = f.right ∧ Busy S c f x y

theorem simulation (clearing : Clearing h S) : Simulation (bond S) h h where
  keeps := Keeps.never h
  code := by
    rintro _ x _ routine ⟨rfl, -⟩
    rfl
  newFrame := by
    rintro _ x _ block ⟨rfl, there⟩
    exact ⟨rfl, rfl, rfl, clearing.newFrame there⟩
  rest _ _ _ _ idle := idle.2
  enter := by
    rintro c f x _ routine ⟨same, rfl, there⟩
    have entered := clearing.enter there routine
    refine .inr ?_
    rcases came : answer (h.enter routine) x with ⟨_ | _, x'⟩ <;> rw [came] at entered
    · exact ⟨rfl, rfl, entered⟩
    · obtain ⟨n', there', back⟩ := entered
      refine ⟨(c.1, n'), ⟨same, rfl, there'⟩, ?_, ?_⟩
      · rintro g x _ ⟨same, rfl, there⟩
        exact ⟨same, rfl, back there⟩
      · rintro x _ ⟨rfl, there⟩
        exact ⟨rfl, back there⟩
  enterFrame c := by
    refine together fun a x y idle => ⟨idle.1, ?_⟩
    obtain ⟨block, there⟩ := clearing.enterFrame a x ⟨rfl, idle.2⟩
    rcases entered : (Machine.enterFrame h).out a x with ⟨⟨_ | _, a'⟩, x'⟩ <;> rw [entered] at there
    · exact ⟨rfl, there⟩
    · exact alongside (P := Busy S c)
        ⟨rfl, clearing.weaken there fun _ mem => List.mem_cons_of_mem _ mem⟩
  startLine c := by
    refine together fun a x y run => ⟨run.1, ?_⟩
    obtain ⟨block, there⟩ := clearing.startLine List.mem_cons_self a x ⟨rfl, run.2⟩
    refine alongside (P := Busy S c) ⟨rfl, ?_⟩
    have same : (twin ((Machine.startLine h).out a x).1.2 ((Machine.startLine h).out a x).1.2).block =
      a.frame.block := block
    rw [same]
    exact there
  work := by
    rintro c f x _ units ⟨same, rfl, there⟩
    exact ⟨same, rfl, clearing.work there units⟩
  call := by
    rintro c f x _ ⟨same, rfl, there⟩
    exact ⟨(f.block.identity :: c.1, c.2), ⟨rfl, there⟩, fun _ _ out => ⟨same, out⟩⟩
  depart c flow := by
    refine together fun a x y run => ⟨run.1, ?_⟩
    have there := clearing.depart run.2 flow
    rcases gone : (Machine.depart h flow).out a x with ⟨⟨_ | _, a'⟩, x'⟩ <;> rw [gone] at there
    · exact ⟨rfl, there⟩
    · cases flow with
      | returned => exact ⟨rfl, there⟩
      | yielded => exact alongside (P := Still S c) ⟨rfl, there⟩
  unwind c error := by
    refine together fun a x y run => ⟨run.1, ?_⟩
    obtain ⟨⟨e, failed⟩, there⟩ := clearing.unwind run.2 error
    rw [failed]
    exact ⟨rfl, there⟩

/-- **A call from outside** leaves nothing standing that did not stand before. -/
theorem call (clearing : Clearing h S) (budget : Nat) (routine : RoutineId) {x : σ}
    (there : S c n x) : S c n ((Machine.call h budget routine).out x).2 := by
  rcases clearing.simulation.calls budget (c, n) routine x x ⟨rfl, there⟩ with lost | ⟨-, -, left⟩
  · exact lost.elim
  · exact left

/-- **A frame that is resumed from outside** leaves nothing standing that did not stand before. -/
theorem step (clearing : Clearing h S) (budget : Nat) (routine : RoutineId) (a : Activation) {x : σ}
    (there : S c n x) : S c n ((Machine.step h budget routine a).out x).2 := by
  rcases clearing.simulation.step (c, n) budget routine
      (alongside (P := Still S (c, n)) (a := a) ⟨rfl, there⟩) with lost | resumed
  · exact lost.elim
  · rcases stepped : (Machine.step h budget routine a).out x with ⟨_ | ⟨_ | _, a'⟩, x'⟩ <;>
      rw [stepped] at resumed
    · exact resumed.2.2
    · exact resumed.2
    · exact (beside (P := Still S (c, n)) resumed).2.2

end Clearing

end LineClock.Machine

import LineClock.Proofs.Machine.Simulation

/-!
# Hosts that deliver line events of every frame

Two hosts, neither of which ever switches off line events, are compared announcement by
announcement: a `Rapport` says what one trace event and one monitoring event do to related states.
The machine does the same over both.

Main statement: `Rapport.simulation`.
-/

namespace LineClock.Machine

variable {γ σ τ : Type}

/-- Two hosts that answer every announcement in the same way and keep their states in the relation
`R`, whose index says what the end of a scope has to lead back to. Nothing is claimed of the first
host once its state is lost. -/
structure Rapport (Lost : σ → Prop) (R : γ → σ → τ → Prop) (h : Host σ) (k : Host τ) : Prop where
  keeps : Keeps Lost h
  code : ∀ {c x y}, R c x y → ∀ routine, h.code x routine = k.code y routine
  newFrame : ∀ {c x y}, R c x y →
    (h.newFrame x).1 = (k.newFrame y).1 ∧ R c (h.newFrame x).2 (k.newFrame y).2
  work : ∀ {c x y}, R c x y → ∀ n, R c (h.work n x).2 (k.work n y).2
  trace : ∀ {c x y}, R c x y → ∀ frame event, frame.linesOn = true →
    Lost (answer (h.trace frame event) x).2 ∨
      ∃ x' y', answer (h.trace frame event) x = (.ok true, x') ∧
        answer (k.trace frame event) y = (.ok true, y') ∧ R c x' y'
  monitor : ∀ {c x y}, R c x y → ∀ event,
    Lost (answer (h.monitor event) x).2 ∨
      ∃ x' y', answer (h.monitor event) x = (.ok (), x') ∧
        answer (k.monitor event) y = (.ok (), y') ∧ R c x' y'
  enter : ∀ {c x y}, R c x y → ∀ routine,
    Lost (answer (h.enter routine) x).2 ∨
      ∃ c' x' y', answer (h.enter routine) x = (.ok (), x') ∧
        answer (k.enter routine) y = (.ok (), y') ∧ R c' x' y' ∧
        ∀ {x y}, R c' x y → R c (h.leave routine x).2 (k.leave routine y).2

namespace Rapport

variable {Lost : σ → Prop} {R : γ → σ → τ → Prop} {h : Host σ} {k : Host τ} {c : γ}

/-- States belong together when they are related, and line events of frames are delivered. -/
def bond (Lost : σ → Prop) (R : γ → σ → τ → Prop) : Bond γ σ τ where
  Lost := Lost
  Out := R
  Idle c f x y := R c x y ∧ f.left = true ∧ f.right = true
  Run c f x y := R c x y ∧ f.left = true ∧ f.right = true

/-- Related states, beside activations of which line events are delivered. -/
def Both (R : γ → σ → τ → Prop) (c : γ) (a : Activation) (x : σ) (b : Activation) (y : τ) : Prop :=
  a = b ∧ a.frame.linesOn = true ∧ R c x y

theorem both_of_alongside {a b : Activation} {x : σ} {y : τ}
    (h : Alongside (fun f x y => R c x y ∧ f.left = true ∧ f.right = true) a x b y) :
    Both R c a x b y := by
  obtain ⟨⟨on, rfl⟩, related, left, right⟩ := h
  obtain ⟨⟨id, block, line, offset, linesOn, suspended⟩, next, loops, started⟩ := a
  have left : linesOn = true := left
  have right : on = true := right
  subst left right
  exact ⟨rfl, rfl, related⟩

theorem Both.alongside {a b : Activation} {x : σ} {y : τ} (h : Both R c a x b y) :
    Alongside (fun f x y => R c x y ∧ f.left = true ∧ f.right = true) a x b y := by
  obtain ⟨rfl, on, related⟩ := h
  refine ⟨⟨true, ?_⟩, related, on, on⟩
  rw [← on]
  rfl

/-- The state that an announcement to the trace hook leaves. -/
theorem state_signal (h : Host σ) {a : Activation} (on : a.frame.linesOn = true) (event : TraceEvent)
    (suspended : Bool) (x : σ) :
    ((Machine.signal h event suspended).out a x).2 =
      (answer (h.trace { a.frame with suspended } event) x).2 := by
  rw [out_signal_eq, if_pos (Or.inr on)]
  rcases answer (h.trace { a.frame with suspended } event) x with ⟨o, x'⟩
  cases o <;> rfl

/-- The state that a monitoring announcement leaves. -/
theorem state_notify (h : Host σ) (a : Activation) (kind : EventKind) (x : σ) :
    ((Machine.notify h kind).out a x).2 =
      (answer (h.monitor ⟨kind, a.frame.block, a.frame.offset, a.frame.line⟩) x).2 := by
  unfold Machine.notify
  rw [Act.out_bind, Act.out_get]
  simp only
  rw [Act.out_lift]
  rcases answer (h.monitor ⟨kind, a.frame.block, a.frame.offset, a.frame.line⟩) x with ⟨o, x'⟩
  cases o <;> rfl

/-- The activation is the same as before, or the steps failed and only the states matter. -/
def Still (R : γ → σ → τ → Prop) (c : γ) {α : Type} :
    Except ExecError α → Activation → σ → Activation → τ → Prop
  | .ok _ => Both R c
  | .error _ => fun _ _ _ _ => False

theorem signal (rapport : Rapport Lost R h k) (event : TraceEvent) (suspended : Bool) :
    Together Lost (Both R c) (Machine.signal h event suspended) (Machine.signal k event suspended)
      (Still R c) := by
  rintro a x _ y ⟨rfl, on, related⟩
  rcases rapport.trace related { a.frame with suspended } event on with
    lost | ⟨x', y', told, told', related'⟩
  · left
    rw [state_signal h on]
    exact lost
  · right
    rw [out_signal on told, out_signal on told']
    exact ⟨rfl, rfl, on, related'⟩

theorem notify (rapport : Rapport Lost R h k) (kind : EventKind) :
    Together Lost (Both R c) (Machine.notify h kind) (Machine.notify k kind) (Still R c) := by
  rintro a x _ y ⟨rfl, on, related⟩
  rcases rapport.monitor related ⟨kind, a.frame.block, a.frame.offset, a.frame.line⟩ with
    lost | ⟨x', y', told, told', related'⟩
  · left
    rw [state_notify]
    exact lost
  · right
    rw [out_notify told, out_notify told']
    exact ⟨rfl, rfl, on, related'⟩

/-- Two announcements, one after the other. -/
theorem next {x x' : Act σ Unit} {y y' : Act τ Unit} (first : Together Lost (Both R c) x y (Still R c))
    (second : Together Lost (Both R c) x' y' (Still R c)) (stays : Stays Lost x') :
    Together Lost (Both R c) (do x; x') (do y; y') (Still R c) :=
  first.bind (fun _ => second) (fun _ _ _ _ _ h => h.elim) fun _ => stays

theorem startLine (rapport : Rapport Lost R h k) :
    Together Lost (Both R c) (Machine.startLine h) (Machine.startLine k) (Still R c) :=
  next (rapport.signal .line false) (rapport.notify .line) (rapport.keeps.notify _)

theorem depart (rapport : Rapport Lost R h k) (flow : Flow) :
    Together Lost (Both R c) (Machine.depart h flow) (Machine.depart k flow) (Still R c) :=
  next (rapport.signal .ret _) (rapport.notify _) (rapport.keeps.notify _)

theorem enterFrame (rapport : Rapport Lost R h k) :
    Together Lost (Both R c) (Machine.enterFrame h) (Machine.enterFrame k) (Still R c) := by
  have starts : Together Lost (Both R c)
      (do
        let act ← get
        unless act.started do
          set { act with started := true }
          lift (h.monitor ⟨.start, act.frame.block, 0, act.frame.block.firstLine⟩))
      (do
        let act ← get
        unless act.started do
          set { act with started := true }
          lift (k.monitor ⟨.start, act.frame.block, 0, act.frame.block.firstLine⟩)) (Still R c) := by
    refine Together.reading ?_
    rintro a x _ y ⟨rfl, on, related⟩
    by_cases started : a.started
    · rw [if_pos started, if_pos started]
      exact .inr ⟨rfl, rfl, on, related⟩
    · rw [if_neg started, if_neg started, Act.out_bind, Act.out_bind, Act.out_set, Act.out_set]
      simp only
      rw [Act.out_lift, Act.out_lift]
      rcases rapport.monitor related ⟨.start, a.frame.block, 0, a.frame.block.firstLine⟩ with
        lost | ⟨x', y', told, told', related'⟩
      · left
        rcases there : answer (h.monitor ⟨.start, a.frame.block, 0, a.frame.block.firstLine⟩) x
          with ⟨o, x'⟩
        rw [there] at lost
        cases o <;> exact lost
      · right
        rw [told, told']
        exact ⟨rfl, rfl, on, related'⟩
  refine (rapport.signal .call false).bind (fun _ => starts) (fun _ _ _ _ _ h => h.elim) fun _ => ?_
  intro a x lost
  rw [Act.out_bind, Act.out_get]
  simp only
  split
  · exact lost
  · exact Stays.bind (Stays.set _) (fun _ => Stays.lift (rapport.keeps.monitor _)) a x lost

/-- An exception ends the frame on both sides. -/
theorem unwind (rapport : Rapport Lost R h k) (error : ExecError) :
    Together Lost (Both R c) (Machine.unwind h error) (Machine.unwind k error)
      fun o _ x _ y => o = .error error ∧ R c x y := by
  have keeps := rapport.keeps
  have ends : Together Lost (Both R c) (throw error : Act σ Flow) (throw error)
      fun o _ x _ y => o = .error error ∧ R c x y :=
    Together.failed fun _ _ _ _ h => ⟨rfl, h.2.2⟩
  refine (rapport.signal .exception false).bind (fun _ => ?_) (fun _ _ _ _ _ h => h.elim) fun _ =>
    Stays.bind (keeps.notify _) fun _ => Stays.bind (keeps.signal _ _) fun _ =>
      Stays.bind (keeps.notify _) fun _ => Stays.throw _
  refine (rapport.notify .raise).bind (fun _ => ?_) (fun _ _ _ _ _ h => h.elim) fun _ =>
    Stays.bind (keeps.signal _ _) fun _ => Stays.bind (keeps.notify _) fun _ => Stays.throw _
  refine (rapport.signal .ret false).bind (fun _ => ?_) (fun _ _ _ _ _ h => h.elim) fun _ =>
    Stays.bind (keeps.notify _) fun _ => Stays.throw _
  exact (rapport.notify .unwind).bind (fun _ => ends) (fun _ _ _ _ _ h => h.elim) fun _ =>
    Stays.throw _

/-- **The machine does the same over two hosts in rapport.** -/
theorem simulation (rapport : Rapport Lost R h k) : Simulation (bond Lost R) h k where
  keeps := rapport.keeps
  code _ _ _ routine related := rapport.code related routine
  newFrame _ _ _ _ related :=
    ⟨(rapport.newFrame related).1, (rapport.newFrame related).2, rfl, rfl⟩
  rest _ _ _ _ idle := idle.1
  enter c f x y routine idle := by
    rcases rapport.enter idle.1 routine with lost | ⟨c', x', y', entered, entered', related, back⟩
    · exact .inl lost
    · rw [entered, entered']
      exact .inr ⟨c', ⟨related, idle.2⟩, fun g x y idle => ⟨back idle.1, idle.2⟩,
        fun x y related => back related⟩
  enterFrame c a x b y idle := by
    rcases rapport.enterFrame a x b y (both_of_alongside idle) with lost | ⟨same, still⟩
    · exact .inl lost
    · refine .inr ⟨same, ?_⟩
      generalize ((Machine.enterFrame h).out a x).1.1 = o at still
      cases o with
      | ok _ => exact Both.alongside still
      | error _ => exact still.elim
  startLine c a x b y run := by
    rcases rapport.startLine a x b y (both_of_alongside run) with lost | ⟨same, still⟩
    · exact .inl lost
    · refine .inr ⟨same, ?_⟩
      generalize ((Machine.startLine h).out a x).1.1 = o at still
      cases o with
      | ok _ => exact Both.alongside still
      | error _ => exact still.elim
  work _ _ _ _ n run := ⟨rapport.work run.1 n, run.2⟩
  call c _ _ _ run := ⟨c, run.1, fun _ _ out => ⟨out, run.2⟩⟩
  depart c flow a x b y run := by
    rcases rapport.depart flow a x b y (both_of_alongside run) with lost | ⟨same, still⟩
    · exact .inl lost
    · refine .inr ⟨same, ?_⟩
      generalize ((Machine.depart h flow).out a x).1.1 = o at still
      cases o with
      | ok _ =>
        cases flow with
        | returned => exact still.2.2
        | yielded => exact Both.alongside still
      | error _ => exact still.elim
  unwind c error a x b y run := by
    rcases rapport.unwind error a x b y (both_of_alongside run) with lost | ⟨same, failed, related⟩
    · exact .inl lost
    · refine .inr ⟨same, ?_⟩
      rw [failed]
      exact related

end Rapport

end LineClock.Machine

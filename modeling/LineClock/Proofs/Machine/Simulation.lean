import LineClock.Proofs.Machine.Outcome

/-!
# Two machines side by side

A `Simulation` compares the machine over two hosts. Its fields say what the hosts have to do at each
announcement, each scope and each unit of work; the machine itself is followed once, here. Between
frames the states are related by `Out`, while a frame waits by `Idle` and while it runs by `Run`;
the index `c` is what the surroundings of a call expect to find unchanged when it is over. The
states of the first host with `Lost` are those from which nothing is claimed any more.

What holds all along a run on one machine is shown by setting the machine beside itself: both sides
do the same, and the relation of their states says that they are equal and what holds of them.

Main statements: `Simulation.calls`, `Simulation.step` and, for one machine, `together`.
-/

namespace LineClock.Machine

variable {σ τ α β : Type}

/-! ## Steps of two activations -/

/-- From activations and states with `Pre`, `x` and `y` have the same outcome and leave activations
and states with `Post`, unless the first state is lost. -/
def Together (Lost : σ → Prop) (Pre : Activation → σ → Activation → τ → Prop) (x : Act σ α)
    (y : Act τ α) (Post : Except ExecError α → Activation → σ → Activation → τ → Prop) : Prop :=
  ∀ a s b t, Pre a s b t →
    Lost (x.out a s).2 ∨
      (x.out a s).1.1 = (y.out b t).1.1 ∧
        Post (x.out a s).1.1 (x.out a s).1.2 (x.out a s).2 (y.out b t).1.2 (y.out b t).2

/-- Steps that never leave the lost states. -/
def Stays (Lost : σ → Prop) (x : Act σ α) : Prop := ∀ a s, Lost s → Lost (x.out a s).2

namespace Stays

variable {Lost : σ → Prop}

theorem pure (v : α) : Stays Lost (pure v : Act σ α) := fun _ _ h => h

theorem throw (e : ExecError) : Stays Lost (throw e : Act σ α) := fun _ _ h => h

theorem set (b : Activation) : Stays Lost (set b : Act σ PUnit) := fun _ _ h => h

theorem modify (f : Activation → Activation) : Stays Lost (modify f : Act σ PUnit) :=
  fun _ _ h => h

theorem bind {x : Act σ α} {f : α → Act σ β} (hx : Stays Lost x) (hf : ∀ v, Stays Lost (f v)) :
    Stays Lost (x >>= f) := by
  intro a s h
  have h' := hx a s h
  rw [Act.out_bind]
  rcases ho : x.out a s with ⟨⟨o, a'⟩, s'⟩
  rw [ho] at h'
  cases o with
  | ok v => exact hf v a' s' h'
  | error e => exact h'

theorem tryCatch {x : Act σ α} {f : ExecError → Act σ α} (hx : Stays Lost x)
    (hf : ∀ e, Stays Lost (f e)) : Stays Lost (tryCatch x f) := by
  intro a s h
  have h' := hx a s h
  rw [Act.out_tryCatch]
  rcases ho : x.out a s with ⟨⟨o, a'⟩, s'⟩
  rw [ho] at h'
  cases o with
  | ok v => exact h'
  | error e => exact hf e a' s' h'

theorem lift {x : ExceptT HookError (StateM σ) α} (hx : ∀ s, Lost s → Lost (answer x s).2) :
    Stays Lost (lift x) := by
  intro a s h
  have h' := hx s h
  rw [Act.out_lift]
  rcases ho : answer x s with ⟨o, s'⟩
  rw [ho] at h'
  cases o <;> exact h'

end Stays

namespace Together

variable {Lost : σ → Prop} {Pre : Activation → σ → Activation → τ → Prop}

theorem bind {Mid : Except ExecError α → Activation → σ → Activation → τ → Prop}
    {Post : Except ExecError β → Activation → σ → Activation → τ → Prop} {x : Act σ α}
    {y : Act τ α} {f : α → Act σ β} {g : α → Act τ β} (hx : Together Lost Pre x y Mid)
    (hf : ∀ v, Together Lost (Mid (.ok v)) (f v) (g v) Post)
    (he : ∀ e a s b t, Mid (.error e) a s b t → Post (.error e) a s b t)
    (hs : ∀ v, Stays Lost (f v)) : Together Lost Pre (x >>= f) (y >>= g) Post := by
  intro a s b t h
  have h' := hx a s b t h
  rw [Act.out_bind, Act.out_bind]
  rcases hxo : x.out a s with ⟨⟨o, a'⟩, s'⟩
  rcases hyo : y.out b t with ⟨⟨o', b'⟩, t'⟩
  rw [hxo, hyo] at h'
  rcases h' with lost | ⟨same, mid⟩
  · left
    cases o with
    | ok v => exact hs v a' s' lost
    | error e => exact lost
  · simp only at same mid
    subst same
    cases o with
    | ok v => exact hf v a' s' b' t' mid
    | error e => exact .inr ⟨rfl, he e a' s' b' t' mid⟩

theorem tryCatch {Mid Post : Except ExecError α → Activation → σ → Activation → τ → Prop}
    {x : Act σ α} {y : Act τ α} {f : ExecError → Act σ α} {g : ExecError → Act τ α}
    (hx : Together Lost Pre x y Mid)
    (hf : ∀ e, Together Lost (Mid (.error e)) (f e) (g e) Post)
    (ho : ∀ v a s b t, Mid (.ok v) a s b t → Post (.ok v) a s b t)
    (hs : ∀ e, Stays Lost (f e)) :
    Together Lost Pre (tryCatch x f) (tryCatch y g) Post := by
  intro a s b t h
  have h' := hx a s b t h
  rw [Act.out_tryCatch, Act.out_tryCatch]
  rcases hxo : x.out a s with ⟨⟨o, a'⟩, s'⟩
  rcases hyo : y.out b t with ⟨⟨o', b'⟩, t'⟩
  rw [hxo, hyo] at h'
  rcases h' with lost | ⟨same, mid⟩
  · left
    cases o with
    | ok v => exact lost
    | error e => exact hs e a' s' lost
  · simp only at same mid
    subst same
    cases o with
    | ok v => exact .inr ⟨rfl, ho v a' s' b' t' mid⟩
    | error e => exact hf e a' s' b' t' mid

theorem done {Post : Except ExecError α → Activation → σ → Activation → τ → Prop} {v : α}
    (h : ∀ a s b t, Pre a s b t → Post (.ok v) a s b t) :
    Together Lost Pre (pure v) (pure v) Post :=
  fun a s b t hp => .inr ⟨rfl, h a s b t hp⟩

theorem modify {Post : Except ExecError PUnit → Activation → σ → Activation → τ → Prop}
    {f : Activation → Activation}
    (h : ∀ a s b t, Pre a s b t → Post (.ok ()) (f a) s (f b) t) :
    Together Lost Pre (modify f) (modify f) Post :=
  fun a s b t hp => .inr ⟨rfl, h a s b t hp⟩

theorem failed {Post : Except ExecError α → Activation → σ → Activation → τ → Prop} {e : ExecError}
    (h : ∀ a s b t, Pre a s b t → Post (.error e) a s b t) :
    Together Lost Pre (throw e) (throw e) Post :=
  fun a s b t hp => .inr ⟨rfl, h a s b t hp⟩

/-- Reading the activations splits the claim by what they are. -/
theorem reading {Post : Except ExecError α → Activation → σ → Activation → τ → Prop}
    {f : Activation → Act σ α} {g : Activation → Act τ α}
    (h : ∀ a s b t, Pre a s b t →
      Lost ((f a).out a s).2 ∨ ((f a).out a s).1.1 = ((g b).out b t).1.1 ∧
        Post ((f a).out a s).1.1 ((f a).out a s).1.2 ((f a).out a s).2 ((g b).out b t).1.2
          ((g b).out b t).2) :
    Together Lost Pre (get >>= f) (get >>= g) Post := by
  intro a s b t hp
  rw [Act.out_bind, Act.out_bind]
  exact h a s b t hp

end Together

/-! ## Hosts that stay lost -/

/-- A host whose answers never leave the lost states. -/
structure Keeps (Lost : σ → Prop) (host : Host σ) : Prop where
  newFrame : ∀ s, Lost s → Lost (host.newFrame s).2
  work : ∀ n s, Lost s → Lost (host.work n s).2
  trace : ∀ frame event s, Lost s → Lost (answer (host.trace frame event) s).2
  monitor : ∀ event s, Lost s → Lost (answer (host.monitor event) s).2
  enter : ∀ routine s, Lost s → Lost (answer (host.enter routine) s).2
  leave : ∀ routine s, Lost s → Lost (host.leave routine s).2

theorem Keeps.never (host : Host σ) : Keeps (fun _ => False) host :=
  ⟨fun _ => id, fun _ _ => id, fun _ _ _ => id, fun _ _ => id, fun _ _ => id, fun _ _ => id⟩

namespace Keeps

variable {Lost : σ → Prop} {host : Host σ} {call : RoutineId → Exec σ Unit}

theorem signal (keeps : Keeps Lost host) (event : TraceEvent) (suspended : Bool) :
    Stays Lost (signal host event suspended) := by
  intro a s h
  unfold Machine.signal
  rw [Act.out_bind, Act.out_get]
  simp only
  split
  · exact Stays.bind (Stays.lift (keeps.trace _ _)) (fun _ => Stays.modify _) a s h
  · exact h

theorem notify (keeps : Keeps Lost host) (kind : EventKind) : Stays Lost (notify host kind) := by
  intro a s h
  unfold Machine.notify
  rw [Act.out_bind, Act.out_get]
  exact Stays.lift (keeps.monitor _) a s h

theorem startLine (keeps : Keeps Lost host) : Stays Lost (startLine host) :=
  Stays.bind (keeps.signal _ _) fun _ => keeps.notify _

theorem unwind (keeps : Keeps Lost host) (e : ExecError) : Stays Lost (unwind host e) :=
  Stays.bind (keeps.signal _ _) fun _ => Stays.bind (keeps.notify _) fun _ =>
    Stays.bind (keeps.signal _ _) fun _ => Stays.bind (keeps.notify _) fun _ => Stays.throw e

theorem depart (keeps : Keeps Lost host) (flow : Flow) : Stays Lost (depart host flow) :=
  Stays.bind (keeps.signal _ _) fun _ => keeps.notify _

theorem enterFrame (keeps : Keeps Lost host) : Stays Lost (enterFrame host) := by
  refine Stays.bind (keeps.signal _ _) fun _ a s h => ?_
  rw [Act.out_bind, Act.out_get]
  simp only
  split
  · exact h
  · exact Stays.bind (Stays.set _) (fun _ => Stays.lift (keeps.monitor _)) a s h

theorem perform (keeps : Keeps Lost host) (hc : ∀ r s, Lost s → Lost (Exec.out (call r) s).2)
    (instr : Instr) : Stays Lost (perform host call instr) := by
  intro a s h
  obtain ⟨line, op⟩ := instr
  cases op with
  | nop | loopStart | loopEnd | yield | raise | ret => exact h
  | work n => exact keeps.work n s h
  | call index =>
    rw [out_perform_call]
    cases a.frame.block.callees[index.toNat]? with
    | none => exact h
    | some callee =>
      have h' := hc callee s h
      simp only
      rcases hco : (call callee).out s with ⟨o, s'⟩
      rw [hco] at h'
      cases o <;> exact h'

theorem onward {budget : Nat} (rest : ∀ last, Stays Lost (execute host call budget last))
    (instr : Instr) (o : Outcome) : Stays Lost (onward host call budget instr o) := by
  cases o with
  | stop flow => exact Stays.pure flow
  | goOn jumped => exact rest _

theorem proceed (keeps : Keeps Lost host) (hc : ∀ r s, Lost s → Lost (Exec.out (call r) s).2)
    {budget : Nat} (rest : ∀ last, Stays Lost (execute host call budget last)) (instr : Instr) :
    Stays Lost (proceed host call budget instr) :=
  Stays.bind (Stays.modify _) fun _ => Stays.bind (keeps.perform hc instr) fun o =>
    onward rest instr o

theorem execute (keeps : Keeps Lost host) (hc : ∀ r s, Lost s → Lost (Exec.out (call r) s).2) :
    ∀ budget last, Stays Lost (execute host call budget last)
  | 0, _ => fun _ _ h => h
  | budget + 1, last => by
    intro a s h
    unfold Machine.execute
    rw [Act.out_bind, Act.out_get]
    simp only
    split
    · exact h
    · rename_i instr _
      have rest := keeps.proceed hc (keeps.execute hc budget) instr
      refine Stays.bind (Stays.modify _) (fun _ => ?_) a s h
      split
      · exact Stays.bind keeps.startLine fun _ => rest
      · exact rest

theorem resume (keeps : Keeps Lost host) (hc : ∀ r s, Lost s → Lost (Exec.out (call r) s).2)
    (budget : Nat) : Stays Lost (resume host call budget) :=
  Stays.bind keeps.enterFrame fun _ =>
    Stays.bind (Stays.tryCatch (keeps.execute hc budget none) keeps.unwind) fun flow =>
      Stays.bind (keeps.depart flow) fun _ => Stays.pure flow

theorem resumeScoped (keeps : Keeps Lost host)
    (hc : ∀ r s, Lost s → Lost (Exec.out (call r) s).2) (budget : Nat) (routine : RoutineId)
    (act : Activation) {s : σ} (h : Lost s) :
    Lost ((resumeScoped host call budget routine act).out s).2 := by
  have he := keeps.enter routine s h
  rw [out_resumeScoped]
  rcases heo : answer (host.enter routine) s with ⟨o, s'⟩
  rw [heo] at he
  cases o with
  | error e => exact he
  | ok v =>
    have hr := keeps.resume hc budget act s' he
    simp only
    rcases hro : (Machine.resume host call budget).out act s' with ⟨⟨o, act'⟩, s''⟩
    rw [hro] at hr
    cases o <;> exact keeps.leave routine s'' hr

theorem drain (keeps : Keeps Lost host) (hc : ∀ r s, Lost s → Lost (Exec.out (call r) s).2)
    (budget : Nat) (routine : RoutineId) (rounds : Nat) :
    ∀ (act : Activation) (s : σ), Lost s →
      Lost ((drain host call budget routine rounds act).out s).2 := by
  induction rounds with
  | zero => exact fun _ _ h => h
  | succ rounds ih =>
    intro act s h
    have hr := keeps.resumeScoped hc budget routine act h
    rw [out_drain_succ]
    rcases hro : (Machine.resumeScoped host call budget routine act).out s with ⟨o, s'⟩
    rw [hro] at hr
    rcases o with e | ⟨flow, act'⟩
    · exact hr
    · cases flow with
      | returned => exact hr
      | yielded => exact ih act' s' hr

theorem invoke (keeps : Keeps Lost host) (budget depth : Nat) :
    ∀ (routine : RoutineId) (s : σ), Lost s → Lost ((invoke host budget depth routine).out s).2 := by
  induction depth with
  | zero => exact fun _ _ h => h
  | succ depth ih =>
    intro routine s h
    rw [out_invoke_succ]
    exact keeps.drain ih budget routine budget _ _ (keeps.newFrame s h)

end Keeps

/-! ## Simulations -/

/-- A frame as two machines see it: they agree on all but whether its line events are delivered. -/
structure Twin where
  id : FrameId
  block : Block
  left : Bool
  right : Bool

/-- Two activations of one frame. -/
def twin (a b : Activation) : Twin := ⟨a.frame.id, a.frame.block, a.frame.linesOn, b.frame.linesOn⟩

/-- The activation with line events delivered or not. -/
def withLines (linesOn : Bool) (a : Activation) : Activation :=
  { a with frame := { a.frame with linesOn } }

/-- Activations that differ at most in whether line events are delivered. -/
def Same (a b : Activation) : Prop := ∃ linesOn, b = withLines linesOn a

/-- A relation of the twins of a frame and the states, for the activations of the frame. -/
def Alongside (P : Twin → σ → τ → Prop) (a : Activation) (s : σ) (b : Activation) (t : τ) : Prop :=
  Same a b ∧ P (twin a b) s t

/-- How the states of two machines belong together. -/
structure Bond (γ σ τ : Type) where
  Lost : σ → Prop
  /-- Between frames. -/
  Out : γ → σ → τ → Prop
  /-- While a frame waits to be resumed. -/
  Idle : γ → Twin → σ → τ → Prop
  /-- While a frame runs. -/
  Run : γ → Twin → σ → τ → Prop

namespace Bond

variable {γ : Type} (B : Bond γ σ τ)

/-- A frame runs, or steps of it failed and it is gone. -/
def Running (c : γ) : Except ExecError α → Activation → σ → Activation → τ → Prop
  | .ok _ => Alongside (B.Run c)
  | .error _ => fun _ s _ t => B.Out c s t

/-- A frame gave control back: it waits if it yielded, and is gone otherwise. -/
def Back (c : γ) : Except ExecError Flow → Activation → σ → Activation → τ → Prop
  | .ok .yielded => Alongside (B.Idle c)
  | _ => fun _ s _ t => B.Out c s t

/-- The scope of a routine was entered on both sides, so that leaving it leads back to `c`, or on
neither. -/
def Entered (h : Host σ) (k : Host τ) (c : γ) (f : Twin) (routine : RoutineId) :
    Except HookError Unit × σ → Except HookError Unit × τ → Prop
  | (.ok _, s), (.ok _, t) =>
    ∃ c', B.Idle c' f s t ∧
      (∀ g s t, B.Idle c' g s t → B.Idle c g (h.leave routine s).2 (k.leave routine t).2) ∧
      ∀ s t, B.Out c' s t → B.Out c (h.leave routine s).2 (k.leave routine t).2
  | (.error e, s), (.error e', t) => e = e' ∧ B.Out c s t
  | _, _ => False

/-- Calls with the same outcome that keep the states together, whatever the surroundings are. -/
def Calls (call : RoutineId → Exec σ Unit) (call' : RoutineId → Exec τ Unit) : Prop :=
  ∀ c routine s t, B.Out c s t →
    B.Lost ((call routine).out s).2 ∨
      ((call routine).out s).1 = ((call' routine).out t).1 ∧
        B.Out c ((call routine).out s).2 ((call' routine).out t).2

end Bond

/-- Two hosts that do corresponding things to corresponding states. -/
structure Simulation {γ : Type} (B : Bond γ σ τ) (h : Host σ) (k : Host τ) : Prop where
  keeps : Keeps B.Lost h
  code : ∀ c s t routine, B.Out c s t → h.code s routine = k.code t routine
  newFrame : ∀ c s t block, B.Out c s t →
    (h.newFrame s).1 = (k.newFrame t).1 ∧
      B.Idle c ⟨(h.newFrame s).1, block, true, true⟩ (h.newFrame s).2 (k.newFrame t).2
  rest : ∀ c f s t, B.Idle c f s t → B.Out c s t
  enter : ∀ c f s t routine, B.Idle c f s t →
    B.Lost (answer (h.enter routine) s).2 ∨
      B.Entered h k c f routine (answer (h.enter routine) s) (answer (k.enter routine) t)
  enterFrame : ∀ c,
    Together B.Lost (Alongside (B.Idle c)) (enterFrame h) (enterFrame k) (B.Running c)
  startLine : ∀ c,
    Together B.Lost (Alongside (B.Run c)) (startLine h) (startLine k) fun _ => Alongside (B.Run c)
  work : ∀ c f s t n, B.Run c f s t → B.Run c f (h.work n s).2 (k.work n t).2
  call : ∀ c f s t, B.Run c f s t → ∃ c', B.Out c' s t ∧ ∀ s t, B.Out c' s t → B.Run c f s t
  depart : ∀ c flow,
    Together B.Lost (Alongside (B.Run c)) (depart h flow) (depart k flow) fun o =>
      B.Back c (o.map fun _ => flow)
  unwind : ∀ c e, Together B.Lost (Alongside (B.Run c)) (unwind h e) (unwind k e) (B.Running c)

namespace Simulation

variable {γ : Type} {B : Bond γ σ τ} {h : Host σ} {k : Host τ} {call : RoutineId → Exec σ Unit}
  {call' : RoutineId → Exec τ Unit}

theorem endLoop_withLines (target : UInt8) (a : Activation) (linesOn : Bool) :
    endLoop target (withLines linesOn a) =
      (withLines linesOn (endLoop target a).1, (endLoop target a).2) := by
  obtain ⟨frame, next, loops, started⟩ := a
  rcases loops with _ | ⟨n, outer⟩
  · rfl
  · simp only [endLoop, withLines]
    split <;> rfl

theorem endLoop_frame (target : UInt8) (a : Activation) :
    (endLoop target a).1.frame = a.frame := by
  unfold endLoop
  split
  · rfl
  · split <;> rfl

/-- A frame's twin is the same as long as the frame is. -/
theorem twin_withLines {a a' : Activation} (h : a'.frame = a.frame) (linesOn : Bool) :
    twin a' (withLines linesOn a') = twin a (withLines linesOn a) := by
  simp [twin, withLines, h]

theorem perform (sim : Simulation B h k) (hc : B.Calls call call') (c : γ) (instr : Instr) :
    Together B.Lost (Alongside (B.Run c)) (perform h call instr) (perform k call' instr)
      fun _ => Alongside (B.Run c) := by
  rintro a s _ t ⟨⟨on, rfl⟩, run⟩
  obtain ⟨line, op⟩ := instr
  cases op with
  | nop | loopStart | yield | raise | ret => exact .inr ⟨rfl, ⟨on, rfl⟩, run⟩
  | loopEnd target =>
    right
    unfold Machine.perform
    simp only [Act.out_bind, Act.out_get, Act.out_set, Act.out_pure, endLoop_withLines]
    refine ⟨trivial, ⟨on, rfl⟩, ?_⟩
    rw [twin_withLines (endLoop_frame target a)]
    exact run
  | work n => exact .inr ⟨rfl, ⟨on, rfl⟩, sim.work c _ s t n run⟩
  | call index =>
    have callees : (withLines on a).frame.block = a.frame.block := rfl
    rw [out_perform_call, out_perform_call, callees]
    cases a.frame.block.callees[index.toNat]? with
    | none => exact .inr ⟨rfl, ⟨on, rfl⟩, run⟩
    | some callee =>
      obtain ⟨c', out, back⟩ := sim.call c _ s t run
      have agree := hc c' callee s t out
      simp only
      rcases hco : (call callee).out s with ⟨o, s'⟩
      rcases hco' : (call' callee).out t with ⟨o', t'⟩
      rw [hco, hco'] at agree
      rcases agree with lost | ⟨same, out'⟩
      · left
        cases o <;> exact lost
      · right
        simp only at same
        subst same
        have run' := back _ _ out'
        cases o <;> exact ⟨rfl, ⟨on, rfl⟩, run'⟩

/-- Changes of an activation that leave its frame's identity alone keep the activations together. -/
theorem moved (P : Twin → σ → τ → Prop) (Lost : σ → Prop) {f : Activation → Activation}
    (hf : ∀ linesOn a, f (withLines linesOn a) = withLines linesOn (f a))
    (hi : ∀ linesOn a, twin (f a) (withLines linesOn (f a)) = twin a (withLines linesOn a)) :
    Together Lost (Alongside P) (modify f) (modify f) fun _ => Alongside P := by
  refine Together.modify ?_
  rintro a s _ t ⟨⟨on, rfl⟩, run⟩
  exact ⟨⟨on, hf on a⟩, by rw [hf, hi]; exact run⟩

theorem execute (sim : Simulation B h k) (hc : B.Calls call call')
    (hs : ∀ r s, B.Lost s → B.Lost (Exec.out (call r) s).2) (c : γ) :
    ∀ budget last,
      Together B.Lost (Alongside (B.Run c)) (execute h call budget last)
        (execute k call' budget last) fun _ => Alongside (B.Run c)
  | 0, _ => Together.failed fun _ _ _ _ h => h
  | budget + 1, last => by
    refine Together.reading ?_
    rintro a s _ t ⟨⟨on, rfl⟩, run⟩
    have unit : (withLines on a).frame.block.instrs[(withLines on a).next]? =
      a.frame.block.instrs[a.next]? := rfl
    simp only [unit]
    cases a.frame.block.instrs[a.next]? with
    | none => exact .inr ⟨rfl, ⟨on, rfl⟩, run⟩
    | some instr =>
      have stays := Keeps.onward (sim.keeps.execute hs budget) instr
      have rest : Together B.Lost (Alongside (B.Run c)) (proceed h call budget instr)
          (proceed k call' budget instr) fun _ => Alongside (B.Run c) := by
        refine Together.bind (moved _ _ (fun _ _ => rfl) fun _ _ => rfl) (fun _ => ?_)
          (fun _ _ _ _ _ h => h) fun _ => Stays.bind (sim.keeps.perform hs instr) stays
        refine Together.bind (sim.perform hc c instr) (fun o => ?_) (fun _ _ _ _ _ h => h) stays
        cases o with
        | stop flow => exact Together.done fun _ _ _ _ h => h
        | goOn jumped => exact execute sim hc hs c budget _
      have restStays := sim.keeps.proceed hs (sim.keeps.execute hs budget) instr
      have arrives : Together B.Lost (Alongside (B.Run c)) (arrive instr) (arrive instr)
          fun _ => Alongside (B.Run c) := moved _ _ (fun _ _ => rfl) fun _ _ => rfl
      by_cases again : last = some instr.line
      · simp only [again, ne_eq, not_true_eq_false, if_false]
        exact Together.bind arrives (fun _ => rest) (fun _ _ _ _ _ h => h) (fun _ => restStays)
          a s _ t ⟨⟨on, rfl⟩, run⟩
      · simp only [again, ne_eq, not_false_eq_true, if_true]
        exact Together.bind arrives
          (fun _ => Together.bind (sim.startLine c) (fun _ => rest) (fun _ _ _ _ _ h => h)
            fun _ => restStays)
          (fun _ _ _ _ _ h => h) (fun _ => Stays.bind sim.keeps.startLine fun _ => restStays)
          a s _ t ⟨⟨on, rfl⟩, run⟩

theorem resume (sim : Simulation B h k) (hc : B.Calls call call')
    (hs : ∀ r s, B.Lost s → B.Lost (Exec.out (call r) s).2) (c : γ) (budget : Nat) :
    Together B.Lost (Alongside (B.Idle c)) (resume h call budget) (resume k call' budget)
      (B.Back c) := by
  have leaves (flow : Flow) : Together B.Lost (Alongside (B.Run c))
      (do Machine.depart h flow; pure flow)
      (do Machine.depart k flow; pure flow) (B.Back c) := by
    refine Together.bind (sim.depart c flow) (fun _ => ?_) (fun _ _ _ _ _ h => h)
      fun _ => Stays.pure flow
    exact Together.done fun _ _ _ _ h => h
  have body : Together B.Lost (Alongside (B.Run c))
      (tryCatch (Machine.execute h call budget none) (Machine.unwind h))
      (tryCatch (Machine.execute k call' budget none) (Machine.unwind k)) (B.Running c) :=
    Together.tryCatch (sim.execute hc hs c budget none) (sim.unwind c) (fun _ _ _ _ _ h => h)
      sim.keeps.unwind
  refine Together.bind (sim.enterFrame c) (fun _ => ?_) (fun _ _ _ _ _ h => h) fun _ =>
    Stays.bind (Stays.tryCatch (sim.keeps.execute hs budget none) sim.keeps.unwind) fun flow =>
      Stays.bind (sim.keeps.depart flow) fun _ => Stays.pure flow
  exact Together.bind body leaves (fun _ _ _ _ _ h => h) fun flow =>
    Stays.bind (sim.keeps.depart flow) fun _ => Stays.pure flow

/-- How things stand when a frame was resumed within its scope. -/
def Resumed (B : Bond γ σ τ) (c : γ) :
    Except ExecError (Flow × Activation) × σ → Except ExecError (Flow × Activation) × τ → Prop
  | (.ok (.yielded, a), s), (.ok (.yielded, b), t) => Alongside (B.Idle c) a s b t
  | (.ok (.returned, _), s), (.ok (.returned, _), t) => B.Out c s t
  | (.error e, s), (.error e', t) => e = e' ∧ B.Out c s t
  | _, _ => False

theorem resumeScoped (sim : Simulation B h k) (hc : B.Calls call call')
    (hs : ∀ r s, B.Lost s → B.Lost (Exec.out (call r) s).2) (c : γ) (budget : Nat)
    (routine : RoutineId) {a b : Activation} {s : σ} {t : τ} (idle : Alongside (B.Idle c) a s b t) :
    B.Lost ((resumeScoped h call budget routine a).out s).2 ∨
      Resumed B c ((resumeScoped h call budget routine a).out s)
        ((resumeScoped k call' budget routine b).out t) := by
  obtain ⟨same, idle⟩ := idle
  have entered := sim.enter c _ s t routine idle
  rw [out_resumeScoped, out_resumeScoped]
  rcases ho : answer (h.enter routine) s with ⟨o, s₁⟩
  rcases ho' : answer (k.enter routine) t with ⟨o', t₁⟩
  rw [ho, ho'] at entered
  rcases entered with lost | entered
  · left
    rcases o with e | ⟨⟩
    · exact lost
    · have left := sim.keeps.resume hs budget a s₁ lost
      simp only
      rcases hr : (Machine.resume h call budget).out a s₁ with ⟨⟨o, a₂⟩, s₂⟩
      rw [hr] at left
      cases o <;> exact sim.keeps.leave routine s₂ left
  rcases o with e | ⟨⟩ <;> rcases o' with e' | ⟨⟩
  · obtain ⟨rfl, out⟩ := entered
    exact .inr ⟨rfl, out⟩
  · exact entered.elim
  · exact entered.elim
  · obtain ⟨c', idle', leaveIdle, leaveOut⟩ := entered
    have resumed := sim.resume hc hs c' budget a s₁ b t₁ ⟨same, idle'⟩
    simp only
    rcases hr : (Machine.resume h call budget).out a s₁ with ⟨⟨o, a₂⟩, s₂⟩
    rcases hr' : (Machine.resume k call' budget).out b t₁ with ⟨⟨o', b₂⟩, t₂⟩
    rw [hr, hr'] at resumed
    rcases resumed with lost | ⟨agree, back⟩
    · left
      have left := sim.keeps.leave routine s₂ lost
      cases o <;> exact left
    · right
      simp only at agree
      subst agree
      rcases o with e | flow
      · exact ⟨rfl, leaveOut _ _ back⟩
      · cases flow with
        | returned => exact leaveOut _ _ back
        | yielded => exact ⟨back.1, leaveIdle _ _ _ back.2⟩

theorem drain (sim : Simulation B h k) (hc : B.Calls call call')
    (hs : ∀ r s, B.Lost s → B.Lost (Exec.out (call r) s).2) (c : γ) (budget : Nat)
    (routine : RoutineId) (rounds : Nat) :
    ∀ (a : Activation) (s : σ) (b : Activation) (t : τ), Alongside (B.Idle c) a s b t →
      B.Lost ((drain h call budget routine rounds a).out s).2 ∨
        ((drain h call budget routine rounds a).out s).1 =
            ((drain k call' budget routine rounds b).out t).1 ∧
          B.Out c ((drain h call budget routine rounds a).out s).2
            ((drain k call' budget routine rounds b).out t).2 := by
  induction rounds with
  | zero => exact fun a s b t idle => .inr ⟨rfl, sim.rest c _ s t idle.2⟩
  | succ rounds ih =>
    intro a s b t idle
    have resumed := sim.resumeScoped hc hs c budget routine idle
    rw [out_drain_succ, out_drain_succ]
    rcases ho : (Machine.resumeScoped h call budget routine a).out s with ⟨o, s'⟩
    rcases ho' : (Machine.resumeScoped k call' budget routine b).out t with ⟨o', t'⟩
    rw [ho, ho'] at resumed
    rcases resumed with lost | resumed
    · left
      rcases o with e | ⟨flow, a'⟩
      · exact lost
      · cases flow with
        | returned => exact lost
        | yielded => exact sim.keeps.drain hs budget routine rounds a' s' lost
    · rcases o with e | ⟨_ | _, a'⟩ <;> rcases o' with e' | ⟨_ | _, b'⟩
      case error.error =>
        obtain ⟨rfl, out⟩ := resumed
        exact .inr ⟨rfl, out⟩
      case ok.returned.ok.returned => exact .inr ⟨rfl, resumed⟩
      case ok.yielded.ok.yielded => exact ih a' s' b' t' resumed
      all_goals exact resumed.elim

theorem invoke (sim : Simulation B h k) (budget depth : Nat) :
    B.Calls (invoke h budget depth) (invoke k budget depth) := by
  induction depth with
  | zero => exact fun c routine s t out => .inr ⟨rfl, out⟩
  | succ depth ih =>
    intro c routine s t out
    rw [out_invoke_succ, out_invoke_succ, ← sim.code c s t routine out]
    obtain ⟨same, idle⟩ := sim.newFrame c s t (h.code s routine) out
    refine sim.drain ih (sim.keeps.invoke budget depth) c budget routine budget _ _ _ _ ?_
    rw [← same]
    exact ⟨⟨true, rfl⟩, idle⟩

/-- **A call from outside** has the same outcome on both sides and keeps the states together. -/
theorem calls (sim : Simulation B h k) (budget : Nat) : B.Calls (Machine.call h budget) (Machine.call k budget) :=
  sim.invoke budget maxDepth

/-- **A frame that is resumed from outside** is left in the same way on both sides, together with
the states. -/
theorem step (sim : Simulation B h k) (c : γ) (budget : Nat) (routine : RoutineId)
    {a b : Activation} {s : σ} {t : τ} (idle : Alongside (B.Idle c) a s b t) :
    B.Lost ((step h budget routine a).out s).2 ∨
      Resumed B c ((step h budget routine a).out s) ((step k budget routine b).out t) :=
  sim.resumeScoped (sim.invoke budget _) (sim.keeps.invoke budget _) c budget routine idle

end Simulation

/-! ## A machine beside itself -/

/-- What a monitoring announcement leaves. -/
theorem out_notify_eq (h : Host σ) (kind : EventKind) (a : Activation) (x : σ) :
    (Machine.notify h kind).out a x =
      match answer (h.monitor ⟨kind, a.frame.block, a.frame.offset, a.frame.line⟩) x with
      | (.ok _, x') => ((.ok (), a), x')
      | (.error e, x') => ((.error (.hook e), a), x') := by
  unfold Machine.notify
  rw [Act.out_bind, Act.out_get]
  simp only
  rw [Act.out_lift]
  rcases answer (h.monitor ⟨kind, a.frame.block, a.frame.offset, a.frame.line⟩) x with ⟨_ | _, _⟩ <;>
    rfl

/-- Steps that whatever comes of them leave something as it is. -/
def Leaves (J : Activation → σ → Prop) (act : Act σ α) : Prop :=
  ∀ a x, J a x → J (act.out a x).1.2 (act.out a x).2

theorem Leaves.bind {J : Activation → σ → Prop} {act : Act σ α} {f : α → Act σ β}
    (first : Leaves J act) (rest : ∀ v, Leaves J (f v)) : Leaves J (act >>= f) := by
  intro a x there
  have there' := first a x there
  rw [Act.out_bind]
  rcases ho : act.out a x with ⟨⟨o, a'⟩, x'⟩
  rw [ho] at there'
  cases o with
  | ok v => exact rest v a' x' there'
  | error e => exact there'

/-- A frame that stands beside itself. -/
theorem beside {P : Twin → σ → τ → Prop} {a b : Activation} {x : σ} {y : τ}
    (there : Alongside (fun f x y => f.left = f.right ∧ P f x y) a x b y) :
    a = b ∧ P (twin a a) x y := by
  obtain ⟨⟨on, rfl⟩, same, holds⟩ := there
  have whole : withLines on a = a := by
    obtain ⟨⟨id, block, line, offset, linesOn, suspended⟩, next, loops, started⟩ := a
    have same : linesOn = on := same
    rw [← same]
    rfl
  rw [whole] at holds ⊢
  exact ⟨rfl, holds⟩

theorem alongside {P : Twin → σ → τ → Prop} {a : Activation} {x : σ} {y : τ} (holds : P (twin a a) x y) :
    Alongside (fun f x y => f.left = f.right ∧ P f x y) a x a y :=
  ⟨⟨a.frame.linesOn, rfl⟩, rfl, holds⟩

/-- Steps beside themselves. -/
theorem together {P : Twin → σ → σ → Prop} {act : Act σ α}
    {Post : Except ExecError α → Activation → σ → Activation → σ → Prop}
    (step : ∀ a x y, P (twin a a) x y → x = y ∧
      Post (act.out a x).1.1 (act.out a x).1.2 (act.out a x).2 (act.out a x).1.2 (act.out a x).2) :
    Together (fun _ => False) (Alongside fun f x y => f.left = f.right ∧ P f x y) act act Post := by
  intro a x b y there
  obtain ⟨rfl, holds⟩ := beside there
  obtain ⟨rfl, post⟩ := step a x y holds
  exact .inr ⟨rfl, post⟩

end LineClock.Machine

import LineClock.Machine.Run

/-!
# What steps of the machine leave behind

Steps of an activation leave an outcome, an activation and a state. Main statements: what sequences
of steps, caught failures and questions to the host leave, from what their parts leave. They are the
only place where the monads of the machine are opened.
-/

namespace LineClock.Machine

variable {σ ε α β : Type}

/-- The outcome of steps of an activation, with the activation and the state they leave. -/
def Act.out (x : Act σ α) (a : Activation) (s : σ) : (Except ExecError α × Activation) × σ :=
  (x.run.run a).run s

/-- The outcome of a call, with the state it leaves. -/
def Exec.out (x : Exec σ α) (s : σ) : Except ExecError α × σ := x.run.run s

/-- The outcome of something that may fail, with the state it leaves. -/
def answer (x : ExceptT ε (StateM σ) α) (s : σ) : Except ε α × σ := x.run.run s

/-! ## Steps of an activation -/

theorem Act.out_bind (x : Act σ α) (f : α → Act σ β) (a : Activation) (s : σ) :
    (x >>= f).out a s = match x.out a s with
      | ((.ok v, a'), s') => (f v).out a' s'
      | ((.error e, a'), s') => ((.error e, a'), s') := by
  unfold Act.out
  simp only [ExceptT.run, bind, ExceptT.bind, ExceptT.mk, StateT.run, StateT.bind]
  rcases x a s with ⟨⟨o, a'⟩, s'⟩
  cases o <;> rfl

theorem Act.out_tryCatch (x : Act σ α) (f : ExecError → Act σ α) (a : Activation) (s : σ) :
    (tryCatch x f : Act σ α).out a s = match x.out a s with
      | ((.ok v, a'), s') => ((.ok v, a'), s')
      | ((.error e, a'), s') => (f e).out a' s' := by
  unfold Act.out
  simp only [ExceptT.run, tryCatch, tryCatchThe, MonadExceptOf.tryCatch, ExceptT.tryCatch, bind,
    ExceptT.mk, StateT.run, StateT.bind]
  rcases x a s with ⟨⟨o, a'⟩, s'⟩
  cases o <;> rfl

theorem Act.out_lift (x : ExceptT HookError (StateM σ) α) (a : Activation) (s : σ) :
    Act.out (lift x) a s = match answer x s with
      | (.ok v, s') => ((.ok v, a), s')
      | (.error e, s') => ((.error (.hook e), a), s') := by
  unfold Act.out answer
  simp only [lift, ExceptT.run, bind, ExceptT.bind, ExceptT.mk, StateT.run, StateT.bind,
    liftM, monadLift, MonadLift.monadLift, ExceptT.lift, StateT.lift, Functor.map, StateT.map,
    ExceptT.bindCont]
  rcases x s with ⟨o, s'⟩
  cases o <;> rfl

@[simp] theorem Act.out_pure (v : α) (a : Activation) (s : σ) :
    Act.out (pure v : Act σ α) a s = ((.ok v, a), s) := rfl

@[simp] theorem Act.out_throw (e : ExecError) (a : Activation) (s : σ) :
    Act.out (throw e : Act σ α) a s = ((.error e, a), s) := rfl

@[simp] theorem Act.out_get (a : Activation) (s : σ) :
    Act.out (get : Act σ Activation) a s = ((.ok a, a), s) := rfl

@[simp] theorem Act.out_set (b a : Activation) (s : σ) :
    Act.out (set b : Act σ PUnit) a s = ((.ok (), b), s) := rfl

@[simp] theorem Act.out_modify (f : Activation → Activation) (a : Activation) (s : σ) :
    Act.out (modify f : Act σ PUnit) a s = ((.ok (), f a), s) := rfl

@[simp] theorem Act.out_liftM (m : StateM σ α) (a : Activation) (s : σ) :
    Act.out (liftM m : Act σ α) a s = ((.ok (m s).1, a), (m s).2) := rfl

/-! ## Calls -/

theorem Exec.out_bind (x : Exec σ α) (f : α → Exec σ β) (s : σ) :
    (x >>= f).out s = match x.out s with
      | (.ok v, s') => (f v).out s'
      | (.error e, s') => (.error e, s') := by
  unfold Exec.out
  simp only [ExceptT.run, bind, ExceptT.bind, ExceptT.mk, StateT.run, StateT.bind]
  rcases x s with ⟨o, s'⟩
  cases o <;> rfl

@[simp] theorem Exec.out_pure (v : α) (s : σ) : Exec.out (pure v : Exec σ α) s = (.ok v, s) := rfl

@[simp] theorem Exec.out_throw (e : ExecError) (s : σ) :
    Exec.out (throw e : Exec σ α) s = (.error e, s) := rfl

@[simp] theorem Exec.out_liftM (m : StateM σ α) (s : σ) :
    Exec.out (liftM m : Exec σ α) s = (.ok (m s).1, (m s).2) := rfl

/-! ## What may fail -/

theorem answer_bind (x : ExceptT ε (StateM σ) α) (f : α → ExceptT ε (StateM σ) β) (s : σ) :
    answer (x >>= f) s = match answer x s with
      | (.ok v, s') => answer (f v) s'
      | (.error e, s') => (.error e, s') := by
  unfold answer
  simp only [ExceptT.run, bind, ExceptT.bind, ExceptT.mk, StateT.run, StateT.bind]
  rcases x s with ⟨o, s'⟩
  cases o <;> rfl

theorem answer_tryCatch (x : ExceptT ε (StateM σ) α) (f : ε → ExceptT ε (StateM σ) α) (s : σ) :
    answer (tryCatch x f) s = match answer x s with
      | (.ok v, s') => (.ok v, s')
      | (.error e, s') => answer (f e) s' := by
  unfold answer
  simp only [ExceptT.run, tryCatch, tryCatchThe, MonadExceptOf.tryCatch, ExceptT.tryCatch, bind,
    ExceptT.mk, StateT.run, StateT.bind]
  rcases x s with ⟨o, s'⟩
  cases o <;> rfl

theorem answer_adapt {ε' : Type} (f : ε → ε') (x : ExceptT ε (StateM σ) α) (s : σ) :
    answer (x.adapt f) s = match answer x s with
      | (.ok v, s') => (.ok v, s')
      | (.error e, s') => (.error (f e), s') := by
  unfold answer ExceptT.adapt
  simp only [ExceptT.run, ExceptT.mk, StateT.run, Functor.map, StateT.map]
  rcases x s with ⟨o, s'⟩
  cases o <;> rfl

theorem discard_eq_bind (x : ExceptT ε (StateM σ) α) : discard x = x >>= fun _ => pure () := by
  funext s
  simp only [discard, Functor.discard, Functor.mapConst, Function.comp, ExceptT.map, ExceptT.mk,
    bind, ExceptT.bind, StateT.bind]
  rcases x s with ⟨o, s'⟩
  cases o <;> rfl

theorem answer_discard (x : ExceptT ε (StateM σ) α) (s : σ) :
    answer (discard x) s = match answer x s with
      | (.ok _, s') => (.ok (), s')
      | (.error e, s') => (.error e, s') := by
  rw [discard_eq_bind, answer_bind]
  rfl

@[simp] theorem answer_pure (v : α) (s : σ) :
    answer (pure v : ExceptT ε (StateM σ) α) s = (.ok v, s) := rfl

@[simp] theorem answer_throw (e : ε) (s : σ) :
    answer (throw e : ExceptT ε (StateM σ) α) s = (.error e, s) := rfl

@[simp] theorem answer_get (s : σ) :
    answer (get : ExceptT ε (StateM σ) σ) s = (.ok s, s) := rfl

@[simp] theorem answer_set (s' s : σ) :
    answer (set s' : ExceptT ε (StateM σ) PUnit) s = (.ok (), s') := rfl

@[simp] theorem answer_modify (f : σ → σ) (s : σ) :
    answer (modify f : ExceptT ε (StateM σ) PUnit) s = (.ok (), f s) := rfl

@[simp] theorem answer_liftM (m : StateM σ α) (s : σ) :
    answer (liftM m : ExceptT ε (StateM σ) α) s = (.ok (m.run s).1, (m.run s).2) := rfl

/-! ## States without failure -/

theorem run_state_bind {m : StateM σ α} {s s' : σ} {v : α} (h : m.run s = (v, s'))
    (f : α → StateM σ β) : (m >>= f).run s = (f v).run s' := by
  have hb : (m >>= f).run s = (f (m.run s).1).run (m.run s).2 := rfl
  rw [hb, h]

theorem run_state_get_bind (f : σ → StateM σ α) (s : σ) : (get >>= f).run s = (f s).run s := rfl

theorem run_state_modify_bind (g : σ → σ) (f : PUnit → StateM σ α) (s : σ) :
    (modify g >>= f).run s = (f ()).run (g s) := rfl

theorem answer_get_bind (f : σ → ExceptT ε (StateM σ) α) (s : σ) :
    answer (get >>= f) s = answer (f s) s := rfl

theorem answer_liftM_bind {m : StateM σ α} {s s' : σ} {v : α} (h : m.run s = (v, s'))
    (f : α → ExceptT ε (StateM σ) β) : answer (liftM m >>= f) s = answer (f v) s' := by
  rw [answer_bind, answer_liftM, h]

theorem answer_bind_ok {x : ExceptT ε (StateM σ) α} {s s' : σ} {v : α}
    (h : answer x s = (.ok v, s')) (f : α → ExceptT ε (StateM σ) β) :
    answer (x >>= f) s = answer (f v) s' := by
  rw [answer_bind, h]

/-! ## Announcements -/

section

variable {host : Host σ} {a : Activation} {s s' : σ}

/-- An announcement is made unless it is a line of a frame whose line events are off. The answer says
whether they stay on. -/
theorem out_signal_eq (event : TraceEvent) (suspended : Bool) :
    (signal host event suspended).out a s =
      if event ≠ .line ∨ a.frame.linesOn then
        match answer (host.trace { a.frame with suspended } event) s with
        | (.ok linesOn, s') => ((.ok (), { a with frame := { a.frame with linesOn } }), s')
        | (.error e, s') => ((.error (.hook e), a), s')
      else ((.ok (), a), s) := by
  unfold signal
  rw [Act.out_bind, Act.out_get]
  simp only
  split
  · rw [Act.out_bind, Act.out_lift]
    rcases answer (host.trace { a.frame with suspended } event) s with ⟨o, s'⟩
    cases o <;> rfl
  · rfl

/-- An announcement that is accepted and changes nothing about line events. -/
theorem out_signal {event : TraceEvent} {suspended : Bool} (on : a.frame.linesOn = true)
    (h : answer (host.trace { a.frame with suspended } event) s = (.ok true, s')) :
    (signal host event suspended).out a s = ((.ok (), a), s') := by
  obtain ⟨⟨id, block, line, offset, linesOn, susp⟩, next, loops, started⟩ := a
  simp only at on
  subst on
  rw [out_signal_eq, if_pos (.inr rfl), h]

theorem out_notify {kind : EventKind}
    (h : answer (host.monitor ⟨kind, a.frame.block, a.frame.offset, a.frame.line⟩) s = (.ok (), s')) :
    (notify host kind).out a s = ((.ok (), a), s') := by
  unfold notify
  rw [Act.out_bind, Act.out_get]
  simp only
  rw [Act.out_lift, h]

/-- What follows steps that were carried out. -/
theorem Act.out_bind_ok {x : Act σ α} {a' : Activation} {v : α} (h : x.out a s = ((.ok v, a'), s'))
    (f : α → Act σ β) : (x >>= f).out a s = (f v).out a' s' := by
  rw [Act.out_bind, h]

end

/-! ## Frames as a whole -/

variable (host : Host σ) (call : RoutineId → Exec σ Unit) (budget : Nat) (routine : RoutineId)

/-- What comes after an instruction with a given outcome. -/
def onward (instr : Instr) : Outcome → Act σ Flow
  | .stop flow => pure flow
  | .goOn jumped => execute host call budget (if jumped then none else some instr.line)

/-- The rest of a frame from an instruction on whose line was announced. -/
def proceed (instr : Instr) : Act σ Flow := do
  modify fun act => { act with next := act.next + 1 }
  onward host call budget instr (← perform host call instr)

theorem out_perform_call (line : UInt32) (index : UInt8) (a : Activation) (s : σ) :
    (perform host call ⟨line, .call index⟩).out a s =
      match a.frame.block.callees[index.toNat]? with
      | none => ((.error (.badCallee a.frame.block.name index), a), s)
      | some callee =>
        match (call callee).out s with
        | (.ok (), s') => ((.ok (.goOn false), a), s')
        | (.error e, s') => ((.error e, a), s') := by
  unfold perform
  rw [Act.out_bind, Act.out_get]
  simp only
  cases a.frame.block.callees[index.toNat]? with
  | none => rfl
  | some callee =>
    simp only [Act.out_bind, Act.out_liftM]
    have h : (call callee).out s = (call callee).run s := rfl
    rw [h]
    rcases (call callee).run s with ⟨o, s'⟩
    cases o <;> rfl

theorem out_resumeScoped (act : Activation) (s : σ) :
    (resumeScoped host call budget routine act).out s =
      match answer (host.enter routine) s with
      | (.error e, s') => (.error (.hook e), s')
      | (.ok (), s') =>
        match (resume host call budget).out act s' with
        | ((.ok flow, act'), s') => (.ok (flow, act'), (host.leave routine s').2)
        | ((.error e, _), s') => (.error e, (host.leave routine s').2) := by
  unfold resumeScoped
  rw [Exec.out_bind, Exec.out_liftM]
  have h : answer (host.enter routine) s = (host.enter routine).run s := rfl
  rw [h]
  rcases (host.enter routine).run s with ⟨o, s'⟩
  cases o with
  | error e => rfl
  | ok v =>
    simp only [Exec.out_bind, Exec.out_liftM]
    have h : (resume host call budget).out act s' = ((resume host call budget).run.run act) s' := rfl
    rw [h]
    rcases (ExceptT.run (resume host call budget)).run act s' with ⟨⟨o, act'⟩, s'⟩
    cases o <;> rfl

@[simp] theorem out_drain_zero (act : Activation) (s : σ) :
    (drain host call budget routine 0 act).out s = (.error .unfinished, s) := rfl

theorem out_drain_succ (rounds : Nat) (act : Activation) (s : σ) :
    (drain host call budget routine (rounds + 1) act).out s =
      match (resumeScoped host call budget routine act).out s with
      | (.ok (.returned, _), s') => (.ok (), s')
      | (.ok (.yielded, act'), s') => (drain host call budget routine rounds act').out s'
      | (.error e, s') => (.error e, s') := by
  rw [drain, Exec.out_bind]
  rcases (resumeScoped host call budget routine act).out s with ⟨o, s'⟩
  rcases o with e | ⟨flow, act'⟩
  · rfl
  · cases flow <;> rfl

@[simp] theorem out_invoke_zero (s : σ) :
    (invoke host budget 0 routine).out s = (.error (.recursionLimit maxDepth), s) := rfl

theorem out_invoke_succ (depth : Nat) (s : σ) :
    (invoke host budget (depth + 1) routine).out s =
      (drain host (invoke host budget depth) budget routine budget
        (fresh (host.newFrame s).1 (host.code s routine))).out (host.newFrame s).2 := rfl

end LineClock.Machine

import LineClock.Proofs.Machine.Simulation

/-!
# What is kept beside a run

Whatever the surroundings of the machine are, more may be kept beside their state. If they do below
what they did without it, the machine runs as it did. A journal is kept so: everything that the
machine does through its surroundings is noted there in the order in which it is done.

Main statements: `Atop.simulation`, `Atop.execute_out`, `Atop.call_out` and `Atop.step_kept`.
-/

namespace LineClock

open Machine

namespace Machine

/-! ## What is kept is not noticed -/

/-- Surroundings that do what others do to the state `below`, with more kept beside it. -/
structure Atop {σ τ : Type} (below : τ → σ) (h : Host τ) (k : Host σ) : Prop where
  code : ∀ x routine, h.code x routine = k.code (below x) routine
  newFrame : ∀ x, k.newFrame (below x) = ((h.newFrame x).1, below (h.newFrame x).2)
  work : ∀ x n, (k.work n (below x)).2 = below (h.work n x).2
  trace : ∀ x frame event, answer (k.trace frame event) (below x) =
    ((answer (h.trace frame event) x).1, below (answer (h.trace frame event) x).2)
  monitor : ∀ x event, answer (k.monitor event) (below x) =
    ((answer (h.monitor event) x).1, below (answer (h.monitor event) x).2)
  enter : ∀ x routine, answer (k.enter routine) (below x) =
    ((answer (h.enter routine) x).1, below (answer (h.enter routine) x).2)
  leave : ∀ x routine, (k.leave routine (below x)).2 = below (h.leave routine x).2

namespace Atop

variable {σ τ α β : Type} {below : τ → σ} {h : Host τ} {k : Host σ}

/-- A state with more beside it, and that state. -/
def bond (below : τ → σ) : Bond Unit τ σ where
  Lost _ := False
  Out _ x y := below x = y
  Idle _ f x y := f.left = f.right ∧ below x = y
  Run _ f x y := f.left = f.right ∧ below x = y

/-- Steps that do below what others do. -/
def Unnoticed (below : τ → σ) (act : Act τ α) (bare : Act σ α) : Prop :=
  ∀ a x, bare.out a (below x) = ((act.out a x).1, below (act.out a x).2)

theorem Unnoticed.bind {act : Act τ α} {bare : Act σ α} {f : α → Act τ β} {g : α → Act σ β}
    (first : Unnoticed below act bare) (rest : ∀ v, Unnoticed below (f v) (g v)) :
    Unnoticed below (act >>= f) (bare >>= g) := by
  intro a x
  rw [Act.out_bind, Act.out_bind, first a x]
  rcases act.out a x with ⟨⟨e | v, a'⟩, x'⟩
  · rfl
  · exact rest v a' x'

theorem alongside (a : Activation) (x : τ) :
    Alongside (fun f x y => f.left = f.right ∧ below x = y) a x a (below x) :=
  Machine.alongside (P := fun _ x y => below x = y) rfl

/-- Steps that are not noticed keep the states together. -/
theorem Unnoticed.together {act : Act τ α} {bare : Act σ α} (same : Unnoticed below act bare)
    {Post : Except ExecError α → Activation → τ → Activation → σ → Prop}
    (post : ∀ o a x, Post o a x a (below x)) :
    Together (fun _ => False) (Alongside fun f x y => f.left = f.right ∧ below x = y) act bare Post := by
  intro a x b y there
  obtain ⟨rfl, rfl⟩ := beside (P := fun _ x y => below x = y) there
  rw [same a x]
  exact .inr ⟨rfl, post _ _ _⟩

theorem signal (atop : Atop below h k) (event : TraceEvent) (suspended : Bool) :
    Unnoticed below (Machine.signal h event suspended) (Machine.signal k event suspended) := by
  intro a x
  rw [out_signal_eq, out_signal_eq, atop.trace]
  split
  · rcases answer (h.trace { a.frame with suspended } event) x with ⟨_ | _, _⟩ <;> rfl
  · rfl

theorem notify (atop : Atop below h k) (kind : EventKind) :
    Unnoticed below (Machine.notify h kind) (Machine.notify k kind) := by
  intro a x
  rw [out_notify_eq, out_notify_eq, atop.monitor]
  rcases answer (h.monitor ⟨kind, a.frame.block, a.frame.offset, a.frame.line⟩) x with
    ⟨_ | _, _⟩ <;> rfl

theorem enterFrame (atop : Atop below h k) :
    Unnoticed below (Machine.enterFrame h) (Machine.enterFrame k) := by
  refine (atop.signal .call false).bind fun _ a x => ?_
  rw [Act.out_bind, Act.out_bind, Act.out_get, Act.out_get]
  simp only
  split
  · rfl
  · rw [Act.out_bind, Act.out_bind, Act.out_set, Act.out_set]
    simp only
    rw [Act.out_lift, Act.out_lift, atop.monitor]
    rcases answer (h.monitor ⟨.start, a.frame.block, 0, a.frame.block.firstLine⟩) x with
      ⟨_ | _, _⟩ <;> rfl

/-- **Surroundings with more beside their state** do the same as without. -/
theorem simulation (atop : Atop below h k) : Simulation (bond below) h k where
  keeps := Keeps.never _
  code := by
    rintro _ x _ routine rfl
    exact atop.code x routine
  newFrame := by
    rintro _ x _ block rfl
    rw [atop.newFrame]
    exact ⟨rfl, rfl, rfl⟩
  rest _ _ _ _ idle := idle.2
  enter := by
    rintro c f x _ routine ⟨same, rfl⟩
    right
    rw [atop.enter]
    rcases answer (h.enter routine) x with ⟨e | v, y⟩
    · exact ⟨rfl, rfl⟩
    · refine ⟨(), ⟨same, rfl⟩, ?_, ?_⟩
      · rintro g x _ ⟨same, rfl⟩
        exact ⟨same, (atop.leave x routine).symm⟩
      · rintro x _ rfl
        exact (atop.leave x routine).symm
  enterFrame _ := by
    refine atop.enterFrame.together fun o a x => ?_
    cases o with
    | error e => rfl
    | ok v => exact alongside a x
  startLine _ :=
    ((atop.signal .line false).bind fun _ => atop.notify .line).together fun _ => alongside
  work := by
    rintro _ f x _ n ⟨same, rfl⟩
    exact ⟨same, (atop.work x n).symm⟩
  call := by
    rintro _ f x _ ⟨same, rfl⟩
    exact ⟨(), rfl, fun _ _ out => ⟨same, out⟩⟩
  depart _ flow := by
    refine ((atop.signal .ret _).bind fun _ => atop.notify _).together fun o a x => ?_
    rcases o with e | v
    · rfl
    · cases flow with
      | returned => rfl
      | yielded => exact alongside a x
  unwind _ e := by
    refine ((atop.signal .exception false).bind fun _ => (atop.notify .raise).bind fun _ =>
      (atop.signal .ret false).bind fun _ => (atop.notify .unwind).bind fun _ => ?_).together
        fun o a x => ?_
    · exact fun _ _ => rfl
    · cases o with
      | error e => rfl
      | ok v => exact alongside a x

/-- **The units of a frame** are run as they are without it. -/
theorem execute_out (atop : Atop below h k) (budget depth units : Nat) (last : Option UInt32)
    (a : Activation) (x : τ) :
    (execute k (invoke k budget depth) units last).out a (below x) =
      (((execute h (invoke h budget depth) units last).out a x).1,
        below ((execute h (invoke h budget depth) units last).out a x).2) := by
  rcases atop.simulation.execute (atop.simulation.invoke budget depth)
    ((Keeps.never h).invoke budget depth) () units last a x a (below x) (alongside a x) with
    lost | ⟨same, there⟩
  · exact lost.elim
  · obtain ⟨whole, state⟩ := beside (P := fun _ x y => below x = y) there
    exact Prod.ext (Prod.ext same.symm whole.symm) state.symm

/-- **A call from outside** runs as it does without it. -/
theorem call_out (atop : Atop below h k) (budget : Nat) (routine : RoutineId) (x : τ) :
    (Machine.call k budget routine).out (below x) =
      (((Machine.call h budget routine).out x).1, below ((Machine.call h budget routine).out x).2) := by
  rcases atop.simulation.calls budget () routine x (below x) rfl with lost | ⟨same, state⟩
  · exact lost.elim
  · exact Prod.ext same.symm state.symm

/-- What there is to go on with after a frame was resumed: the frame, if it yielded. -/
def kept : Flow × Activation → Flow × Option Activation
  | (.returned, _) => (.returned, none)
  | (.yielded, a) => (.yielded, some a)

/-- **A frame that is resumed from outside** ends, or yields and waits, as it does without it. -/
theorem step_kept (atop : Atop below h k) (budget : Nat) (routine : RoutineId) (a : Activation)
    (x : τ) :
    ((Machine.step k budget routine a).out (below x)).1.map kept =
        ((Machine.step h budget routine a).out x).1.map kept ∧
      ((Machine.step k budget routine a).out (below x)).2 =
        below ((Machine.step h budget routine a).out x).2 := by
  rcases atop.simulation.step () budget routine (alongside a x) with lost | resumed
  · exact lost.elim
  · rcases above : (Machine.step h budget routine a).out x with ⟨e | ⟨_ | _, b⟩, y⟩ <;>
      rcases bare : (Machine.step k budget routine a).out (below x) with ⟨e' | ⟨_ | _, b'⟩, y'⟩ <;>
      rw [above, bare] at resumed
    case error.error => exact ⟨congrArg Except.error resumed.1.symm, resumed.2.symm⟩
    case ok.returned.ok.returned => exact ⟨rfl, resumed.symm⟩
    case ok.yielded.ok.yielded =>
      obtain ⟨rfl, state⟩ := beside (P := fun _ x y => below x = y) resumed
      exact ⟨rfl, state.symm⟩
    all_goals exact resumed.elim

/-- A frame that is resumed from outside answers as it does without it. -/
theorem step_out (atop : Atop below h k) (budget : Nat) (routine : RoutineId) (a : Activation)
    (x : τ) :
    ((Machine.step k budget routine a).out (below x)).1.map Prod.fst =
        ((Machine.step h budget routine a).out x).1.map Prod.fst ∧
      ((Machine.step k budget routine a).out (below x)).2 =
        below ((Machine.step h budget routine a).out x).2 := by
  have fst : ∀ o : Except ExecError (Flow × Activation), (o.map kept).map Prod.fst = o.map Prod.fst := by
    rintro (_ | ⟨_ | _, _⟩) <;> rfl
  obtain ⟨same, state⟩ := atop.step_kept budget routine a x
  exact ⟨by rw [← fst, ← fst, same], state⟩

end Atop

/-! ## The journal -/

/-- What the machine does through its surroundings. -/
inductive Doing where
  | trace (frame : Frame) (event : TraceEvent)
  | monitor (event : MonitorEvent)
  | work (n : UInt8)
  /-- The scope of a routine is entered, or it is tried. -/
  | enter (routine : RoutineId)
  | leave (routine : RoutineId)
  deriving DecidableEq, Repr

/-- A state with a journal beside it, the newest last. -/
structure Journal (σ : Type) where
  state : σ
  doings : List Doing := []

namespace Journal

variable {σ α : Type}

/-- The journal with one more note. -/
def note (x : Journal σ) (d : Doing) : Journal σ := { x with doings := x.doings ++ [d] }

/-- Act on the state and leave the journal alone. -/
def aside (m : StateM σ α) : StateM (Journal σ) α := fun x =>
  ((m x.state).1, { x with state := (m x.state).2 })

end Journal

end Machine

/-- The surroundings with a journal in which everything is noted before it is done. -/
def Host.noted {σ : Type} (host : Host σ) : Host (Journal σ) where
  code x routine := host.code x.state routine
  newFrame := Journal.aside host.newFrame
  work n := do
    modify fun x => x.note (.work n)
    Journal.aside (host.work n)
  trace frame event := ExceptT.mk do
    modify fun x => x.note (.trace frame event)
    Journal.aside (host.trace frame event).run
  monitor event := ExceptT.mk do
    modify fun x => x.note (.monitor event)
    Journal.aside (host.monitor event).run
  enter routine := ExceptT.mk do
    modify fun x => x.note (.enter routine)
    Journal.aside (host.enter routine).run
  leave routine := do
    modify fun x => x.note (.leave routine)
    Journal.aside (host.leave routine)

namespace Machine

variable {σ : Type} (host : Host σ) (x : Journal σ)

-- These equations are for rewriting: unfolding the two sides would go into the host.
theorem noted_newFrame : host.noted.newFrame x =
    ((host.newFrame x.state).1, { x with state := (host.newFrame x.state).2 }) := rfl

theorem noted_work (n : UInt8) : (host.noted.work n x).2 =
    ⟨(host.work n x.state).2, x.doings ++ [.work n]⟩ := rfl

theorem noted_leave (routine : RoutineId) : (host.noted.leave routine x).2 =
    ⟨(host.leave routine x.state).2, x.doings ++ [.leave routine]⟩ := rfl

theorem answer_noted_trace (frame : Frame) (event : TraceEvent) :
    answer (host.noted.trace frame event) x = ((answer (host.trace frame event) x.state).1,
      ⟨(answer (host.trace frame event) x.state).2, x.doings ++ [.trace frame event]⟩) := rfl

theorem answer_noted_monitor (event : MonitorEvent) :
    answer (host.noted.monitor event) x = ((answer (host.monitor event) x.state).1,
      ⟨(answer (host.monitor event) x.state).2, x.doings ++ [.monitor event]⟩) := rfl

theorem answer_noted_enter (routine : RoutineId) :
    answer (host.noted.enter routine) x = ((answer (host.enter routine) x.state).1,
      ⟨(answer (host.enter routine) x.state).2, x.doings ++ [.enter routine]⟩) := rfl

namespace Journal

/-- A journal is kept beside the state. -/
theorem atop : Atop Journal.state host.noted host where
  code _ _ := rfl
  newFrame _ := rfl
  work _ _ := rfl
  trace _ _ _ := rfl
  monitor _ _ := rfl
  enter _ _ := rfl
  leave _ _ := rfl

/-- The units of a frame are run as they are without the journal. -/
theorem execute_out (budget depth units : Nat) (last : Option UInt32) (a : Activation) (x : Journal σ) :
    (execute host (invoke host budget depth) units last).out a x.state =
      (((execute host.noted (invoke host.noted budget depth) units last).out a x).1,
        ((execute host.noted (invoke host.noted budget depth) units last).out a x).2.state) :=
  (atop host).execute_out budget depth units last a x

/-- A call from outside runs as it does without the journal. -/
theorem call_out (budget : Nat) (routine : RoutineId) (x : Journal σ) :
    (Machine.call host budget routine).out x.state =
      (((Machine.call host.noted budget routine).out x).1,
        ((Machine.call host.noted budget routine).out x).2.state) :=
  (atop host).call_out budget routine x

/-- A frame that is resumed from outside answers as it does without the journal. -/
theorem step_out (budget : Nat) (routine : RoutineId) (a : Activation) (x : Journal σ) :
    ((Machine.step host budget routine a).out x.state).1.map Prod.fst =
        ((Machine.step host.noted budget routine a).out x).1.map Prod.fst ∧
      ((Machine.step host budget routine a).out x.state).2 =
        ((Machine.step host.noted budget routine a).out x).2.state :=
  (atop host).step_out budget routine a x

end Journal

end Machine

end LineClock

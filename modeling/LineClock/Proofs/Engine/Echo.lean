import LineClock.Proofs.Engine.Accord
import LineClock.Proofs.Registry.Apart

/-!
# A run and its echo

One machine does what another does, with copies of some of the blocks and with a budget that pays
for their padding as well. An `Echo` says which blocks and which routines stand for each other and
how the views of both sides belong together; the machine is followed here. Nothing is claimed of a
run that was cut short on the first side.

A frame of a copy gets behind the body only by running its last unit, so what is left of it announces
nothing: that is why a frame that waits must wait inside of its body.

Main statements: `Echo.calls` and `Echo.step`.
-/

namespace LineClock

open Machine Engine

variable {σ τ : Type} {L : Block → Block → Prop} {C : RoutineId → RoutineId → Prop}

/-! ## What is left -/

/-- An error where other blocks stand for those of the first side. -/
inductive ExecError.Echoes (L : Block → Block → Prop) : ExecError → ExecError → Prop where
  | same (e : ExecError) : Echoes L e e
  | raised {b c : Block} (pair : L b c) (line : UInt32) :
    Echoes L (.raised b.name line) (.raised c.name line)
  | badCallee {b c : Block} (pair : L b c) (index : UInt8) :
    Echoes L (.badCallee b.name index) (.badCallee c.name index)

/-- What two runs leave that do the same, where the first was not cut short. -/
inductive Echoed (L : Block → Block → Prop) {α β S T : Type} (Lost : S → Prop)
    (Done : α → S → β → T → Prop) (Failed : S → T → Prop) :
    Except ExecError α × S → Except ExecError β × T → Prop where
  | cut {s : S} (lost : Lost s) (r : Except ExecError β × T) :
    Echoed L Lost Done Failed (.error .unfinished, s) r
  | done {v : α} {s : S} {w : β} {t : T} (done : Done v s w t) :
    Echoed L Lost Done Failed (.ok v, s) (.ok w, t)
  | failed {e e' : ExecError} {s : S} {t : T} (same : e.Echoes L e') (failed : Failed s t) :
    Echoed L Lost Done Failed (.error e, s) (.error e', t)

/-- A frame and the one that stands for it. Until its first line starts a frame is on the first line
of its own block. -/
structure Frame.Echoes (L : Block → Block → Prop) (f g : Frame) : Prop where
  pair : L f.block g.block
  line : g.line = f.line ∨ f.line = f.block.firstLine ∧ g.line = g.block.firstLine
  on : f.linesOn = true
  on' : g.linesOn = true

/-- An activation and the one that stands for it, at the same unit. -/
structure Activation.Echoes (L : Block → Block → Prop) (a a' : Activation) : Prop where
  frame : a.frame.Echoes L a'.frame
  next : a'.next = a.next
  loops : a'.loops = a.loops
  started : a'.started = a.started

/-- The activation once it has come to its next unit. -/
def Activation.arrived (a : Activation) (instr : Instr) : Activation :=
  { a with frame := { a.frame with offset := a.next, line := instr.line }, next := a.next + 1 }

theorem Activation.Echoes.arrived {a a' : Activation} (run : a.Echoes L a') (instr : Instr) :
    (a.arrived instr).Echoes L (a'.arrived instr) := by
  obtain ⟨⟨pair, -, on, on'⟩, next, loops, started⟩ := run
  exact ⟨⟨pair, .inl rfl, on, on'⟩, congrArg (· + 1) next, loops, started⟩

/-- Activations that wait, where a copy is concerned inside of the body. -/
structure Activation.Waits (L : Block → Block → Prop) (a a' : Activation) : Prop
    extends a.Echoes L a' where
  inside : a.frame.block = a'.frame.block ∨ a.next < a.frame.block.body.length

/-- Outcome, activation and state in a row. -/
def Machine.Act.left {α : Type} (x : Act σ α) (a : Activation) (s : σ) :
    Except ExecError α × Activation × σ :=
  ((x.out a s).1.1, (x.out a s).1.2, (x.out a s).2)

/-- What stands for what, how much padding it has, and how the views belong together. -/
structure Echo (L : Block → Block → Prop) (C : RoutineId → RoutineId → Prop) (padding : Nat)
    (V : View → View → Prop) : Prop where
  pair : ∀ {b c}, L b c → b = c ∨ b.Copies c ∧ c.padding ≤ padding
  callees : ∀ {b c}, L b c → ∀ i : Nat, Option.Rel C b.callees[i]? c.callees[i]?
  code : ∀ {v w}, V v w → ∀ {r q}, C r q → L (v.scene.codeOf r) (w.scene.codeOf q)
  newFrame : ∀ {v w}, V v w → V (v.on Scene.addFrame) (w.on Scene.addFrame)
  work : ∀ {v w}, V v w → ∀ ticks, V (v.on fun s => s.spend ticks) (w.on fun s => s.spend ticks)
  enter : ∀ {v w}, V v w → ∀ {r q}, C r q →
    V (v.on fun s => s.enterScope r) (w.on fun s => s.enterScope q)
  leave : ∀ {v w}, V v w → ∀ {r q}, C r q →
    V (v.on fun s => s.leaveScope r) (w.on fun s => s.leaveScope q)
  enterFrame : ∀ {v w}, V v w → ∀ {f g : Frame}, f.Echoes L g → V (v.enterFrame f) (w.enterFrame g)
  startLine : ∀ {v w}, V v w → ∀ {f g : Frame}, f.Echoes L g → g.line = f.line →
    V (v.startLine f) (w.startLine g)
  depart : ∀ {v w}, V v w → ∀ {f g : Frame}, f.Echoes L g → ∀ flow,
    V (v.depart f flow) (w.depart g flow)
  unwind : ∀ {v w}, V v w → ∀ {f g : Frame}, f.Echoes L g → V (v.unwind f) (w.unwind g)

/-! ## Running a frame -/

namespace Audience

variable {b : Backend} {host : Host σ} {Sees : σ → View → Prop} {call : RoutineId → Exec σ Unit}
  {s : σ} {v : View} {a : Activation}

/-- Once the line was announced, the unit is carried out, and what follows depends on how. -/
theorem out_proceed (instr : Instr) (budget : Nat) :
    (proceed host call budget instr).out
        { a with frame := { a.frame with offset := a.next, line := instr.line } } s =
      match (perform host call instr).out (a.arrived instr) s with
      | ((.ok (.stop flow), a'), s') => ((.ok flow, a'), s')
      | ((.ok (.goOn jumped), a'), s') =>
        (execute host call budget (if jumped then none else some instr.line)).out a' s'
      | ((.error e, a'), s') => ((.error e, a'), s') := by
  unfold proceed Activation.arrived
  rw [Act.out_bind, Act.out_modify]
  simp only
  rw [Act.out_bind]
  rcases (perform host call instr).out _ s with ⟨⟨o, a'⟩, s'⟩
  rcases o with e | flow | jumped <;> rfl

/-- One round: the line is announced if it is another one, the unit is carried out, and what follows
depends on how. -/
theorem execute_succ (h : Audience b host Sees) (sees : Sees s v) (on : a.frame.linesOn = true)
    {instr : Instr} (found : a.frame.block.instrs[a.next]? = some instr) (budget : Nat)
    (last : Option UInt32) :
    ∃ x, Sees x (if last ≠ some instr.line then v.startLine (a.arrived instr).frame else v) ∧
      (execute host call (budget + 1) last).out a s =
        match (perform host call instr).out (a.arrived instr) x with
        | ((.ok (.stop flow), a'), y) => ((.ok flow, a'), y)
        | ((.ok (.goOn jumped), a'), y) =>
          (execute host call budget (if jumped then none else some instr.line)).out a' y
        | ((.error e, a'), y) => ((.error e, a'), y) := by
  rw [execute, Act.out_bind, Act.out_get]
  simp only [found]
  by_cases again : last = some instr.line
  · rw [if_neg (not_not_intro again)]
    refine ⟨s, sees, ?_⟩
    rw [if_neg (not_not_intro again), Act.out_bind]
    simp only [arrive, Act.out_modify]
    exact out_proceed instr budget
  · rw [if_pos again]
    obtain ⟨x, told, sees'⟩ :=
      h.startLine (a := { a with frame := { a.frame with offset := a.next, line := instr.line } })
        sees on
    refine ⟨x, sees', ?_⟩
    rw [if_pos again, Act.out_bind]
    simp only [arrive, Act.out_modify]
    rw [Act.out_bind_ok told]
    exact out_proceed instr budget

end Audience

/-- No-ops on the line that was announced last change nothing but where the frame stands. -/
theorem Machine.execute_noOps (host : Host σ) (call : RoutineId → Exec σ Unit) (line : UInt32)
    (s : σ) : ∀ (budget m : Nat) (a : Activation),
      a.frame.block.instrs.drop a.next = List.replicate m ⟨line, .nop⟩ → a.frame.line = line →
      ∃ o a', (execute host call budget (some line)).out a s = ((o, a'), s) ∧
        (∃ offset, a'.frame = { a.frame with offset }) ∧
        (o = .ok .returned ∨ o = .error .unfinished ∧ budget ≤ m)
  | 0, m, a, _, _ => ⟨_, a, rfl, ⟨a.frame.offset, rfl⟩, .inr ⟨rfl, Nat.zero_le m⟩⟩
  | budget + 1, 0, a, behind, here => by
    have none : a.frame.block.instrs[a.next]? = none :=
      List.getElem?_eq_none_iff.mpr (List.drop_eq_nil_iff.mp behind)
    refine ⟨.ok .returned, a, ?_, ⟨a.frame.offset, rfl⟩, .inl rfl⟩
    rw [execute, Act.out_bind, Act.out_get]
    simp only [none]
    rfl
  | budget + 1, m + 1, a, behind, here => by
    have found : a.frame.block.instrs[a.next]? = some ⟨line, .nop⟩ := by
      rw [← List.head?_drop, behind]
      rfl
    have after : a.frame.block.instrs.drop (a.next + 1) = List.replicate m ⟨line, .nop⟩ := by
      rw [← List.tail_drop, behind]
      rfl
    let next : Activation := a.arrived ⟨line, .nop⟩
    obtain ⟨o, a', run, ⟨offset, same⟩, done⟩ :=
      Machine.execute_noOps host call line s budget m next after rfl
    refine ⟨o, a', ?_, ⟨offset, ?_⟩, done.imp id fun cut => ⟨cut.1, Nat.succ_le_succ cut.2⟩⟩
    · rw [← run, execute, Act.out_bind, Act.out_get]
      simp only [found, ne_eq, not_true_eq_false, if_false]
      rfl
    · rw [same]
      subst here
      rfl

namespace Echo

variable {n : Nat} {V : View → View → Prop} {b b' : Backend} {h : Host σ} {k : Host τ}
  {Sees : σ → View → Prop} {Sees' : τ → View → Prop} {call : RoutineId → Exec σ Unit}
  {call' : RoutineId → Exec τ Unit} {a a' : Activation} {s : σ} {t : τ}

/-- States whose views belong together. -/
abbrev Rel (V : View → View → Prop) (Sees : σ → View → Prop) (Sees' : τ → View → Prop) : σ → τ → Prop :=
  Accord.Both Sees Sees' V

/-- Calls of routines that stand for each other do the same. -/
def Calls (L : Block → Block → Prop) (C : RoutineId → RoutineId → Prop) (V : View → View → Prop)
    (Sees : σ → View → Prop) (Sees' : τ → View → Prop) (call : RoutineId → Exec σ Unit)
    (call' : RoutineId → Exec τ Unit) : Prop :=
  ∀ r q s t, C r q → Rel V Sees Sees' s t →
    Echoed L (fun s => ∃ v, Sees s v) (fun _ s _ t => Rel V Sees Sees' s t) (Rel V Sees Sees')
      ((call r).out s) ((call' q).out t)

/-- Where a unit leads, from an activation that is to go on with the unit behind it. -/
def Leads (instr : Instr) (a a₁ : Activation) : Outcome → Prop
  | .stop .returned => True
  | .stop .yielded => instr.op = .yield ∧ a.frame.block.generator = true ∧ a₁.next = a.next
  | .goOn true => ∃ target, instr.op.back? = some target ∧ a₁.next = target
  | .goOn false => a₁.next = a.next

/-- A unit was carried out on both sides. -/
structure Performed (L : Block → Block → Prop) (instr : Instr) (a a' : Activation) (o : Outcome)
    (a₁ : Activation) (o' : Outcome) (a₁' : Activation) : Prop where
  outcome : o' = o
  echoes : a₁.Echoes L a₁'
  frame : a₁.frame = a.frame
  frame' : a₁'.frame = a'.frame
  leads : Leads instr a a₁ o

theorem generator (echo : Echo L C n V) {b c : Block} (pair : L b c) : c.generator = b.generator := by
  rcases echo.pair pair with rfl | ⟨copies, -⟩
  · rfl
  · exact copies.generator

/-- **A unit does the same** on both sides. -/
theorem perform (echo : Echo L C n V) (left : Audience b h Sees) (right : Audience b' k Sees')
    (hc : Calls L C V Sees Sees' call call') (run : a.Echoes L a') (rel : Rel V Sees Sees' s t)
    (instr : Instr) :
    Echoed L (fun p => p.1.frame.linesOn = true ∧ ∃ v, Sees p.2 v)
      (fun o p o' q => Performed L instr a a' o p.1 o' q.1 ∧ Rel V Sees Sees' p.2 q.2)
      (fun p q => p.1.frame.Echoes L q.1.frame ∧ Rel V Sees Sees' p.2 q.2)
      ((perform h call instr).left a s) ((perform k call' instr).left a' t) := by
  obtain ⟨line, op⟩ := instr
  cases op with
  | nop => exact .done ⟨⟨rfl, run, rfl, rfl, rfl⟩, rel⟩
  | work units =>
    obtain ⟨v, w, sees, sees', views⟩ := rel
    exact .done ⟨⟨rfl, run, rfl, rfl, rfl⟩, _, _, left.work sees units, right.work sees' units,
      echo.work views _⟩
  | call index =>
    unfold Act.left
    rw [out_perform_call, out_perform_call]
    have callees := echo.callees run.frame.pair index.toNat
    generalize a.frame.block.callees[index.toNat]? = x at callees ⊢
    generalize a'.frame.block.callees[index.toNat]? = y at callees ⊢
    cases callees with
    | none => exact .failed (.badCallee run.frame.pair index) ⟨run.frame, rel⟩
    | @some r q both =>
      have called := hc r q s t both rel
      simp only
      generalize (call r).out s = x at called ⊢
      generalize (call' q).out t = y at called ⊢
      cases called with
      | cut lost => exact .cut ⟨run.frame.on, lost⟩ _
      | done rel' => exact .done ⟨⟨rfl, run, rfl, rfl, rfl⟩, rel'⟩
      | failed same rel' => exact .failed same ⟨run.frame, rel'⟩
  | loopStart count =>
    refine .done ⟨⟨rfl, ⟨run.frame, run.next, ?_, run.started⟩, rfl, rfl, rfl⟩, rel⟩
    exact congrArg (count.toNat :: ·) run.loops
  | loopEnd target =>
    obtain ⟨frame, next, loops, started⟩ := a
    obtain ⟨frame', next', loops', started'⟩ := a'
    obtain ⟨frames, rfl, rfl, rfl⟩ := run
    rcases loops' with _ | ⟨count, outer⟩
    · exact .done ⟨⟨rfl, ⟨frames, rfl, rfl, rfl⟩, rfl, rfl, rfl⟩, rel⟩
    · unfold Machine.perform Act.left
      simp only [Act.out_bind, Act.out_get, Act.out_set, Act.out_pure, endLoop]
      by_cases again : 0 < count - 1
      · simp only [again, if_true]
        exact .done ⟨⟨rfl, ⟨frames, rfl, rfl, rfl⟩, rfl, rfl, _, rfl, rfl⟩, rel⟩
      · simp only [again, if_false]
        exact .done ⟨⟨rfl, ⟨frames, rfl, rfl, rfl⟩, rfl, rfl, rfl⟩, rel⟩
  | yield =>
    have same := echo.generator run.frame.pair
    unfold Machine.perform Act.left
    simp only [Act.out_bind, Act.out_get, Act.out_pure, same]
    cases generates : a.frame.block.generator with
    | true => exact .done ⟨⟨rfl, run, rfl, rfl, rfl, generates, rfl⟩, rel⟩
    | false => exact .done ⟨⟨rfl, run, rfl, rfl, rfl⟩, rel⟩
  | raise => exact .failed (.raised run.frame.pair line) ⟨run.frame, rel⟩
  | ret => exact .done ⟨⟨rfl, run, rfl, rfl, trivial⟩, rel⟩

/-- A frame gave control back on both sides. -/
structure Ran (L : Block → Block → Prop) (flow : Flow) (a₁ : Activation) (flow' : Flow)
    (a₁' : Activation) : Prop where
  outcome : flow' = flow
  frame : a₁.frame.Echoes L a₁'.frame
  waits : flow = .yielded → a₁.Waits L a₁'

/-- What a run leaves of the frame. -/
abbrev Runs (L : Block → Block → Prop) (V : View → View → Prop) (Sees : σ → View → Prop)
    (Sees' : τ → View → Prop) :
    Except ExecError Flow × Activation × σ → Except ExecError Flow × Activation × τ → Prop :=
  Echoed L (fun p => p.1.frame.linesOn = true ∧ ∃ v, Sees p.2 v)
    (fun flow p flow' q => Ran L flow p.1 flow' q.1 ∧ Rel V Sees Sees' p.2 q.2)
    fun p q => p.1.frame.Echoes L q.1.frame ∧ Rel V Sees Sees' p.2 q.2

/-- **A round does the same** on both sides, if what follows does. -/
theorem round (echo : Echo L C n V) (left : Audience b h Sees) (right : Audience b' k Sees')
    (hc : Calls L C V Sees Sees' call call') (run : a.Echoes L a') (rel : Rel V Sees Sees' s t)
    {instr : Instr} (found : a.frame.block.instrs[a.next]? = some instr)
    (found' : a'.frame.block.instrs[a'.next]? = some instr) {budget budget' : Nat}
    (last : Option UInt32)
    (waits : ∀ a₁ a₁', Performed L instr (a.arrived instr) (a'.arrived instr)
      (.stop .yielded) a₁ (.stop .yielded) a₁' → a₁.Waits L a₁')
    (goesOn : ∀ jumped a₁ a₁' x y, Performed L instr (a.arrived instr)
      (a'.arrived instr) (.goOn jumped) a₁ (.goOn jumped) a₁' → Rel V Sees Sees' x y →
      Runs L V Sees Sees'
        ((execute h call budget (if jumped then none else some instr.line)).left a₁ x)
        ((execute k call' budget' (if jumped then none else some instr.line)).left a₁' y)) :
    Runs L V Sees Sees' ((execute h call (budget + 1) last).left a s)
      ((execute k call' (budget' + 1) last).left a' t) := by
  obtain ⟨v, w, sees, sees', views⟩ := rel
  obtain ⟨x, seesx, round⟩ : ∃ x, Sees x _ ∧ (execute h call (budget + 1) last).out a s = _ :=
    left.execute_succ sees run.frame.on found budget last
  obtain ⟨y, seesy, round'⟩ :
      ∃ y, Sees' y _ ∧ (execute k call' (budget' + 1) last).out a' t = _ :=
    right.execute_succ sees' run.frame.on' found' budget' last
  have rel : Rel V Sees Sees' x y := by
    refine ⟨_, _, seesx, seesy, ?_⟩
    split
    · exact echo.startLine views (run.arrived instr).frame rfl
    · exact views
  have performed := echo.perform left right hc (run.arrived instr) rel instr
  unfold Act.left at performed ⊢
  rw [round, round']
  rcases ho : (Machine.perform h call instr).out (a.arrived instr) x with ⟨⟨o, a₁⟩, x₁⟩
  rcases ho' : (Machine.perform k call' instr).out (a'.arrived instr) y with ⟨⟨o', a₁'⟩, y₁⟩
  rw [ho, ho'] at performed
  simp only at performed
  cases performed with
  | cut lost =>
    obtain ⟨on, v, sees⟩ := lost
    exact .cut ⟨on, v, sees⟩ _
  | failed same left => exact .failed same left
  | @done o _ o' _ done =>
    obtain ⟨done, rel⟩ := done
    cases done.outcome
    cases o with
    | goOn jumped => exact goesOn jumped a₁ a₁' x₁ y₁ done rel
    | stop flow =>
      refine .done ⟨⟨rfl, done.echoes.frame, fun yields => ?_⟩, rel⟩
      cases yields
      exact waits a₁ a₁' done

/-- Where the next unit is: in a block that both sides run, inside of the body, or behind it once the
last unit was run. -/
def Stands (a a' : Activation) (last : Option UInt32) : Prop :=
  a.frame.block = a'.frame.block ∨ a.next < a.frame.block.body.length ∨
    a.next = a.frame.block.body.length ∧ last = some a.frame.block.paddingLine ∧
      a.frame.line = a.frame.block.paddingLine ∧ a'.frame.line = a.frame.block.paddingLine

/-- What is left of a frame behind its body announces nothing. -/
theorem padding (run : a.Echoes L a') (rel : Rel V Sees Sees' s t)
    (copies : a.frame.block.Copies a'.frame.block) (small : a'.frame.block.padding ≤ n)
    (behind : a.next = a.frame.block.body.length) (line : a.frame.line = a.frame.block.paddingLine)
    (line' : a'.frame.line = a.frame.block.paddingLine) {budget budget' : Nat}
    (enough : budget + n ≤ budget') :
    Runs L V Sees Sees' ((execute h call budget (some a.frame.block.paddingLine)).left a s)
      ((execute k call' budget' (some a.frame.block.paddingLine)).left a' t) := by
  have idle := copies.padded.behind
  have idle' := copies.padded'.behind
  rw [← behind] at idle
  rw [copies.body, ← behind, ← run.next, copies.paddingLine] at idle'
  obtain ⟨o, a₁, left, ⟨offset, frame⟩, done⟩ :=
    execute_noOps h call _ s budget _ a idle line
  obtain ⟨o', a₁', right, ⟨offset', frame'⟩, done'⟩ :=
    execute_noOps k call' _ t budget' _ a' idle' line'
  unfold Act.left
  rw [left, right]
  simp only
  rcases done with rfl | ⟨rfl, -⟩
  · rcases done' with rfl | ⟨-, few⟩
    · refine .done ⟨⟨rfl, ?_, fun yields => by cases yields⟩, rel⟩
      simp only [frame, frame']
      exact ⟨run.frame.pair, run.frame.line, run.frame.on, run.frame.on'⟩
    · -- The first side has run at least once, and the second may run `n` units more.
      cases budget with
      | zero => cases congrArg (fun x => x.1.1) left
      | succ budget => omega
  · obtain ⟨v, w, sees, -⟩ := rel
    refine .cut ⟨?_, v, sees⟩ _
    rw [frame]
    exact run.frame.on

/-- **A frame runs in the same way** on both sides. -/
theorem execute (echo : Echo L C n V) (left : Audience b h Sees) (right : Audience b' k Sees')
    (hc : Calls L C V Sees Sees' call call') (budget : Nat) :
    ∀ (budget' : Nat) (last : Option UInt32) (a a' : Activation) (s : σ) (t : τ),
      budget + n ≤ budget' → a.Echoes L a' → Rel V Sees Sees' s t → Stands a a' last →
      Runs L V Sees Sees' ((execute h call budget last).left a s)
        ((execute k call' budget' last).left a' t) := by
  induction budget with
  | zero =>
    rintro budget' last a a' s t - run ⟨v, w, sees, -⟩ -
    exact .cut ⟨run.frame.on, v, sees⟩ _
  | succ budget ih =>
    intro budget' last a a' s t enough run rel stands
    obtain ⟨budget', rfl⟩ : ∃ m, budget' = m + 1 := ⟨budget' - 1, by omega⟩
    have enough' : budget + n ≤ budget' := by omega
    by_cases same : a.frame.block = a'.frame.block
    · have unit : a'.frame.block.instrs[a'.next]? = a.frame.block.instrs[a.next]? := by
        rw [← same, run.next]
      cases found : a.frame.block.instrs[a.next]? with
      | none =>
        rw [found] at unit
        unfold Act.left
        rw [Machine.execute, Machine.execute, Act.out_bind, Act.out_bind, Act.out_get, Act.out_get]
        simp only [found, unit]
        exact .done ⟨⟨rfl, run.frame, fun yields => by cases yields⟩, rel⟩
      | some instr =>
        refine echo.round left right hc run rel found (unit.trans found) last ?_ ?_
        · intro a₁ a₁' done
          refine ⟨done.echoes, .inl ?_⟩
          rw [done.frame, done.frame']
          exact same
        · intro jumped a₁ a₁' x y done rel
          refine ih budget' _ a₁ a₁' x y enough' done.echoes rel (.inl ?_)
          rw [done.frame, done.frame']
          exact same
    · obtain ⟨copies, small⟩ := (echo.pair run.frame.pair).resolve_left same
      rcases stands with here | inside | ⟨behind, rfl, line, line'⟩
      · exact absurd here same
      · obtain ⟨found, found'⟩ := copies.units inside
        generalize unit : a.frame.block.body[a.next] = instr at found found'
        rw [← run.next] at found'
        have there : a.frame.block.body[a.next]? = some instr := by
          rw [List.getElem?_eq_getElem inside, unit]
        refine echo.round left right hc run rel found found' last ?_ ?_
        · intro a₁ a₁' done
          obtain ⟨yields, generates, stays⟩ := done.leads
          refine ⟨done.echoes, .inr ?_⟩
          rw [stays, done.frame]
          -- A generator does not suspend behind its body.
          refine Nat.lt_of_le_of_ne inside fun last : a.next + 1 = a.frame.block.body.length => ?_
          refine copies.paddable.goesOn generates instr ?_ yields
          rw [List.getLast?_eq_getElem?, ← last]
          exact there
        · intro jumped a₁ a₁' x y done rel
          have leads := done.leads
          refine ih budget' _ a₁ a₁' x y enough' done.echoes rel (.inr ?_)
          rw [done.frame, done.frame']
          cases jumped with
          | true =>
            obtain ⟨target, back, next⟩ := leads
            have low := copies.paddable.backward a.next inside target (by rw [there]; exact back)
            exact .inl (Nat.lt_of_le_of_lt (next ▸ low) inside)
          | false =>
            have next : a₁.next = a.next + 1 := leads
            rw [next]
            refine (Nat.lt_or_eq_of_le inside).imp id fun last => ⟨last, ?_⟩
            have line := Block.line_last inside last
            rw [unit] at line
            exact ⟨congrArg some line, line, line⟩
      · exact padding run rel copies small behind line line' enough

/-! ## Frames as a whole -/

/-- **A frame that is resumed does the same** on both sides. -/
theorem resume (echo : Echo L C n V) (left : Audience b h Sees) (right : Audience b' k Sees')
    (hc : Calls L C V Sees Sees' call call') {budget budget' : Nat} (enough : budget + n ≤ budget')
    (wait : a.Waits L a') (rel : Rel V Sees Sees' s t) :
    Echoed L (fun p => ∃ v, Sees p.2 v)
      (fun flow p flow' q => Ran L flow p.1 flow' q.1 ∧ Rel V Sees Sees' p.2 q.2)
      (fun p q => Rel V Sees Sees' p.2 q.2) ((resume h call budget).left a s)
      ((resume k call' budget').left a' t) := by
  obtain ⟨v, w, sees, sees', views⟩ := rel
  obtain ⟨frame, next, loops, started⟩ := wait.toEchoes
  obtain ⟨x, told, sees⟩ := left.enterFrame sees frame.on
  obtain ⟨y, told', sees'⟩ := right.enterFrame sees' frame.on'
  have ran := echo.execute left right hc budget budget' none { a with started := true }
    { a' with started := true } x y enough ⟨frame, next, loops, rfl⟩
    ⟨_, _, sees, sees', echo.enterFrame views frame⟩ (wait.inside.imp id .inl)
  unfold Act.left at ran ⊢
  unfold Machine.resume
  rw [Act.out_bind_ok told, Act.out_bind_ok told', Act.out_bind, Act.out_bind, Act.out_tryCatch,
    Act.out_tryCatch]
  rcases ho : (Machine.execute h call budget none).out { a with started := true } x with
    ⟨⟨o, a₁⟩, x₁⟩
  rcases ho' : (Machine.execute k call' budget' none).out { a' with started := true } y with
    ⟨⟨o', a₁'⟩, y₁⟩
  rw [ho, ho'] at ran
  simp only at ran ⊢
  cases ran with
  | cut lost =>
    obtain ⟨on, v, sees⟩ := lost
    obtain ⟨x₂, unwound, sees⟩ := left.unwind sees on .unfinished
    simp only [unwound]
    exact .cut ⟨_, sees⟩ _
  | @failed e e' _ _ same failed =>
    obtain ⟨frames, v, w, sees, sees', views⟩ := failed
    obtain ⟨x₂, unwound, sees⟩ := left.unwind sees frames.on e
    obtain ⟨y₂, unwound', sees'⟩ := right.unwind sees' frames.on' e'
    simp only [unwound, unwound']
    exact .failed same ⟨_, _, sees, sees', echo.unwind views frames⟩
  | @done flow _ flow' _ done =>
    obtain ⟨ran, v, w, sees, sees', views⟩ := done
    cases ran.outcome
    obtain ⟨x₂, left, sees⟩ := left.depart sees ran.frame.on flow
    obtain ⟨y₂, right, sees'⟩ := right.depart sees' ran.frame.on' flow
    simp only [Act.out_bind_ok left, Act.out_bind_ok right]
    exact .done ⟨ran, _, _, sees, sees', echo.depart views ran.frame flow⟩

/-- How a frame is left that was resumed within its scope. -/
abbrev Resumed (L : Block → Block → Prop) (V : View → View → Prop) (Sees : σ → View → Prop)
    (Sees' : τ → View → Prop) :
    Except ExecError (Flow × Activation) × σ → Except ExecError (Flow × Activation) × τ → Prop :=
  Echoed L (fun s => ∃ v, Sees s v)
    (fun f s f' t => Ran L f.1 f.2 f'.1 f'.2 ∧ Rel V Sees Sees' s t) (Rel V Sees Sees')

theorem resumeScoped (echo : Echo L C n V) (left : Audience b h Sees) (right : Audience b' k Sees')
    (hc : Calls L C V Sees Sees' call call') {budget budget' : Nat} (enough : budget + n ≤ budget')
    {r q : RoutineId} (both : C r q) (wait : a.Waits L a') (rel : Rel V Sees Sees' s t) :
    Resumed L V Sees Sees' ((resumeScoped h call budget r a).out s)
      ((resumeScoped k call' budget' q a').out t) := by
  obtain ⟨v, w, sees, sees', views⟩ := rel
  obtain ⟨x, entered, sees⟩ := left.enter sees r
  obtain ⟨y, entered', sees'⟩ := right.enter sees' q
  have resumed := echo.resume left right hc enough wait
    ⟨_, _, sees, sees', echo.enter views both⟩
  have leave : ∀ {x y}, Rel V Sees Sees' x y →
      Rel V Sees Sees' (h.leave r x).2 (k.leave q y).2 := by
    rintro x y ⟨v, w, sees, sees', views⟩
    exact ⟨_, _, left.leave sees r, right.leave sees' q, echo.leave views both⟩
  rw [out_resumeScoped, out_resumeScoped, entered, entered']
  unfold Act.left at resumed
  simp only
  rcases ho : (Machine.resume h call budget).out a x with ⟨⟨o, a₁⟩, x₁⟩
  rcases ho' : (Machine.resume k call' budget').out a' y with ⟨⟨o', a₁'⟩, y₁⟩
  rw [ho, ho'] at resumed
  simp only at resumed
  cases resumed with
  | cut lost =>
    obtain ⟨v, sees⟩ := lost
    exact .cut ⟨_, left.leave sees r⟩ _
  | failed same rel => exact .failed same (leave rel)
  | done done => exact .done ⟨done.1, leave done.2⟩

theorem drain (echo : Echo L C n V) (left : Audience b h Sees) (right : Audience b' k Sees')
    (hc : Calls L C V Sees Sees' call call') {budget budget' : Nat} (enough : budget + n ≤ budget')
    {r q : RoutineId} (both : C r q) (rounds : Nat) :
    ∀ (rounds' : Nat) (a a' : Activation) (s : σ) (t : τ), rounds ≤ rounds' → a.Waits L a' →
      Rel V Sees Sees' s t →
      Echoed L (fun s => ∃ v, Sees s v) (fun _ s _ t => Rel V Sees Sees' s t) (Rel V Sees Sees')
        ((drain h call budget r rounds a).out s) ((drain k call' budget' q rounds' a').out t) := by
  induction rounds with
  | zero =>
    rintro rounds' a a' s t - - ⟨v, w, sees, -⟩
    exact .cut ⟨v, sees⟩ _
  | succ rounds ih =>
    intro rounds' a a' s t more wait rel
    obtain ⟨rounds', rfl⟩ : ∃ m, rounds' = m + 1 := ⟨rounds' - 1, by omega⟩
    have resumed := echo.resumeScoped left right hc enough both wait rel
    rw [out_drain_succ, out_drain_succ]
    generalize (Machine.resumeScoped h call budget r a).out s = x at resumed ⊢
    generalize (Machine.resumeScoped k call' budget' q a').out t = y at resumed ⊢
    cases resumed with
    | cut lost =>
      obtain ⟨v, sees⟩ := lost
      exact .cut ⟨v, sees⟩ _
    | failed same rel => exact .failed same rel
    | @done f _ f' _ done =>
      obtain ⟨flow, a₁⟩ := f
      obtain ⟨flow', a₁'⟩ := f'
      obtain ⟨ran, rel⟩ := done
      cases ran.outcome
      cases flow with
      | returned => exact .done rel
      | yielded => exact ih rounds' a₁ a₁' _ _ (Nat.le_of_succ_le_succ more) (ran.waits rfl) rel

/-- A frame that was made waits at its first unit. -/
theorem fresh (echo : Echo L C n V) {b c : Block} (pair : L b c) (id id' : FrameId) :
    (fresh id b).Waits L (fresh id' c) := by
  refine ⟨⟨⟨pair, .inr ⟨rfl, rfl⟩, rfl, rfl⟩, rfl, rfl, rfl⟩, ?_⟩
  exact (echo.pair pair).imp (fun same => same) fun copies => copies.1.pos

/-- **Calls do the same** on both sides. -/
theorem invoke (echo : Echo L C n V) (left : Audience b h Sees) (right : Audience b' k Sees')
    {budget budget' : Nat} (enough : budget + n ≤ budget') (depth : Nat) :
    Calls L C V Sees Sees' (invoke h budget depth) (invoke k budget' depth) := by
  induction depth with
  | zero => exact fun _ _ _ _ _ rel => .failed (.same _) rel
  | succ depth ih =>
    rintro r q s t both ⟨v, w, sees, sees', views⟩
    rw [out_invoke_succ, out_invoke_succ, left.code sees, right.code sees']
    exact echo.drain left right ih enough both budget budget' _ _ _ _ (by omega)
      (echo.fresh (echo.code views both) _ _)
      ⟨_, _, (left.newFrame sees).2, (right.newFrame sees').2, echo.newFrame views⟩

/-- **A call from outside** has an echo. -/
theorem calls (echo : Echo L C n V) (left : Audience b h Sees) (right : Audience b' k Sees')
    {budget budget' : Nat} (enough : budget + n ≤ budget') :
    Calls L C V Sees Sees' (Machine.call h budget) (Machine.call k budget') :=
  echo.invoke left right enough maxDepth

/-- **A frame that is resumed from outside** has an echo. -/
theorem step (echo : Echo L C n V) (left : Audience b h Sees) (right : Audience b' k Sees')
    {budget budget' : Nat} (enough : budget + n ≤ budget') {r q : RoutineId} (both : C r q)
    (wait : a.Waits L a') (rel : Rel V Sees Sees' s t) :
    Resumed L V Sees Sees' ((Machine.step h budget r a).out s) ((Machine.step k budget' q a').out t) :=
  echo.resumeScoped left right (echo.invoke left right enough _) enough both wait rel

end Echo

end LineClock

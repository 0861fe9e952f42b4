import LineClock.Code.Block
import LineClock.Engine.Host
import LineClock.Proofs.Counter
import LineClock.Proofs.Machine.Journal

/-!
# Loops as they are written

A `Body` is written with loops that have a body each. Its `code` has units that open a loop, count it
down and jump back. Its `visits` are what it means: the units one after the other as they are run,
with the body of each loop as often as the loop says, and no counters. The machine carries out the
code of a body by the visits of the body.

Main statements: `Body.labour_visits` and `Body.carries`.
-/

namespace LineClock.Machine

/-! ## Bodies -/

/-- A body of plain units and loops, nested in any way; every unit stands on a line of its own. -/
inductive Body where
  | done
  | nop (line : UInt32) (rest : Body)
  | work (line : UInt32) (n : UInt8) (rest : Body)
  /-- A loop: the line of the unit that opens it, how often its body runs, that body, the line of the
  unit that ends it. -/
  | loop (head : UInt32) (n : UInt8) (inner : Body) (foot : UInt32) (rest : Body)
  deriving DecidableEq, Repr

namespace Body

/-- How many units a body has. -/
def size : Body → Nat
  | done => 0
  | nop _ rest | work _ _ rest => rest.size + 1
  | loop _ _ inner _ rest => inner.size + rest.size + 2

/-- The units of a body that begins at an offset. A loop ends with a jump to the unit after its
first one. -/
def code (start : Nat) : Body → List Instr
  | done => []
  | nop line rest => ⟨line, .nop⟩ :: rest.code (start + 1)
  | work line n rest => ⟨line, .work n⟩ :: rest.code (start + 1)
  | loop head n inner foot rest =>
    ⟨head, .loopStart n⟩ :: (inner.code (start + 1) ++
      ⟨foot, .loopEnd (oneByte (start + 1))⟩ :: rest.code (start + inner.size + 2))

/-- The jumps of a body that begins at an offset go to units whose index is one byte. -/
def Fits (start : Nat) : Body → Prop
  | done => True
  | nop _ rest | work _ _ rest => rest.Fits (start + 1)
  | loop _ _ inner _ rest =>
    start + 1 ≤ 255 ∧ inner.Fits (start + 1) ∧ rest.Fits (start + inner.size + 2)

/-- The work in a body, that in a loop as often as its body runs. -/
def labour : Body → Nat
  | done => 0
  | nop _ rest => rest.labour
  | work _ n rest => n.toNat + rest.labour
  | loop _ n inner _ rest => max 1 n.toNat * inner.labour + rest.labour

@[simp] theorem length_code (body : Body) (start : Nat) : (body.code start).length = body.size := by
  induction body generalizing start with
  | done => rfl
  | nop line rest ih => simp [code, size, ih]
  | work line n rest ih => simp [code, size, ih]
  | loop head n inner foot rest ihInner ihRest =>
    simp [code, size, ihInner, ihRest]
    omega

end Body

/-! ## Visits -/

/-- A unit that is run. -/
structure Visit where
  offset : Nat
  instr : Instr
  /-- Whether it is reached by a jump back. -/
  back : Bool := false
  deriving DecidableEq, Repr

/-- Visits whose first is reached by a jump back. -/
def reached : List Visit → List Visit
  | [] => []
  | v :: rest => { v with back := true } :: rest

/-- A turn `n` times, from the second on reached by a jump back. -/
def turns (n : Nat) (turn : List Visit) : List Visit :=
  turn ++ (List.replicate (n - 1) (reached turn)).flatten

/-- A turn of a loop: the visits of its body and the unit `j` that ends it. -/
def turnOf (vs : List Visit) (j : Nat) (foot : UInt32) (target : UInt8) : List Visit :=
  vs ++ [⟨j, ⟨foot, .loopEnd target⟩, false⟩]

/-- The visits of a body that begins at an offset: the body of a loop with the unit that ends it runs
as often as the loop says, and once where it says zero. -/
def Body.visits (start : Nat) : Body → List Visit
  | done => []
  | nop line rest => ⟨start, ⟨line, .nop⟩, false⟩ :: rest.visits (start + 1)
  | work line n rest => ⟨start, ⟨line, .work n⟩, false⟩ :: rest.visits (start + 1)
  | loop head n inner foot rest =>
    ⟨start, ⟨head, .loopStart n⟩, false⟩ ::
      (turns (max 1 n.toNat)
          (turnOf (inner.visits (start + 1)) (start + inner.size + 1) foot (oneByte (start + 1))) ++
        rest.visits (start + inner.size + 2))

/-- The line of the last of some visits, `last` if there are none. -/
def lineAfter (last : Option UInt32) (vs : List Visit) : Option UInt32 :=
  vs.foldl (fun _ v => some v.instr.line) last

/-- What the machine does in a visit of a frame, after a unit on the line `last`: it announces the
line if that is another one, or if the unit is reached by a jump back; and it works. -/
def Visit.doings (frame : Frame) (last : Option UInt32) (v : Visit) : List Doing :=
  (if v.back = true ∨ last ≠ some v.instr.line then
    [.trace { frame with offset := v.offset, line := v.instr.line, suspended := false } .line,
      .monitor ⟨.line, frame.block, v.offset, v.instr.line⟩]
  else []) ++
  match v.instr.op with
  | .work n => [.work n]
  | _ => []

/-- What the machine does in visits one after the other. -/
def doingsOf (frame : Frame) : Option UInt32 → List Visit → List Doing
  | _, [] => []
  | last, v :: rest => v.doings frame last ++ doingsOf frame (some v.instr.line) rest

/-- The units of work in what the machine does. -/
def spent (ds : List Doing) : Nat :=
  (ds.map fun d => match d with
    | .work n => n.toNat
    | _ => 0).sum

/-- The units of work in a visit. -/
def Visit.labour (v : Visit) : Nat :=
  match v.instr.op with
  | .work n => n.toNat
  | _ => 0

section

variable {frame : Frame} {last : Option UInt32} {vs ws : List Visit}

theorem lineAfter_append : lineAfter last (vs ++ ws) = lineAfter (lineAfter last vs) ws := by
  simp [lineAfter, List.foldl_append]

theorem doingsOf_append : doingsOf frame last (vs ++ ws) =
    doingsOf frame last vs ++ doingsOf frame (lineAfter last vs) ws := by
  induction vs generalizing last with
  | nil => rfl
  | cons v vs ih => simp [doingsOf, ih, lineAfter]

/-- After a jump back it does not matter which line came before. -/
theorem doingsOf_reached : doingsOf frame last (reached vs) = doingsOf frame none vs := by
  cases vs with
  | nil => rfl
  | cons v vs => simp [reached, doingsOf, Visit.doings]

/-- A turn, and then the others. -/
theorem turns_succ (n : Nat) (some : vs ≠ []) :
    turns (n + 2) vs = vs ++ reached (turns (n + 1) vs) := by
  cases vs with
  | nil => exact absurd rfl some
  | cons v vs => simp [turns, reached, List.replicate_succ]

theorem lineAfter_reached : lineAfter last (reached vs) = lineAfter last vs := by
  cases vs <;> rfl

/-- Whatever comes in the turns of a loop, the unit that ends it comes last. -/
theorem lineAfter_turns (n : Nat) (j : Nat) (foot : UInt32) (target : UInt8) :
    lineAfter last (turns (n + 1) (turnOf vs j foot target)) = some foot := by
  induction n generalizing last with
  | zero => simp [turns, turnOf, lineAfter]
  | succ n ih => rw [turns_succ n (by simp [turnOf]), lineAfter_append, lineAfter_reached, ih]

theorem length_reached : (reached vs).length = vs.length := by
  cases vs <;> rfl

@[simp] theorem spent_append (ds es : List Doing) : spent (ds ++ es) = spent ds + spent es := by
  simp [spent]

theorem spent_doings (v : Visit) : spent (v.doings frame last) = v.labour := by
  unfold Visit.doings Visit.labour
  rw [spent_append]
  have announcing : ∀ p : Prop, [Decidable p] → ∀ f m,
      spent (if p then [.trace f .line, .monitor m] else []) = 0 := by
    intro p _ f m
    split <;> rfl
  rw [announcing, Nat.zero_add]
  cases v.instr.op <;> simp [spent]

theorem spent_doingsOf : spent (doingsOf frame last vs) = (vs.map Visit.labour).sum := by
  induction vs generalizing last with
  | nil => rfl
  | cons v vs ih => simp [doingsOf, spent_doings, ih]

theorem labour_turns (n : Nat) :
    ((turns (n + 1) vs).map Visit.labour).sum = (n + 1) * (vs.map Visit.labour).sum := by
  have back : (reached vs).map Visit.labour = vs.map Visit.labour := by
    cases vs <;> rfl
  have others : ((List.replicate n (reached vs)).flatten.map Visit.labour).sum =
      n * (vs.map Visit.labour).sum := by
    induction n with
    | zero => simp
    | succ n ih => rw [List.replicate_succ, List.flatten_cons, List.map_append, List.sum_append, ih,
        back, Nat.succ_mul, Nat.add_comm]
  rw [turns, List.map_append, List.sum_append, Nat.add_sub_cancel, others, Nat.succ_mul, Nat.add_comm]

end

/-- **The work in the visits** of a body is the work that is written there, in each loop as often as
its body runs. -/
theorem Body.labour_visits (body : Body) (start : Nat) :
    ((body.visits start).map Visit.labour).sum = body.labour := by
  induction body generalizing start with
  | done => rfl
  | nop line rest ih => simp [visits, labour, Visit.labour, ih]
  | work line n rest ih => simp [visits, labour, Visit.labour, ih]
  | loop head n inner foot rest ihInner ihRest =>
    obtain ⟨m, some⟩ : ∃ m, max 1 n.toNat = m + 1 := ⟨max 1 n.toNat - 1, by omega⟩
    simp only [visits, labour, some, turnOf, List.map_cons, List.map_append, List.sum_cons,
      List.sum_append, labour_turns, ihInner, ihRest]
    simp [Visit.labour]

/-! ## The machine -/

/-- Surroundings in which, as long as `P` holds, no hook fails at a line, switches off line events or
moves the clock. -/
structure Placid {σ : Type} (s : Scripts σ) (P : σ → Prop) : Prop where
  put : ∀ x e, s.engine (s.withEngine x e) = e
  trace : ∀ {x}, P x → ∀ frame, frame.linesOn = true →
    ∃ x', answer (s.host.trace frame .line) x = (.ok true, x') ∧ P x' ∧
      (s.engine x').clock = (s.engine x).clock
  monitor : ∀ {x}, P x → ∀ event, event.kind = .line →
    ∃ x', answer (s.host.monitor event) x = (.ok (), x') ∧ P x' ∧
      (s.engine x').clock = (s.engine x).clock
  work : ∀ {x}, P x → ∀ n, P (s.host.work n x).2

variable {σ : Type} {s : Scripts σ} {P : σ → Prop}

/-- The clock of a state, as a number. -/
def ticksAt (s : Scripts σ) (x : Journal σ) : Nat := (s.engine x.state).clock.toNat

/-- The machine has done `ds` since `x`, and the clock moved by the work in that only. -/
structure Did (s : Scripts σ) (P : σ → Prop) (x : Journal σ) (ds : List Doing) (y : Journal σ) :
    Prop where
  doings : y.doings = x.doings ++ ds
  holds : P y.state
  clock : ticksAt s y = min (ticksAt s x + 1000 * spent ds) (2 ^ 64 - 1)

namespace Did

variable {x y z : Journal σ} {ds es : List Doing}

theorem ticks_le (s : Scripts σ) (x : Journal σ) : ticksAt s x ≤ 2 ^ 64 - 1 := by
  have := (s.engine x.state).clock.toNat_lt
  unfold ticksAt
  omega

theorem refl (holds : P x.state) : Did s P x [] x := by
  have := ticks_le s x
  refine ⟨by simp, holds, ?_⟩
  simp only [spent, List.map_nil, List.sum_nil]
  omega

theorem trans (h : Did s P x ds y) (h' : Did s P y es z) : Did s P x (ds ++ es) z := by
  refine ⟨by rw [h'.doings, h.doings, List.append_assoc], h'.holds, ?_⟩
  rw [h'.clock, h.clock, spent_append]
  omega

end Did

/-- Work moves the clock by its ticks. -/
theorem Placid.work_ticks (placid : Placid s P) {x : Journal σ} (holds : P x.state) (n : UInt8) :
    Did s P x [.work n] (s.host.noted.work n x).2 := by
  refine ⟨rfl, placid.work holds n, ?_⟩
  have moved : ticksAt s (s.host.noted.work n x).2 =
      ((s.engine x.state).clock.satAdd (n.toUInt64 * Scripts.ticksPerUnit)).toNat :=
    congrArg (fun e : Engine => e.clock.toNat) (placid.put _ _)
  have ticks : (n.toUInt64 * Scripts.ticksPerUnit).toNat = 1000 * n.toNat := by
    have small := n.toNat_lt
    rw [UInt64.toNat_mul, UInt8.toNat_toUInt64, show Scripts.ticksPerUnit.toNat = 1000 from rfl,
      Nat.mod_eq_of_lt (by omega), Nat.mul_comm]
  rw [moved, Counter.toNat_satAdd, ticks]
  simp [spent, ticksAt]

/-- An announced line is noted twice. -/
theorem Placid.startLine (placid : Placid s P) {a : Activation} {x : Journal σ} (holds : P x.state)
    (on : a.frame.linesOn = true) :
    ∃ y, (Machine.startLine s.host.noted).out a x = ((.ok (), a), y) ∧
      Did s P x [.trace { a.frame with suspended := false } .line,
        .monitor ⟨.line, a.frame.block, a.frame.offset, a.frame.line⟩] y := by
  obtain ⟨x₁, told, holds₁, clock₁⟩ := placid.trace holds { a.frame with suspended := false } on
  obtain ⟨x₂, heard, holds₂, clock₂⟩ :=
    placid.monitor holds₁ ⟨.line, a.frame.block, a.frame.offset, a.frame.line⟩ rfl
  refine ⟨⟨x₂, _⟩, ?_, rfl, holds₂, ?_⟩
  · have first := answer_noted_trace s.host x { a.frame with suspended := false } .line
    rw [told] at first
    have second := answer_noted_monitor s.host
      ⟨x₁, x.doings ++ [.trace { a.frame with suspended := false } .line]⟩
      ⟨.line, a.frame.block, a.frame.offset, a.frame.line⟩
    rw [heard] at second
    unfold Machine.startLine
    rw [Act.out_bind_ok (out_signal on first), out_notify second, List.append_assoc]
    rfl
  · have := Did.ticks_le s x
    have still : (s.engine x₂).clock.toNat = ticksAt s x := by rw [clock₂, clock₁]; rfl
    simp only [ticksAt, still, spent, List.map_cons, List.map_nil, List.sum_cons, List.sum_nil]
    simp only [ticksAt] at this
    omega

/-- An activation elsewhere: the unit that was run last and its line, the unit that comes next and the
open loops. -/
def elsewhere (a : Activation) (offset : Nat) (line : UInt32) (next : Nat) (loops : List Nat) :
    Activation :=
  { a with frame := { a.frame with offset, line }, next, loops }

/-- From `a` and `x` the machine carries out `n` units, in which it does `ds`, and comes to `b` and
`y`. Before and after that the line of the last unit is `last` and `last'`, if it matters. -/
structure Passes (s : Scripts σ) (P : σ → Prop) (call : RoutineId → Exec (Journal σ) Unit) (n : Nat)
    (ds : List Doing) (last last' : Option UInt32) (a : Activation) (x : Journal σ) (b : Activation)
    (y : Journal σ) : Prop where
  did : Did s P x ds y
  out : ∀ budget, (execute s.host.noted call (budget + n) last).out a x =
    (execute s.host.noted call budget last').out b y

namespace Passes

variable {call : RoutineId → Exec (Journal σ) Unit} {n m : Nat} {ds es : List Doing}
  {last mid last' : Option UInt32} {a b c : Activation} {x y z : Journal σ}

theorem refl (holds : P x.state) : Passes s P call 0 [] last last a x a x :=
  ⟨Did.refl holds, fun _ => rfl⟩

theorem trans (h : Passes s P call n ds last mid a x b y) (h' : Passes s P call m es mid last' b y c z) :
    Passes s P call (n + m) (ds ++ es) last last' a x c z := by
  refine ⟨h.did.trans h'.did, fun budget => ?_⟩
  rw [← h'.out budget, ← h.out, Nat.add_assoc, Nat.add_comm m n]

end Passes

/-- What a unit that hands control nowhere else does to the activation in which it stands, and whether
it jumps back. -/
def settle (op : Op) (a : Activation) : Activation × Bool :=
  match op with
  | .loopStart n => ({ a with loops := n.toNat :: a.loops }, false)
  | .loopEnd target => endLoop target a
  | _ => (a, false)

/-- A unit that only works or counts. -/
def Plain : Op → Prop
  | .nop | .work _ | .loopStart _ | .loopEnd _ => True
  | _ => False

variable {call : RoutineId → Exec (Journal σ) Unit} {a : Activation} {x : Journal σ}
  {last : Option UInt32} {instr : Instr}

variable (call) in
theorem Placid.perform (placid : Placid s P) (holds : P x.state) (plain : Plain instr.op) :
    ∃ y, (perform s.host.noted call instr).out a x =
        ((.ok (.goOn (settle instr.op a).2), (settle instr.op a).1), y) ∧
      Did s P x (match instr.op with
        | .work n => [.work n]
        | _ => []) y := by
  obtain ⟨line, op⟩ := instr
  cases op with
  | nop | loopStart | loopEnd => exact ⟨x, rfl, Did.refl holds⟩
  | work n => exact ⟨_, rfl, placid.work_ticks holds n⟩
  | call | yield | raise | ret => exact plain.elim

/-- **One unit** that only works or counts. -/
theorem Placid.passes (placid : Placid s P) (holds : P x.state) (on : a.frame.linesOn = true)
    (here : a.frame.block.instrs[a.next]? = some instr) (plain : Plain instr.op) :
    let settled := settle instr.op (elsewhere a a.next instr.line (a.next + 1) a.loops)
    ∃ y, Passes s P call 1 (Visit.doings a.frame last ⟨a.next, instr, false⟩) last
      (if settled.2 then none else some instr.line) a x settled.1 y := by
  intro settled
  let stood : Activation := { a with frame := { a.frame with offset := a.next, line := instr.line } }
  -- What is left of the unit is the same whether its line is announced or not.
  have rest : ∀ x₁, P x₁.state → ∃ y, Did s P x₁ (match instr.op with
        | .work n => [.work n]
        | _ => []) y ∧ ∀ budget, (proceed s.host.noted call budget instr).out stood x₁ =
      (execute s.host.noted call budget (if settled.2 then none else some instr.line)).out settled.1 y := by
    intro x₁ holds₁
    obtain ⟨y, performed, did⟩ := placid.perform call
      (a := elsewhere a a.next instr.line (a.next + 1) a.loops) holds₁ plain
    refine ⟨y, did, fun budget => ?_⟩
    unfold proceed
    rw [Act.out_bind, Act.out_modify]
    simp only
    exact Act.out_bind_ok performed _
  by_cases again : last = some instr.line
  · obtain ⟨y, did, out⟩ := rest x holds
    refine ⟨y, by simpa [Visit.doings, again] using did, fun budget => ?_⟩
    rw [← out budget, execute, Act.out_bind, Act.out_get]
    simp only [here, again, ne_eq, not_true_eq_false, if_false]
    rfl
  · obtain ⟨x₁, started, did₁⟩ := placid.startLine (a := stood) holds on
    obtain ⟨y, did, out⟩ := rest x₁ did₁.holds
    refine ⟨y, by simpa [Visit.doings, again] using did₁.trans did, fun budget => ?_⟩
    rw [← out budget, execute, Act.out_bind, Act.out_get]
    simp only [here, again, ne_eq, not_false_eq_true, if_true]
    exact Act.out_bind_ok started _

/-- An activation of a block before the unit `next`, line events on, in a state that satisfies `P`. -/
structure Stands (P : σ → Prop) (block : Block) (next : Nat) (a : Activation) (x : Journal σ) : Prop where
  block : a.frame.block = block
  next : a.next = next
  on : a.frame.linesOn = true
  holds : P x.state

/-- From the unit `i` of a block the machine carries out visits, comes to the unit `j` and leaves the
open loops as they were. -/
def Carries (s : Scripts σ) (P : σ → Prop) (call : RoutineId → Exec (Journal σ) Unit) (block : Block)
    (i : Nat) (vs : List Visit) (j : Nat) : Prop :=
  ∀ a x last, Stands P block i a x → ∃ offset line y,
    Passes s P call vs.length (doingsOf a.frame last vs) last (lineAfter last vs) a x
      (elsewhere a offset line j a.loops) y

theorem doingsOf_elsewhere (a : Activation) (offset : Nat) (line : UInt32) (next : Nat)
    (loops : List Nat) (last : Option UInt32) (vs : List Visit) :
    doingsOf (elsewhere a offset line next loops).frame last vs = doingsOf a.frame last vs := by
  induction vs generalizing last with
  | nil => rfl
  | cons v vs ih => simp only [doingsOf, ih]; rfl

variable {block : Block} {i j k : Nat} {vs ws : List Visit}

namespace Stands

theorem elsewhere (h : Stands P block i a x) (offset : Nat) (line : UInt32) (next : Nat)
    (loops : List Nat) {y : Journal σ} (holds : P y.state) :
    Stands P block next (elsewhere a offset line next loops) y :=
  ⟨h.block, rfl, h.on, holds⟩

variable (call) in
/-- **One unit** from a place. -/
theorem passes (h : Stands P block i a x) (placid : Placid s P) (here : block.instrs[i]? = some instr)
    (plain : Plain instr.op) (last : Option UInt32) :
    let settled := settle instr.op (Machine.elsewhere a i instr.line (i + 1) a.loops)
    ∃ y, Passes s P call 1 (Visit.doings a.frame last ⟨i, instr, false⟩) last
      (if settled.2 then none else some instr.line) a x settled.1 y := by
  obtain ⟨rfl, rfl, on, holds⟩ := h
  exact placid.passes holds on here plain

end Stands

namespace Carries

theorem nil (i : Nat) : Carries s P call block i [] i := by
  intro a x last stands
  have same : Machine.elsewhere a a.frame.offset a.frame.line i a.loops = a := by
    rw [← stands.next]
    rfl
  exact ⟨a.frame.offset, a.frame.line, x, by rw [same]; exact Passes.refl stands.holds⟩

theorem append (first : Carries s P call block i vs j) (rest : Carries s P call block j ws k) :
    Carries s P call block i (vs ++ ws) k := by
  intro a x last stands
  obtain ⟨offset, line, y, passes⟩ := first a x last stands
  obtain ⟨offset', line', z, passes'⟩ := rest _ y (lineAfter last vs)
    (stands.elsewhere offset line j a.loops passes.did.holds)
  rw [doingsOf_elsewhere] at passes'
  refine ⟨offset', line', z, ?_⟩
  rw [List.length_append, doingsOf_append, lineAfter_append]
  exact passes.trans passes'

/-- A unit that does not count. -/
theorem unit (placid : Placid s P) (here : block.instrs[i]? = some instr)
    (uncounted : instr.op = .nop ∨ ∃ n, instr.op = .work n) :
    Carries s P call block i [⟨i, instr, false⟩] (i + 1) := by
  intro a x last stands
  obtain ⟨line, op⟩ := instr
  have stays : ∃ y, Passes s P call 1 (Visit.doings a.frame last ⟨i, ⟨line, op⟩, false⟩) last
      (some line) a x (elsewhere a i line (i + 1) a.loops) y := by
    obtain rfl | ⟨n, rfl⟩ := uncounted
    · exact stands.passes call placid here trivial last
    · exact stands.passes call placid here trivial last
  obtain ⟨y, passes⟩ := stays
  exact ⟨i, line, y, by simpa [doingsOf, lineAfter] using passes⟩

end Carries

section

variable {foot : UInt32} {target : UInt8} {outer : List Nat}

/-- **One turn** of a loop counts it down: there is another one if the counter was above one. -/
theorem Carries.turn (placid : Placid s P) (inner : Carries s P call block i vs j)
    (end_ : block.instrs[j]? = some ⟨foot, .loopEnd target⟩) (stands : Stands P block i a x)
    {counter : Nat} (loops : a.loops = counter :: outer) (last : Option UInt32) :
    ∃ y, Passes s P call (vs.length + 1) (doingsOf a.frame last (turnOf vs j foot target)) last
      (if 0 < counter - 1 then none else some foot) a x
      (if 0 < counter - 1 then elsewhere a j foot target.toNat ((counter - 1) :: outer)
        else elsewhere a j foot (j + 1) outer) y := by
  obtain ⟨offset, line, y, passes⟩ := inner a x last stands
  obtain ⟨z, passes'⟩ := (stands.elsewhere offset line j a.loops passes.did.holds).passes call
    placid end_ trivial (lineAfter last vs)
  have both := passes.trans passes'
  refine ⟨z, ?_⟩
  have told : doingsOf a.frame last (turnOf vs j foot target) = doingsOf a.frame last vs ++
      Visit.doings a.frame (lineAfter last vs) ⟨j, ⟨foot, .loopEnd target⟩, false⟩ := by
    simp [turnOf, doingsOf_append, doingsOf]
  rw [told]
  by_cases again : 0 < counter - 1
  · simpa [settle, endLoop, elsewhere, loops, again, Visit.doings] using both
  · simpa [settle, endLoop, elsewhere, loops, again, Visit.doings] using both

/-- **All turns** of a loop: by induction on how many are to come after the first. -/
theorem Carries.turns (placid : Placid s P) (inner : Carries s P call block target.toNat vs j)
    (end_ : block.instrs[j]? = some ⟨foot, .loopEnd target⟩) (more : Nat) :
    ∀ {a x} {counter : Nat}, counter - 1 = more → Stands P block target.toNat a x →
      a.loops = counter :: outer → ∀ last, ∃ y,
        Passes s P call (Machine.turns (more + 1) (turnOf vs j foot target)).length
          (doingsOf a.frame last (Machine.turns (more + 1) (turnOf vs j foot target))) last
          (some foot) a x (elsewhere a j foot (j + 1) outer) y := by
  induction more with
  | zero =>
    intro a x counter only stands loops last
    obtain ⟨y, passes⟩ := inner.turn placid end_ stands loops last
    simp only [only, Nat.lt_irrefl, if_false] at passes
    exact ⟨y, by simpa [Machine.turns, turnOf] using passes⟩
  | succ more ih =>
    intro a x counter several stands loops last
    obtain ⟨y, passes⟩ := inner.turn placid end_ stands loops last
    simp only [several, Nat.zero_lt_succ, if_true] at passes
    -- The jump back makes the machine forget the line, hence `none` for the turns to come.
    obtain ⟨z, passes'⟩ := ih rfl
      (stands.elsewhere j foot target.toNat ((more + 1) :: outer) passes.did.holds) rfl none
    rw [doingsOf_elsewhere] at passes'
    refine ⟨z, ?_⟩
    rw [turns_succ more (by simp [turnOf]), doingsOf_append, doingsOf_reached, List.length_append,
      length_reached]
    have size : (turnOf vs j foot target).length = vs.length + 1 := by simp [turnOf]
    rw [size]
    exact passes.trans passes'

/-- **A whole loop**, with the unit that opens it. -/
theorem Carries.loop (placid : Placid s P) {head : UInt32} {n : UInt8}
    (begin_ : block.instrs[i]? = some ⟨head, .loopStart n⟩) (back : target.toNat = i + 1)
    (inner : Carries s P call block (i + 1) vs j)
    (end_ : block.instrs[j]? = some ⟨foot, .loopEnd target⟩) :
    Carries s P call block i
      (⟨i, ⟨head, .loopStart n⟩, false⟩ :: Machine.turns (max 1 n.toNat) (turnOf vs j foot target))
      (j + 1) := by
  intro a x last stands
  obtain ⟨y, passes⟩ := stands.passes call placid begin_ trivial last
  obtain ⟨more, times⟩ : ∃ more, max 1 n.toNat = more + 1 := ⟨max 1 n.toNat - 1, by omega⟩
  have opened := stands.elsewhere i head (i + 1) (n.toNat :: a.loops) passes.did.holds
  rw [← back] at inner opened
  obtain ⟨z, passes'⟩ := Carries.turns placid inner end_ more (by omega) opened rfl (some head)
  rw [doingsOf_elsewhere] at passes'
  refine ⟨j, foot, z, ?_⟩
  have line : lineAfter last (⟨i, ⟨head, .loopStart n⟩, false⟩ ::
      Machine.turns (more + 1) (turnOf vs j foot target)) = some foot := by
    rw [lineAfter, List.foldl_cons]
    exact lineAfter_turns more j foot target
  rw [times, line, List.length_cons, Nat.add_comm, doingsOf]
  rw [back] at passes'
  exact passes.trans passes'

end

/-- A list that begins a longer one, from its first element on. -/
theorem prefix_drop_cons {α : Type} {l : List α} {i : Nat} {u : α} {rest : List α}
    (h : u :: rest <+: l.drop i) : l[i]? = some u ∧ rest <+: l.drop (i + 1) := by
  obtain ⟨tail, same⟩ := h
  constructor
  · rw [← List.head?_drop, ← same]
    rfl
  · rw [← List.tail_drop, ← same]
    exact ⟨tail, rfl⟩

/-- From some elements on. -/
theorem prefix_drop_append {α : Type} {l : List α} {i : Nat} {first rest : List α}
    (h : first ++ rest <+: l.drop i) : first <+: l.drop i ∧ rest <+: l.drop (i + first.length) := by
  obtain ⟨tail, same⟩ := h
  constructor
  · exact ⟨rest ++ tail, by rw [← List.append_assoc, same]⟩
  · rw [← List.drop_drop, ← same, List.append_assoc, List.drop_left]
    exact ⟨tail, rfl⟩

/-- **The machine carries out a body** wherever it stands in a block: one case for each kind of unit,
the turns of a loop by those of its body. -/
theorem Body.carries (placid : Placid s P) (call : RoutineId → Exec (Journal σ) Unit) (block : Block)
    (body : Body) : ∀ start, body.Fits start → body.code start <+: block.instrs.drop start →
      Carries s P call block start (body.visits start) (start + body.size) := by
  induction body with
  | done => exact fun start _ _ => .nil start
  | nop line rest ih =>
    intro start fits here
    obtain ⟨first, here⟩ := prefix_drop_cons here
    have after := ih (start + 1) fits here
    rw [show start + (Body.nop line rest).size = start + 1 + rest.size by simp [size]; omega]
    exact (Carries.unit placid first (.inl rfl)).append after
  | work line n rest ih =>
    intro start fits here
    obtain ⟨first, here⟩ := prefix_drop_cons here
    have after := ih (start + 1) fits here
    rw [show start + (Body.work line n rest).size = start + 1 + rest.size by simp [size]; omega]
    exact (Carries.unit placid first (.inr ⟨n, rfl⟩)).append after
  | loop head n inner foot rest ihInner ihRest =>
    rintro start ⟨byte, fitsInner, fitsRest⟩ here
    obtain ⟨begin_, here⟩ := prefix_drop_cons here
    obtain ⟨hereInner, here⟩ := prefix_drop_append here
    rw [length_code] at here
    obtain ⟨end_, hereRest⟩ := prefix_drop_cons here
    -- A target is one byte: beyond that the loop would jump to another unit.
    have back : (oneByte (start + 1)).toNat = start + 1 := by
      rw [oneByte, if_pos (by omega)]
      exact UInt8.toNat_ofNat_of_lt' (by simp only [UInt8.size]; omega)
    have turns := Carries.loop placid begin_ back (ihInner (start + 1) fitsInner hereInner) end_
    rw [show start + 1 + inner.size + 1 = start + inner.size + 2 by omega] at hereRest
    have after := ihRest (start + inner.size + 2) fitsRest hereRest
    rw [show start + (Body.loop head n inner foot rest).size =
      start + inner.size + 2 + rest.size by simp [size]; omega]
    rw [show start + 1 + inner.size + 1 = start + inner.size + 2 by omega] at turns
    have whole := turns.append after
    rw [show start + 1 + inner.size = start + inner.size + 1 by omega] at whole
    exact whole

end LineClock.Machine

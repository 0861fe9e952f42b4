import LineClock.Engine.Host
import LineClock.Proofs.Machine.Journal

/-!
# Bracketed trace events

The trace events of a run are nested like brackets: a frame is entered and left, and what happens in
between comes from the innermost frame that is open. An exception is followed by the end of its frame
at once. A run that ends in an error ends with the exceptions of all frames that are open then, from
the innermost one on.

Main statements: `Mild.call_bracketed` and `Mild.step_bracketed`.
-/

namespace LineClock.Machine

/-! ## Brackets -/

/-- The trace events among what the machine does. -/
def streamOf (ds : List Doing) : List (Frame × TraceEvent) :=
  ds.filterMap fun d => match d with
    | .trace frame event => some (frame, event)
    | _ => none

/-- The trace events that are noted in a journal. -/
def Journal.stream {σ : Type} (x : Journal σ) : List (Frame × TraceEvent) := streamOf x.doings

/-- Events that lead from the open frames `live`, innermost first, to others. -/
inductive Brackets : List FrameId → List (Frame × TraceEvent) → List FrameId → Prop where
  | done {live} : Brackets live [] live
  /-- A frame is entered that is not open. -/
  | call {f live es live'} (new : f.id ∉ live) (rest : Brackets (f.id :: live) es live') :
    Brackets live ((f, .call) :: es) live'
  /-- A line starts in the innermost frame. -/
  | line {f live es live'} (rest : Brackets (f.id :: live) es live') :
    Brackets (f.id :: live) ((f, .line) :: es) live'
  /-- The innermost frame is left. -/
  | ret {f live es live'} (rest : Brackets live es live') :
    Brackets (f.id :: live) ((f, .ret) :: es) live'
  /-- An exception ends the innermost frame. -/
  | fails {f live es live'} (rest : Brackets live es live') :
    Brackets (f.id :: live) ((f, .exception) :: (f, .ret) :: es) live'

/-- The events with which an error ends frames, the innermost first. -/
def unwinding (frames : List Frame) : List (Frame × TraceEvent) :=
  frames.flatMap fun f => [(f, .exception), (f, .ret)]

/-- Events among which there is no exception. -/
def Smooth (es : List (Frame × TraceEvent)) : Prop := ∀ e ∈ es, e.2 ≠ .exception

/-- An error has come up in a frame, in the unit where that stands. -/
def Raises (f : Frame) : ExecError → Prop
  | .raised name line =>
    name = f.block.name ∧ line = f.line ∧ f.block.instrs[f.offset]? = some ⟨f.line, .raise⟩
  | .badCallee name index =>
    name = f.block.name ∧ f.block.instrs[f.offset]? = some ⟨f.line, .call index⟩ ∧
      f.block.callees[index.toNat]? = none
  | .recursionLimit n =>
    n = maxDepth ∧ ∃ index callee, f.block.instrs[f.offset]? = some ⟨f.line, .call index⟩ ∧
      f.block.callees[index.toNat]? = some callee
  | .hook _ | .unfinished => True

/-- An error that may come up while no frame is open: a hook failed, or there are no turns left. -/
def Outside : ExecError → Prop
  | .hook _ | .unfinished => True
  | _ => False

/-- What comes up outside may come up in any unit. -/
theorem Outside.raises {e : ExecError} (h : Outside e) (f : Frame) : Raises f e := by
  cases e with
  | hook | unfinished => trivial
  | raised | badCallee | recursionLimit => exact h.elim

/-- The events `es` of steps with an outcome, while the frames `live` are open. Steps that end well
leave them open. An error was raised in the innermost of the frames that were open then and ended
those that had been entered since; if there were none, it satisfies `here`. -/
def Orderly {α : Type} (live : List FrameId) (es : List (Frame × TraceEvent)) (here : ExecError → Prop) :
    Except ExecError α → Prop
  | .ok _ => Smooth es ∧ Brackets live es live
  | .error e => ∃ before frames, es = before ++ unwinding frames ∧ Smooth before ∧
      Brackets live before (frames.map Frame.id ++ live) ∧
      match frames with
      | [] => here e
      | f :: _ => Raises f e

/-- The events of a whole run with an outcome. -/
structure WellBracketed {α : Type} (es : List (Frame × TraceEvent)) (outcome : Except ExecError α) :
    Prop where
  nested : Brackets [] es []
  smooth : ∀ v, outcome = .ok v → Smooth es
  /-- Each frame that is open when an error comes up has one exception and its end, the innermost frame
  first; the error is the one that came up there. -/
  unwound : ∀ e, outcome = .error e → ∃ before frames, es = before ++ unwinding frames ∧
    Smooth before ∧ Brackets [] before (frames.map Frame.id) ∧
    match frames with
    | [] => Outside e
    | f :: _ => Raises f e

section

variable {α : Type} {live live' live'' : List FrameId} {es fs : List (Frame × TraceEvent)}
  {here : ExecError → Prop} {o : Except ExecError α}

theorem Brackets.trans (h : Brackets live es live') (h' : Brackets live' fs live'') :
    Brackets live (es ++ fs) live'' := by
  induction h with
  | done => exact h'
  | call new _ ih => exact .call new (ih h')
  | line _ ih => exact .line (ih h')
  | ret _ ih => exact .ret (ih h')
  | fails _ ih => exact .fails (ih h')

/-- Unwinding ends the frames that it goes through. -/
theorem Brackets.unwinding (frames : List Frame) (live : List FrameId) :
    Brackets (frames.map Frame.id ++ live) (unwinding frames) live := by
  induction frames with
  | nil => exact .done
  | cons f frames ih => exact .fails ih

theorem unwinding_append (frames frames' : List Frame) :
    unwinding (frames ++ frames') = unwinding frames ++ unwinding frames' := by
  simp [unwinding]

theorem Smooth.append (h : Smooth es) (h' : Smooth fs) : Smooth (es ++ fs) := by
  intro e mem
  rcases List.mem_append.mp mem with mem | mem
  · exact h e mem
  · exact h' e mem

theorem Smooth.one {f : Frame} {event : TraceEvent} (other : event ≠ .exception) :
    Smooth [(f, event)] := by
  intro e mem
  rw [List.mem_singleton.mp mem]
  exact other

theorem Smooth.nil : Smooth [] := fun _ mem => by cases mem

/-- Steps after others that went well. -/
theorem Orderly.after (smooth : Smooth es) (nested : Brackets live es live)
    (h : Orderly live fs here o) : Orderly live (es ++ fs) here o := by
  cases o with
  | ok v => exact ⟨smooth.append h.1, nested.trans h.2⟩
  | error e =>
    obtain ⟨before, frames, rfl, smooth', nested', came⟩ := h
    exact ⟨es ++ before, frames, by rw [List.append_assoc], smooth.append smooth', nested.trans nested',
      came⟩

/-- An error that is passed on. -/
theorem Orderly.failed {β : Type} {e : ExecError} {here' : ExecError → Prop}
    (h : Orderly live es here (.error e : Except ExecError α)) (more : here e → here' e) :
    Orderly live es here' (.error e : Except ExecError β) := by
  obtain ⟨before, frames, split, smooth, nested, came⟩ := h
  refine ⟨before, frames, split, smooth, nested, ?_⟩
  cases frames with
  | nil => exact more came
  | cons f frames => exact came

theorem Orderly.weaken {here' : ExecError → Prop} (h : Orderly live es here o)
    (more : ∀ e, here e → here' e) : Orderly live es here' o := by
  cases o with
  | ok v => exact h
  | error e => exact h.failed (more e)

/-- An error without an event. -/
theorem Orderly.error {e : ExecError} (came : here e) : Orderly (α := α) live [] here (.error e) :=
  ⟨[], [], rfl, .nil, .done, came⟩

/-- A frame that was entered is left, and what comes after that is not raised in it. -/
theorem Orderly.left {f g : Frame} (new : f.id ∉ live) (same : g.id = f.id) (smooth : Smooth es)
    (nested : Brackets (f.id :: live) es (f.id :: live)) (came : ∀ e, o = .error e → here e) :
    Orderly live ((f, .call) :: (es ++ [(g, .ret)])) here o := by
  have smooth' : Smooth ((f, .call) :: (es ++ [(g, .ret)])) :=
    (Smooth.one (by decide) : Smooth [(f, .call)]).append (smooth.append (.one (by decide)))
  have nested' : Brackets live ((f, .call) :: (es ++ [(g, .ret)])) live := by
    rw [← same] at nested
    exact .call new (same ▸ nested.trans (.ret .done))
  cases o with
  | ok v => exact ⟨smooth', nested'⟩
  | error e => exact ⟨_, [], (List.append_nil _).symm, smooth', nested', came e rfl⟩

/-- An error ends a frame that was entered, after those that were entered since. -/
theorem Orderly.unwound {f g : Frame} {e : ExecError} (new : f.id ∉ live) (same : g.id = f.id)
    (h : Orderly (f.id :: live) es (Raises g) (.error e : Except ExecError α)) :
    Orderly live ((f, .call) :: (es ++ unwinding [g])) here (.error e : Except ExecError α) := by
  obtain ⟨before, frames, rfl, smooth, nested, came⟩ := h
  refine ⟨(f, .call) :: before, frames ++ [g], ?_,
    (Smooth.one (by decide) : Smooth [(f, .call)]).append smooth, .call new ?_, ?_⟩
  · rw [unwinding_append, List.append_assoc]
    rfl
  · rw [List.map_append, List.append_assoc]
    exact same ▸ nested
  · cases frames with
    | nil => exact came
    | cons g' frames => exact came

/-- What steps that end well come to does not matter. -/
theorem WellBracketed.map {β : Type} (h : WellBracketed es o) (f : α → β) :
    WellBracketed es (o.map f) := by
  cases o with
  | ok v => exact ⟨h.nested, fun _ _ => h.smooth v rfl, fun _ failed => by cases failed⟩
  | error e =>
    refine ⟨h.nested, fun _ ok => (by cases ok), fun _ failed => ?_⟩
    cases failed
    exact h.unwound e rfl

end

/-! ## Surroundings -/

/-- Surroundings in which, as long as `P` holds, no trace event fails and line events stay on. A
monitoring event may fail, but not where a frame starts, and not while it is unwound. -/
structure Mild {σ : Type} (s : Scripts σ) (P : σ → Prop) : Prop where
  put : ∀ x e, s.engine (s.withEngine x e) = e
  newFrame : ∀ {x}, P x → P (s.host.newFrame x).2
  work : ∀ {x}, P x → ∀ n, P (s.host.work n x).2
  trace : ∀ {x}, P x → ∀ frame event, frame.linesOn = true →
    ∃ x', answer (s.host.trace frame event) x = (.ok true, x') ∧ P x' ∧
      (s.engine x).frames ≤ (s.engine x').frames
  monitor : ∀ {x}, P x → ∀ event, ∃ o x', answer (s.host.monitor event) x = (o, x') ∧ P x' ∧
    (s.engine x).frames ≤ (s.engine x').frames ∧
    (event.kind ∈ [.start, .raise, .unwind] → o = .ok ())
  enter : ∀ {x}, P x → ∀ routine, P (answer (s.host.enter routine) x).2 ∧
    (s.engine x).frames ≤ (s.engine (answer (s.host.enter routine) x).2).frames
  leave : ∀ {x}, P x → ∀ routine, P (s.host.leave routine x).2 ∧
    (s.engine x).frames ≤ (s.engine (s.host.leave routine x).2).frames

variable {σ : Type} {s : Scripts σ} {P : σ → Prop}

/-- The frames `live` are open: `P` holds, and their numbers were given out. -/
structure Opened (s : Scripts σ) (P : σ → Prop) (live : List FrameId) (x : Journal σ) : Prop where
  holds : P x.state
  given : ∀ i ∈ live, i < (s.engine x.state).frames

/-- The events `es` were announced between `x` and `y`. -/
structure Went (s : Scripts σ) (P : σ → Prop) (x : Journal σ) (es : List (Frame × TraceEvent))
    (y : Journal σ) : Prop where
  stream : y.stream = x.stream ++ es
  holds : P y.state
  frames : (s.engine x.state).frames ≤ (s.engine y.state).frames

section

variable {x y z : Journal σ} {es fs : List (Frame × TraceEvent)} {live : List FrameId} {a : Activation}

theorem Went.refl (holds : P x.state) : Went s P x [] x := ⟨by simp, holds, Nat.le_refl _⟩

theorem Went.trans (h : Went s P x es y) (h' : Went s P y fs z) : Went s P x (es ++ fs) z :=
  ⟨by rw [h'.stream, h.stream, List.append_assoc], h'.holds,
    Nat.le_trans h.frames h'.frames⟩

theorem Opened.went (h : Opened s P live x) (went : Went s P x es y) : Opened s P live y :=
  ⟨went.holds, fun i mem => Nat.lt_of_lt_of_le (h.given i mem) went.frames⟩

namespace Mild

/-- A trace event is announced. -/
theorem signal (mild : Mild s P) (holds : P x.state) (on : a.frame.linesOn = true) (event : TraceEvent)
    (suspended : Bool) : ∃ y, (Machine.signal s.host.noted event suspended).out a x = ((.ok (), a), y) ∧
      Went s P x [({ a.frame with suspended }, event)] y := by
  obtain ⟨x', told, holds', frames⟩ := mild.trace holds { a.frame with suspended } event on
  have noted := answer_noted_trace s.host x { a.frame with suspended } event
  rw [told] at noted
  refine ⟨_, out_signal on noted, ?_, holds', frames⟩
  simp [Journal.stream, streamOf]

/-- A monitoring event is not a trace event, whatever comes of it. -/
theorem notify (mild : Mild s P) (holds : P x.state) (a : Activation) (kind : EventKind) :
    ∃ o y, (Machine.notify s.host.noted kind).out a x = ((o, a), y) ∧ Went s P x [] y ∧
      (kind ∈ [.start, .raise, .unwind] → o = .ok ()) ∧ ∀ e, o = .error e → Outside e := by
  obtain ⟨o, x', heard, holds', frames, fine⟩ :=
    mild.monitor holds ⟨kind, a.frame.block, a.frame.offset, a.frame.line⟩
  have noted := answer_noted_monitor s.host x ⟨kind, a.frame.block, a.frame.offset, a.frame.line⟩
  rw [heard] at noted
  have went : Went s P x []
      ⟨x', x.doings ++ [.monitor ⟨kind, a.frame.block, a.frame.offset, a.frame.line⟩]⟩ :=
    ⟨by simp [Journal.stream, streamOf], holds', frames⟩
  rw [out_notify_eq, noted]
  cases o with
  | ok v => exact ⟨.ok (), _, rfl, went, fun _ => rfl, fun _ failed => by cases failed⟩
  | error e =>
    refine ⟨.error (.hook e), _, rfl, went, fun mem => ?_, fun _ failed => ?_⟩
    · cases fine mem
    · cases failed
      trivial

theorem working (mild : Mild s P) (holds : P x.state) (n : UInt8) :
    Went s P x [] (s.host.noted.work n x).2 := by
  have kept := mild.put x.state { s.engine x.state with
    clock := (s.engine x.state).clock.satAdd (n.toUInt64 * Scripts.ticksPerUnit) }
  exact ⟨by simp [noted_work, Journal.stream, streamOf], mild.work holds n,
    Nat.le_of_eq (congrArg Engine.frames kept).symm⟩

theorem entering (mild : Mild s P) (holds : P x.state) (routine : RoutineId) :
    Went s P x [] (answer (s.host.noted.enter routine) x).2 := by
  obtain ⟨holds', frames⟩ := mild.enter holds routine
  exact ⟨by simp [answer_noted_enter, Journal.stream, streamOf], holds', frames⟩

theorem leaving (mild : Mild s P) (holds : P x.state) (routine : RoutineId) :
    Went s P x [] (s.host.noted.leave routine x).2 := by
  obtain ⟨holds', frames⟩ := mild.leave holds routine
  exact ⟨by simp [noted_leave, Journal.stream, streamOf], holds', frames⟩

/-- A new frame has a number that was not given out before. -/
theorem numbering (mild : Mild s P) (holds : P x.state) :
    Went s P x [] (s.host.noted.newFrame x).2 ∧
      (s.host.noted.newFrame x).1 = (s.engine x.state).frames ∧
      (s.engine (s.host.noted.newFrame x).2.state).frames = (s.engine x.state).frames + 1 := by
  have given : (s.engine (s.host.newFrame x.state).2).frames = (s.engine x.state).frames + 1 :=
    congrArg Engine.frames (mild.put _ _)
  refine ⟨⟨?_, mild.newFrame holds, ?_⟩, rfl, given⟩
  · simp [noted_newFrame, Journal.stream]
  · rw [noted_newFrame, given]
    omega

end Mild

end

/-! ## Steps within a frame -/

/-- The frame `id` runs, inside the frames `live`. -/
structure Inside (s : Scripts σ) (P : σ → Prop) (id : FrameId) (live : List FrameId) (a : Activation)
    (x : Journal σ) : Prop where
  own : a.frame.id = id
  on : a.frame.linesOn = true
  opened : Opened s P (id :: live) x

/-- What a running frame announces in steps is orderly; `Q` is what is needed of it before, and `R`
holds of it after steps that end well. -/
def Steps {α : Type} (s : Scripts σ) (P : σ → Prop) (id : FrameId) (live : List FrameId)
    (Q : Activation → Prop) (act : Act (Journal σ) α) (R : α → Activation → Prop) : Prop :=
  ∀ a x, Inside s P id live a x → Q a → ∃ es,
    Went s P x es (act.out a x).2 ∧ Inside s P id live (act.out a x).1.2 (act.out a x).2 ∧
      Orderly (id :: live) es (Raises (act.out a x).1.2.frame) (act.out a x).1.1 ∧
      ∀ v, (act.out a x).1.1 = .ok v → R v (act.out a x).1.2

/-- A frame that stands at a unit. -/
def StandsAt (instr : Instr) (a : Activation) : Prop :=
  a.frame.block.instrs[a.frame.offset]? = some instr ∧ a.frame.line = instr.line

/-- What comes of calls is orderly. The depth of calls may be used up before a frame is entered. -/
def CallsOrderly (s : Scripts σ) (P : σ → Prop) (call : RoutineId → Exec (Journal σ) Unit) : Prop :=
  ∀ live routine x, Opened s P live x → ∃ es, Went s P x es ((call routine).out x).2 ∧
    Orderly live es (fun e => Outside e ∨ e = .recursionLimit maxDepth) ((call routine).out x).1

section

variable {α β : Type} {id : FrameId} {live : List FrameId} {Q : Activation → Prop}
  {R : α → Activation → Prop} {T : β → Activation → Prop} {call : RoutineId → Exec (Journal σ) Unit}

namespace Steps

theorem bind {act : Act (Journal σ) α} {f : α → Act (Journal σ) β}
    (first : Steps s P id live Q act R) (rest : ∀ v, Steps s P id live (R v) (f v) T) :
    Steps s P id live Q (act >>= f) T := by
  intro a x inside before
  obtain ⟨es, went, inside', orderly, after⟩ := first a x inside before
  rw [Act.out_bind]
  rcases ran : act.out a x with ⟨⟨e | v, a'⟩, x'⟩
  all_goals rw [ran] at went inside' orderly after
  · exact ⟨es, went, inside', orderly, fun _ ok => by cases ok⟩
  · obtain ⟨fs, went', inside'', orderly', after'⟩ := rest v a' x' inside' (after v rfl)
    exact ⟨es ++ fs, went.trans went', inside'', orderly'.after orderly.1 orderly.2, after'⟩

theorem pure (v : α) : Steps s P id live (R v) (pure v) R := by
  intro a x inside holds
  exact ⟨[], Went.refl inside.opened.holds, inside, ⟨.nil, .done⟩, fun _ ok => by cases ok; exact holds⟩

theorem throw {e : ExecError} (came : ∀ a, Q a → Raises a.frame e) :
    Steps s P id live Q (throw e : Act (Journal σ) α) R := by
  intro a x inside holds
  exact ⟨[], Went.refl inside.opened.holds, inside, .error (came a holds), fun _ ok => by cases ok⟩

theorem modify {f : Activation → Activation} {T : PUnit → Activation → Prop}
    (same : ∀ a, (f a).frame.id = a.frame.id)
    (on : ∀ a, (f a).frame.linesOn = a.frame.linesOn) (holds : ∀ a, Q a → T () (f a)) :
    Steps s P id live Q (modify f) T := by
  intro a x inside before
  refine ⟨[], Went.refl inside.opened.holds, ⟨?_, ?_, inside.opened⟩, ⟨.nil, .done⟩, ?_⟩
  · exact (same a).trans inside.own
  · exact (on a).trans inside.on
  · intro _ ok
    cases ok
    exact holds a before

end Steps

namespace Mild

theorem startLine (mild : Mild s P) : Steps s P id live Q (Machine.startLine s.host.noted) fun _ => Q := by
  intro a x inside before
  obtain ⟨y, told, went⟩ := mild.signal inside.opened.holds inside.on .line false
  obtain ⟨o, z, heard, went', -, outside⟩ := mild.notify went.holds a .line
  have out : (Machine.startLine s.host.noted).out a x = ((o, a), z) := by
    unfold Machine.startLine
    rw [Act.out_bind_ok told, heard]
  rw [out]
  have both := went.trans went'
  have line : Brackets (id :: live) [({ a.frame with suspended := false }, .line)] (id :: live) := by
    rw [← inside.own]
    exact .line (f := { a.frame with suspended := false }) .done
  refine ⟨_, both, ⟨inside.own, inside.on, inside.opened.went both⟩, ?_, fun _ _ => before⟩
  cases o with
  | ok v => exact ⟨.one (by decide), line⟩
  | error e =>
    exact ⟨_, [], rfl, .one (by decide), line, (outside e rfl).raises _⟩

/-- **One unit.** What comes of a call in it comes up in this unit, unless a frame was entered. -/
theorem perform (mild : Mild s P) (calls : CallsOrderly s P call) (instr : Instr) :
    Steps s P id live (StandsAt instr) (Machine.perform s.host.noted call instr) fun _ _ => True := by
  rintro a x inside ⟨here, line⟩
  have still : ∀ o, ∃ es, Went s P x es x ∧ Inside s P id live a x ∧
      Orderly (id :: live) es (Raises a.frame) (.ok o : Except ExecError Outcome) ∧
      ∀ v : Outcome, (.ok o : Except ExecError Outcome) = .ok v → True :=
    fun o => ⟨[], Went.refl inside.opened.holds, inside, ⟨.nil, .done⟩, fun _ _ => trivial⟩
  obtain ⟨_, op⟩ := instr
  subst line
  cases op with
  | nop | yield | ret => exact still _
  | loopStart n =>
    exact ⟨[], Went.refl inside.opened.holds, ⟨inside.own, inside.on, inside.opened⟩, ⟨.nil, .done⟩,
      fun _ _ => trivial⟩
  | loopEnd target =>
    have kept := Simulation.endLoop_frame target a
    refine ⟨[], Went.refl inside.opened.holds, ⟨?_, ?_, inside.opened⟩, ⟨.nil, .done⟩,
      fun _ _ => trivial⟩
    · exact (congrArg Frame.id kept).trans inside.own
    · exact (congrArg Frame.linesOn kept).trans inside.on
  | work n =>
    have went := mild.working inside.opened.holds n
    exact ⟨[], went, ⟨inside.own, inside.on, inside.opened.went went⟩, ⟨.nil, .done⟩,
      fun _ _ => trivial⟩
  | raise =>
    exact ⟨[], Went.refl inside.opened.holds, inside, .error ⟨rfl, rfl, here⟩, fun _ ok => by cases ok⟩
  | call index =>
    rw [out_perform_call]
    rcases found : a.frame.block.callees[index.toNat]? with _ | callee
    · exact ⟨[], Went.refl inside.opened.holds, inside, .error ⟨rfl, here, found⟩,
        fun _ ok => by cases ok⟩
    · obtain ⟨es, went, orderly⟩ := calls (id :: live) callee x inside.opened
      simp only
      rcases called : (call callee).out x with ⟨e | v, y⟩
      all_goals rw [called] at went orderly
      · refine ⟨es, went, ⟨inside.own, inside.on, inside.opened.went went⟩, ?_, fun _ ok => by cases ok⟩
        refine orderly.failed fun came => ?_
        rcases came with outside | rfl
        · exact outside.raises _
        · exact ⟨rfl, index, callee, here, found⟩
      · exact ⟨es, went, ⟨inside.own, inside.on, inside.opened.went went⟩, orderly, fun _ _ => trivial⟩

/-- **The units of a frame**, by induction on how many may be run. -/
theorem execute (mild : Mild s P) (calls : CallsOrderly s P call) (units : Nat) :
    ∀ last, Steps s P id live (fun _ => True) (Machine.execute s.host.noted call units last)
      fun _ _ => True := by
  induction units with
  | zero => exact fun last => .throw fun _ _ => trivial
  | succ units ih =>
    intro last a x inside _
    rw [Machine.execute, Act.out_bind, Act.out_get]
    simp only
    rcases here : a.frame.block.instrs[a.next]? with _ | instr
    · exact Steps.pure (R := fun _ _ => True) Flow.returned a x inside trivial
    · have arrives : Steps s P id live (fun b => b.frame.block.instrs[b.next]? = some instr)
          (arrive instr) fun _ => StandsAt instr :=
        .modify (fun _ => rfl) (fun _ => rfl) fun _ at' => ⟨at', rfl⟩
      have rest : Steps s P id live (StandsAt instr) (proceed s.host.noted call units instr)
          fun _ _ => True := by
        refine Steps.bind (.modify (T := fun _ => StandsAt instr) (fun _ => rfl) (fun _ => rfl)
          fun _ at' => at') fun _ => (mild.perform calls instr).bind fun o => ?_
        cases o with
        | stop flow => exact Steps.pure (R := fun _ _ => True) flow
        | goOn jumped => exact ih _
      by_cases again : last = some instr.line
      · simp only [again, ne_eq, not_true_eq_false, if_false]
        exact arrives.bind (fun _ => rest) a x inside here
      · simp only [again, ne_eq, not_false_eq_true, if_true]
        exact arrives.bind (fun _ => mild.startLine.bind fun _ => rest) a x inside here

end Mild

end

/-! ## Whole frames -/

/-- A frame as it is announced, while it is not given up for a while. -/
def shown (a : Activation) : Frame := { a.frame with suspended := false }

theorem Raises.shown (a : Activation) (e : ExecError) (h : Raises a.frame e) : Raises (shown a) e := by
  cases e <;> exact h

section

variable {live : List FrameId} {call : RoutineId → Exec (Journal σ) Unit} {a : Activation}
  {x : Journal σ}

namespace Mild

theorem enterFrame (mild : Mild s P) (holds : P x.state) (on : a.frame.linesOn = true) :
    ∃ y, (Machine.enterFrame s.host.noted).out a x = ((.ok (), { a with started := true }), y) ∧
      Went s P x [(shown a, .call)] y := by
  obtain ⟨y, told, went⟩ := mild.signal holds on .call false
  unfold Machine.enterFrame
  rw [Act.out_bind_ok told, Act.out_bind, Act.out_get]
  simp only
  by_cases started : a.started
  · refine ⟨y, ?_, went⟩
    rw [if_pos started, ← started]
    rfl
  · obtain ⟨o, z, heard, holds', frames, fine⟩ :=
      mild.monitor went.holds ⟨.start, a.frame.block, 0, a.frame.block.firstLine⟩
    rw [fine (by simp)] at heard
    have noted := answer_noted_monitor s.host y ⟨.start, a.frame.block, 0, a.frame.block.firstLine⟩
    rw [heard] at noted
    have silent : Went s P y [] ⟨z, y.doings ++ [.monitor ⟨.start, a.frame.block, 0,
        a.frame.block.firstLine⟩]⟩ := ⟨by simp [Journal.stream, streamOf], holds', frames⟩
    refine ⟨_, ?_, went.trans silent⟩
    rw [if_neg started, Act.out_bind, Act.out_set]
    simp only
    rw [Act.out_lift, noted]

/-- An error goes through a frame and is passed on. -/
theorem unwind (mild : Mild s P) (holds : P x.state) (on : a.frame.linesOn = true) (e : ExecError) :
    ∃ y, (Machine.unwind s.host.noted e).out a x = ((.error e, a), y) ∧
      Went s P x (unwinding [shown a]) y := by
  obtain ⟨x₁, told, went₁⟩ := mild.signal holds on .exception false
  obtain ⟨o₂, x₂, heard, went₂, fine₂, -⟩ := mild.notify went₁.holds a .raise
  obtain ⟨x₃, told', went₃⟩ := mild.signal went₂.holds on .ret false
  obtain ⟨o₄, x₄, heard', went₄, fine₄, -⟩ := mild.notify went₃.holds a .unwind
  rw [fine₂ (by simp)] at heard
  rw [fine₄ (by simp)] at heard'
  refine ⟨x₄, ?_, went₁.trans (went₂.trans (went₃.trans went₄))⟩
  unfold Machine.unwind
  rw [Act.out_bind_ok told, Act.out_bind_ok heard, Act.out_bind_ok told', Act.out_bind_ok heard']
  rfl

/-- A frame is left before a tool can fail. -/
theorem depart (mild : Mild s P) (holds : P x.state) (on : a.frame.linesOn = true) (flow : Flow) :
    ∃ o y f, f.id = a.frame.id ∧ (Machine.depart s.host.noted flow).out a x = ((o, a), y) ∧
      Went s P x [(f, .ret)] y ∧ ∀ e, o = .error e → Outside e := by
  obtain ⟨y, told, went⟩ := mild.signal holds on .ret (flow = .yielded)
  obtain ⟨o, z, heard, went', -, outside⟩ :=
    mild.notify went.holds a (if flow = .yielded then .yield else .ret)
  refine ⟨o, z, { a.frame with suspended := flow = .yielded }, rfl, ?_, went.trans went', outside⟩
  unfold Machine.depart
  rw [Act.out_bind_ok told, heard]

/-- **A frame that is resumed** is entered and left once. An error in it ends it, after those that it
has called. -/
theorem resume (mild : Mild s P) (calls : CallsOrderly s P call) (budget : Nat)
    (opened : Opened s P live x) (on : a.frame.linesOn = true) (new : a.frame.id ∉ live)
    (given : a.frame.id < (s.engine x.state).frames) :
    ∃ es, Went s P x es ((Machine.resume s.host.noted call budget).out a x).2 ∧
      Orderly live es Outside ((Machine.resume s.host.noted call budget).out a x).1.1 ∧
      ((Machine.resume s.host.noted call budget).out a x).1.2.frame.id = a.frame.id ∧
      ((Machine.resume s.host.noted call budget).out a x).1.2.frame.linesOn = true := by
  obtain ⟨x₁, entered, went₁⟩ := mild.enterFrame opened.holds on
  have inside : Inside s P a.frame.id live { a with started := true } x₁ := by
    refine ⟨rfl, on, went₁.holds, fun i mem => ?_⟩
    rcases List.mem_cons.mp mem with rfl | mem
    · exact Nat.lt_of_lt_of_le given went₁.frames
    · exact (opened.went went₁).given i mem
  obtain ⟨es, went₂, inside', orderly, -⟩ := mild.execute calls budget none _ x₁ inside trivial
  unfold Machine.resume
  rw [Act.out_bind_ok entered, Act.out_bind, Act.out_tryCatch]
  rcases ran : (Machine.execute s.host.noted call budget none).out { a with started := true } x₁ with
    ⟨⟨e | flow, a'⟩, x₂⟩
  all_goals rw [ran] at went₂ inside' orderly
  · obtain ⟨x₃, unwound, went₃⟩ := mild.unwind went₂.holds inside'.on e
    simp only [unwound]
    have came : Orderly (a.frame.id :: live) es (Raises (shown a')) (.error e : Except ExecError Flow) :=
      orderly.failed (Raises.shown a' e)
    exact ⟨_, went₁.trans (went₂.trans went₃), came.unwound new inside'.own, inside'.own, inside'.on⟩
  · -- A tool can fail at the end of the frame, but its return is announced by then.
    obtain ⟨o, x₃, f, own, left, went₃, outside⟩ := mild.depart went₂.holds inside'.on flow
    simp only
    rw [Act.out_bind, left]
    have went := went₁.trans (went₂.trans went₃)
    have same : f.id = a.frame.id := own.trans inside'.own
    rcases o with e | v
    · refine ⟨_, went, .left new same orderly.1 orderly.2 fun _ failed => ?_, inside'.own, inside'.on⟩
      cases failed
      exact outside e rfl
    · exact ⟨_, went, .left new same orderly.1 orderly.2 nofun, inside'.own, inside'.on⟩

/-- A frame that is resumed in its scope: entering and leaving that are not announced. -/
theorem resumeScoped (mild : Mild s P) (calls : CallsOrderly s P call) (budget : Nat)
    (routine : RoutineId) (opened : Opened s P live x) (on : a.frame.linesOn = true)
    (new : a.frame.id ∉ live) (given : a.frame.id < (s.engine x.state).frames) :
    ∃ es, Went s P x es ((Machine.resumeScoped s.host.noted call budget routine a).out x).2 ∧
      Orderly live es Outside ((Machine.resumeScoped s.host.noted call budget routine a).out x).1 ∧
      ∀ flow a', ((Machine.resumeScoped s.host.noted call budget routine a).out x).1 = .ok (flow, a') →
        a'.frame.id = a.frame.id ∧ a'.frame.linesOn = true := by
  have went₁ := mild.entering opened.holds routine
  rw [out_resumeScoped]
  rcases came : answer (s.host.noted.enter routine) x with ⟨e | v, x₁⟩
  all_goals rw [came] at went₁
  · exact ⟨[], went₁, .error trivial, fun _ _ ok => by cases ok⟩
  · obtain ⟨es, went₂, orderly, own, on'⟩ := mild.resume calls budget (opened.went went₁) on new
      (Nat.lt_of_lt_of_le given went₁.frames)
    simp only
    rcases ran : (Machine.resume s.host.noted call budget).out a x₁ with ⟨⟨e | flow, a'⟩, x₂⟩
    all_goals rw [ran] at went₂ orderly own on'
    · have went := went₁.trans (went₂.trans (mild.leaving went₂.holds routine))
      rw [List.append_nil] at went
      exact ⟨es, went, orderly.failed id, fun _ _ ok => by cases ok⟩
    · have went := went₁.trans (went₂.trans (mild.leaving went₂.holds routine))
      rw [List.append_nil] at went
      refine ⟨es, went, orderly, fun _ _ ok => ?_⟩
      cases ok
      exact ⟨own, on'⟩

/-- **A frame that is drained** is entered and left again for each turn. -/
theorem drain (mild : Mild s P) (calls : CallsOrderly s P call) (budget : Nat) (routine : RoutineId)
    (rounds : Nat) : ∀ {a x}, Opened s P live x → a.frame.linesOn = true → a.frame.id ∉ live →
      a.frame.id < (s.engine x.state).frames →
      ∃ es, Went s P x es ((Machine.drain s.host.noted call budget routine rounds a).out x).2 ∧
        Orderly live es Outside ((Machine.drain s.host.noted call budget routine rounds a).out x).1 := by
  induction rounds with
  | zero => exact fun opened _ _ _ => ⟨[], Went.refl opened.holds, .error trivial⟩
  | succ rounds ih =>
    intro a x opened on new given
    obtain ⟨es, went, orderly, waits⟩ := mild.resumeScoped calls budget routine opened on new given
    rw [out_drain_succ]
    rcases ran : (Machine.resumeScoped s.host.noted call budget routine a).out x with
      ⟨e | ⟨flow, a'⟩, x₁⟩
    all_goals rw [ran] at went orderly waits
    · exact ⟨es, went, orderly.failed id⟩
    · cases flow with
      | returned => exact ⟨es, went, orderly⟩
      | yielded =>
        obtain ⟨own, on'⟩ := waits _ _ rfl
        obtain ⟨fs, went', orderly'⟩ := ih (opened.went went) on' (own ▸ new)
          (own ▸ Nat.lt_of_lt_of_le given went.frames)
        exact ⟨es ++ fs, went.trans went', orderly'.after orderly.1 orderly.2⟩

/-- **A call that may go deeper** enters a new frame. -/
theorem invoke_succ (mild : Mild s P) {budget depth : Nat}
    (calls : CallsOrderly s P (Machine.invoke s.host.noted budget depth)) (routine : RoutineId)
    (opened : Opened s P live x) :
    ∃ es, Went s P x es ((Machine.invoke s.host.noted budget (depth + 1) routine).out x).2 ∧
      Orderly live es Outside ((Machine.invoke s.host.noted budget (depth + 1) routine).out x).1 := by
  obtain ⟨went, number, next⟩ := mild.numbering opened.holds
  let a := fresh (s.host.noted.newFrame x).1 (s.host.noted.code x routine)
  have own : a.frame.id = (s.engine x.state).frames := number
  have new : a.frame.id ∉ live := by
    intro mem
    have below := opened.given _ mem
    rw [own] at below
    exact Nat.lt_irrefl _ below
  have given : a.frame.id < (s.engine (s.host.noted.newFrame x).2.state).frames := by
    rw [own, next]
    exact Nat.lt_succ_self _
  obtain ⟨es, went', orderly⟩ := mild.drain calls budget routine budget (opened.went went)
    (a := a) rfl new given
  rw [out_invoke_succ]
  exact ⟨es, went.trans went', orderly⟩

/-- **Calls of any depth** are orderly. -/
theorem invoke (mild : Mild s P) (budget depth : Nat) :
    CallsOrderly s P (Machine.invoke s.host.noted budget depth) := by
  induction depth with
  | zero => exact fun live routine x opened => ⟨[], Went.refl opened.holds, .error (.inr rfl)⟩
  | succ depth ih =>
    intro live routine x opened
    obtain ⟨es, went, orderly⟩ := mild.invoke_succ ih routine opened
    exact ⟨es, went, orderly.weaken fun _ => .inl⟩

end Mild

end

end LineClock.Machine

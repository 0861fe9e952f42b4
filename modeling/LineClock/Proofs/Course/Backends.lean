import LineClock.Proofs.Course.Abreast
import LineClock.Proofs.Engine.Accord

/-!
# Courses on both backends

A course plays in the same way whether the registry listens through the trace slots or through the
tool id: the moves answer the same, and the clock and the profilers agree after each of them. Every
call and every resumed frame ends as it would without profilers, and takes the same time.
-/

namespace LineClock.Course

open Machine Engine

variable {b b' : Backend} (budget : Nat)

/-! ## Where a course starts -/

theorem start_eq (b : Backend) (monitored wrap : Bool) (h : b = .tool → monitored = true) :
    start b monitored wrap = { monitored, registries := ⟨[(registry, { backend := b, wrap })]⟩ } := by
  cases b with
  | slot => rfl
  | tool =>
    rw [h rfl]
    rfl

/-- At the start the engine is quiet. -/
theorem quiet_start (b : Backend) (monitored wrap : Bool) (h : b = .tool → monitored = true) :
    Quiet b registry (start b monitored wrap) := by
  rw [start_eq b monitored wrap h]
  refine ⟨?_, fun _ => rfl⟩
  cases b with
  | slot =>
    exact ⟨rfl, rfl, fun _ _ => rfl, fun _ => ⟨rfl, rfl, rfl, rfl, rfl, rfl⟩⟩
  | tool =>
    refine ⟨⟨rfl, rfl, fun _ _ none => (by cases none), rfl⟩, h rfl, fun _ => rfl, fun _ => rfl,
      ⟨[], List.nodup_nil, fun _ => ?_, rfl⟩, ⟨fun h => ?_, fun _ => rfl⟩, ⟨rfl, fun _ _ _ => rfl, rfl, fun kind => ?_, fun h => ?_⟩⟩
    · exact ⟨fun h => (by cases h), fun h => (by cases h)⟩
    · cases h
    · rw [if_neg fun h => by cases h.1]
      rfl
    · cases h

theorem seen_start (b : Backend) (monitored wrap : Bool) (h : b = .tool → monitored = true) :
    (start b monitored wrap).Seen b registry ((start b monitored wrap).scene registry) := by
  refine ⟨quiet_start b monitored wrap h, rfl, ?_⟩
  rw [start_eq b monitored wrap h]
  exact ⟨fun _ => rfl, fun _ _ h => (by cases h), rfl⟩

/-- Stages of which nothing more is said than that a course plays on them in the same way. -/
abbrev Peers (b b' : Backend) : Stage Engine → Stage Engine → Prop :=
  Abreast (fun e v => e.Seen b registry v.scene) (fun e v => e.Seen b' registry v.scene)
    fun _ => True

theorem peers_start (wrap monitored monitored' : Bool) (h : b = .tool → monitored = true)
    (h' : b' = .tool → monitored' = true) :
    Peers b b' ⟨start b monitored wrap, []⟩ ⟨start b' monitored' wrap, []⟩ := by
  refine ⟨rfl, ⟨_, []⟩, ⟨_, []⟩, seen_start b monitored wrap h, seen_start b' monitored' wrap h', ?_,
    trivial, fun _ h => by cases h⟩
  simp only
  rw [start_eq b monitored wrap h, start_eq b' monitored' wrap h']
  rfl

theorem peers_play {st st' : Stage Engine} (h : Peers b b' st st') (turns : List Turn) :
    (play Scripts.quiet Scripts.quiet.host budget turns st).1 =
        (play Scripts.quiet Scripts.quiet.host budget turns st').1 ∧
      Peers b b' (play Scripts.quiet Scripts.quiet.host budget turns st).2
        (play Scripts.quiet Scripts.quiet.host budget turns st').2 :=
  Abreast.play (bareStand b) (bareStand b') growingSession turns h

/-! ## Profilers do not interfere -/

/-- What a stage shows of the profilers. -/
structure Shown where
  clock : Counter
  stats : ProfilerId → Snapshot
  hashes : ProfilerId → Ordered Site (List BlockHash)
  pending : ProfilerId → ThreadKey → List (BlockHash × Mark)

/-- What an engine shows of the profilers. -/
def shown (e : Engine) : Shown where
  clock := e.clock
  stats p := (e.profiler p).snapshot
  hashes p := (e.profiler p).sites
  pending p th := (e.profiler p).tally.pendingOn th

/-- What an engine shows is part of its scene. -/
theorem shown_eq {e d : Engine} (h : e.scene registry = d.scene registry) : shown e = shown d := by
  have clock : e.clock = d.clock := congrArg Scene.clock h
  have profilers : e.profilers = d.profilers := congrArg Scene.profilers h
  unfold shown Engine.profiler
  rw [clock, profilers]

/-- What runs on an engine, and what would run without profilers. -/
def Undisturbed (st : Stage Engine) : Prop :=
  ∀ th : ThreadKey,
    let e : Engine := { st.state with thread := th }
    (∀ routine,
      let run := (call Scripts.quiet.host budget routine).out e
      let bare := (call Scripts.quiet.host budget routine).out (e.hush registry)
      run.1 = bare.1 ∧ run.2.clock = bare.2.clock) ∧
    ∀ g ∈ st.generators, ∀ act, g.frame = some act →
      let run := (step Scripts.quiet.host budget g.routine act).out e
      let bare := (step Scripts.quiet.host budget g.routine act).out (e.hush registry)
      run.1.map Prod.fst = bare.1.map Prod.fst ∧ run.2.clock = bare.2.clock

/-- A resumed frame takes the same time and is left in the same way, up to the frame itself. -/
theorem undisturbed_step {c : Unit} {e d : Engine}
    {o o' : Except ExecError (Flow × Activation)}
    (h : Simulation.Resumed ((Accord.ofScenes Plain).bond (fun e v => e.Seen b registry v.scene)
      fun e v => e.Seen b' registry v.scene) c (o, e) (o', d)) :
    o.map Prod.fst = o'.map Prod.fst ∧ e.clock = d.clock := by
  have clocks : ∀ {v w : View}, e.Seen b registry v.scene → d.Seen b' registry w.scene →
      Plain v.scene w.scene → e.clock = d.clock := by
    intro v w seen seen' plain
    have clock := plain.clock
    rw [← seen.scene, ← seen'.scene] at clock
    exact clock
  rcases o with error | ⟨_ | _, a⟩ <;> rcases o' with error' | ⟨_ | _, a'⟩
  case error.error =>
    obtain ⟨rfl, v, w, seen, seen', plain⟩ := h
    exact ⟨rfl, clocks seen seen' plain⟩
  case ok.returned.ok.returned =>
    obtain ⟨v, w, seen, seen', plain⟩ := h
    exact ⟨rfl, clocks seen seen' plain⟩
  case ok.yielded.ok.yielded =>
    obtain ⟨-, ⟨v, w, seen, seen', plain⟩, -⟩ := h
    exact ⟨rfl, clocks seen seen' plain⟩
  all_goals exact h.elim

/-- On a quiet engine profilers disturb nothing. -/
theorem undisturbed {st st' : Stage Engine} (h : Peers b b' st st') : Undisturbed budget st := by
  intro th
  have moved := h.enter (bareStand b) (bareStand b') growingSession
    { thread := th, move := .task (.advance 0) }
  obtain ⟨-, v, -, seen, -, -, -, waiting⟩ := moved
  obtain ⟨seen', plain⟩ := seen_hush seen
  have sim := Plain.steady.accord.simulation (Seen.audience b registry)
    (Seen.audience .slot registry)
  have views : Accord.Both (fun e v => e.Seen b registry v.scene)
      (fun e v => e.Seen .slot registry v.scene) ((Accord.ofScenes Plain).Out ())
      { st.state with thread := th } ({ st.state with thread := th }.hush registry) :=
    ⟨⟨_, []⟩, ⟨_, []⟩, seen, seen', plain⟩
  refine ⟨fun routine => ?_, fun g mem act found => ?_⟩
  · rcases sim.calls budget () routine _ _ views with lost | ⟨outcome, v', w', left, right, plain'⟩
    · exact lost.elim
    · refine ⟨outcome, ?_⟩
      have clock := plain'.clock
      rw [← left.scene, ← right.scene] at clock
      exact clock
  · have on := (waiting g mem act found).1
    rcases sim.step () budget g.routine (Accord.alongside_idle on views) with lost | resumed
    · exact lost.elim
    · exact undisturbed_step resumed

/-- **Backends are equivalent, and profilers do not interfere.** A course on the slot backend and on
the tool backend answers the same and shows the same clock, timings, identities and pending lines
after its last move, which may be any. Each call after it, and each resumed frame of a generator,
has the outcome that it has without profilers and takes the same time. -/
theorem backends_agree (monitored wrap : Bool) (turns : List Turn) :
    let slot := play Scripts.quiet Scripts.quiet.host budget turns ⟨start .slot monitored wrap, []⟩
    let tool := play Scripts.quiet Scripts.quiet.host budget turns ⟨start .tool true wrap, []⟩
    slot.1 = tool.1 ∧ shown slot.2.state = shown tool.2.state ∧
      Undisturbed budget slot.2 ∧ Undisturbed budget tool.2 := by
  have slot : Backend.slot = .tool → monitored = true := fun h => by cases h
  have tool : Backend.tool = .tool → true = true := fun _ => rfl
  obtain ⟨replies, stages⟩ := peers_play budget (peers_start wrap monitored true slot tool) turns
  obtain ⟨-, alone⟩ := peers_play budget (peers_start wrap true true tool tool) turns
  have left := undisturbed budget stages
  obtain ⟨-, v, w, seen, seen', same, -⟩ := stages
  refine ⟨replies, shown_eq (seen.scene.trans (same.trans seen'.scene.symm)), left,
    undisturbed budget alone⟩

end LineClock.Course

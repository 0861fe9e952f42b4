import LineClock.Proofs.Course.Backends
import LineClock.Proofs.Course.Concert
import LineClock.Proofs.Course.Parallel
import LineClock.Proofs.Engine.Hearing

/-!
# Courses before a hook

A hook of somebody else is in the trace slot when profilers are switched on, one of whom wraps. Then
programs run, and the profilers are switched off. The hooks are told what they would be told without
profilers, and until one of them fails the profilers record what they would without hooks.

Main statement: `hooks_undisturbed`.
-/

namespace LineClock.Course

open Machine Engine

/-- Switch profilers on, make moves and switch profilers off, all on one thread. The answers are
those of the moves in between. -/
def playUnder {σ : Type} (s : Scripts σ) (host : Host σ) (budget : Nat) (th : ThreadKey)
    (ups : List ProfilerId) (moves : List Move) (downs : List ProfilerId) (x : σ) : List Reply × σ :=
  let on := play s host budget (onThread th ((ups.map .enable).map .task)) ⟨x, []⟩
  let ran := play s host budget (onThread th moves) on.2
  let off := play s host budget (onThread th ((downs.map .disable).map .task)) ran.2
  (ran.1, off.2.state)

variable {hooks : Hooks} {budget : Nat} {th : ThreadKey} {crew : Crew} {inner : Option ScriptId}
  {ups downs : List ProfilerId}

/-- Going to the thread that runs. -/
theorem enter_quiet {st : Stage Engine} (here : st.state.thread = th) (m : Move) :
    (Turn.mk th m).enter Scripts.quiet st = st := by
  subst here
  rfl

/-! ## Switching profilers -/

/-- What a task makes of who is on. -/
def Task.turned : Task → Scene → Scene
  | .enable p, s => s.raise p
  | .disable p, s => s.lower p
  | _, s => s

/-- What tasks make of who is on, one after another. -/
def turned (tasks : List Task) (s : Scene) : Scene := tasks.foldl (fun s t => t.turned s) s

/-- Tasks change nothing but who is on. -/
theorem turned_switch (tasks : List Task) (s : Scene) :
    turned tasks s = s.switch (turned tasks s).here := by
  induction tasks generalizing s with
  | nil => exact s.switch_self.symm
  | cons t rest ih =>
    have first : t.turned s = s.switch (t.turned s).here := by
      cases t with
      | enable p =>
        show s.switch _ = s.switch (s.switch _).here
        rw [Scene.switch_here]
      | disable p =>
        show s.lower p = s.switch (s.lower p).here
        unfold Scene.lower
        simp only
        split
        · rw [Scene.switch_here]
        · exact s.switch_self.symm
      | _ => exact s.switch_self.symm
    have rest' : turned (t :: rest) s = turned rest (t.turned s) := rfl
    rw [rest']
    refine (ih (t.turned s)).trans ?_
    generalize (turned rest (t.turned s)).here = on
    rw [first, Scene.switch_switch]

/-- How often profilers are on after some were switched on. -/
theorem count_enabled (ps : List ProfilerId) (s : Scene) (q : ProfilerId) :
    (turned (ps.map .enable) s).count q = s.count q + ps.count q := by
  induction ps generalizing s with
  | nil => rfl
  | cons p rest ih =>
    have first : turned ((p :: rest).map .enable) s = turned (rest.map .enable) (s.raise p) := rfl
    rw [first, ih, Scene.count_raise, List.count_cons]
    by_cases this : p = q
    · simp only [this, if_true, beq_self_eq_true]
      omega
    · simp [this]

/-- How often profilers are on after some were switched off. -/
theorem count_disabled (ps : List ProfilerId) (s : Scene) (q : ProfilerId) :
    (turned (ps.map .disable) s).count q = s.count q - ps.count q := by
  induction ps generalizing s with
  | nil => rfl
  | cons p rest ih =>
    have first : turned ((p :: rest).map .disable) s = turned (rest.map .disable) (s.lower p) := rfl
    rw [first, ih, Scene.count_lower, List.count_cons]
    by_cases this : p = q
    · simp only [this, if_true, beq_self_eq_true]
      omega
    · simp [this]

/-- Profilers are switched before a hook. -/
theorem play_switched (hooks : Hooks) (budget : Nat) (gs : List Generator) (tasks : List Task)
    (switches : ∀ t ∈ tasks, t.switches = true) :
    ∀ {x : Hooked}, Interposed registry inner x → x.engine.thread = th →
      ∃ e, (play (Hooked.scripts hooks) (Hooked.host hooks true) budget
          (onThread th (tasks.map .task)) ⟨x, gs⟩).2 = ⟨{ x with engine := e }, gs⟩ ∧
        Interposed registry inner { x with engine := e } ∧
        e.scene registry = turned tasks (x.engine.scene registry) ∧
        ((x.engine.dispatchOf registry).muted = [] → (e.dispatchOf registry).muted = []) := by
  induction tasks with
  | nil => exact fun h _ => ⟨_, rfl, h, rfl, id⟩
  | cons t rest ih =>
    intro x h here
    have switched : ∃ e, (t.act.run x.engine).2 = e ∧
        Interposed registry inner { x with engine := e } ∧
        e.scene registry = t.turned (x.engine.scene registry) ∧
        ((x.engine.dispatchOf registry).muted = [] → (e.dispatchOf registry).muted = []) := by
      cases t with
      | enable p =>
        obtain ⟨e, enabled, rest⟩ := h.enable p
        refine ⟨e, ?_, rest⟩
        rw [run_enable_act (h.sole.profilers p), enabled]
      | disable p =>
        obtain ⟨e, disabled, rest⟩ := h.disable p
        refine ⟨e, ?_, rest⟩
        rw [run_disable_act (h.sole.profilers p), disabled]
      | _ => cases switches _ List.mem_cons_self
    obtain ⟨e, act, h', scene, clean⟩ := switched
    have thread : e.thread = th := by
      have same := congrArg Scene.thread (scene.trans (turned_switch [t] (x.engine.scene registry)))
      exact same.trans here
    obtain ⟨e', played, h'', scene', clean'⟩ :=
      ih (fun t mem => switches t (List.mem_cons_of_mem _ mem)) h' thread
    have first : ((Move.task t).perform (Hooked.scripts hooks) (Hooked.host hooks true) budget
        ⟨x, gs⟩).2 = ⟨{ x with engine := e }, gs⟩ := by
      rw [← act]
      rfl
    refine ⟨e', ?_, h'', ?_, fun none => clean' (clean none)⟩
    · rw [List.map_cons, play_onThread (enter_same hooks here _)]
      simp only
      rw [first]
      exact played
    · rw [scene', scene]
      rfl

/-- Profilers are switched where the slot is empty. -/
theorem play_switched_quiet (budget : Nat) (gs : List Generator) (tasks : List Task)
    (switches : ∀ t ∈ tasks, t.switches = true) :
    ∀ {e : Engine} {s : Scene}, e.Seen .slot registry s → s.thread = th →
      ∃ e', (play Scripts.quiet Scripts.quiet.host budget (onThread th (tasks.map .task))
          ⟨e, gs⟩).2 = ⟨e', gs⟩ ∧
        e'.Seen .slot registry (turned tasks s) := by
  induction tasks with
  | nil => exact fun seen _ => ⟨_, rfl, seen⟩
  | cons t rest ih =>
    intro e s seen here
    have thread₀ : e.thread = th := (congrArg Scene.thread seen.scene).trans here
    have switched : ∃ e', (t.act.run e).2 = e' ∧ e'.Seen .slot registry (t.turned s) := by
      cases t with
      | enable p =>
        obtain ⟨e', enabled, seen'⟩ := run_enable seen p
        exact ⟨e', congrArg Prod.snd enabled, seen'⟩
      | disable p =>
        obtain ⟨e', disabled, seen'⟩ := run_disable seen p
        exact ⟨e', congrArg Prod.snd disabled, seen'⟩
      | _ => cases switches _ List.mem_cons_self
    obtain ⟨e', act, seen'⟩ := switched
    have thread : (t.turned s).thread = th :=
      (congrArg Scene.thread (turned_switch [t] s)).trans here
    obtain ⟨e'', played, seen''⟩ := ih (fun t mem => switches t (List.mem_cons_of_mem _ mem)) seen' thread
    refine ⟨e'', ?_, seen''⟩
    have entered : (Turn.mk th (.task t)).enter Scripts.quiet ⟨e, gs⟩ = ⟨e, gs⟩ :=
      enter_quiet thread₀ _
    have first : ((Move.task t).perform Scripts.quiet Scripts.quiet.host budget ⟨e, gs⟩).2 =
        ⟨e', gs⟩ := by
      rw [← act]
      rfl
    rw [List.map_cons, play_onThread entered]
    simp only
    rw [first]
    exact played

/-! ## Running programs -/

/-- No move takes back that a hook has failed. -/
theorem failed_stable (hooks : Hooks) :
    Stable Hooked.Failed (Hooked.scripts hooks) (Hooked.host hooks true) where
  keeps := Hooked.Failed.keeps hooks
  enter h _ := h
  task h _ := h.same rfl

/-- Programs answer and profilers record the same on both machines until a hook fails. -/
theorem play_heard (hooks : Hooks) (budget : Nat) (moves : List Move)
    (runs : ∀ m ∈ moves, m.runs = true) :
    ∀ {st : Stage Hooked} {st' : Stage Engine}, Concert (Hears registry) crew st st' →
      Concert.After Hooked.Failed (Hears registry) crew
        (play (Hooked.scripts hooks) (Hooked.host hooks true) budget (onThread crew.thread moves) st)
        (play Scripts.quiet Scripts.quiet.host budget (onThread crew.thread moves) st') := by
  induction moves with
  | nil => exact fun concert => .inr ⟨rfl, concert⟩
  | cons m rest ih =>
    intro st st' concert
    have rapport := Hears.rapport registry hooks
    have here : st.state.engine.thread = crew.thread := by
      obtain ⟨inner, relaying⟩ := concert.related.relaying
      exact relaying.thread
    have here' : st'.state.thread = crew.thread :=
      (congrArg Scene.thread concert.related.seen.scene).trans here
    have stepped : Concert.After Hooked.Failed (Hears registry) crew
        (m.perform (Hooked.scripts hooks) (Hooked.host hooks true) budget st)
        (m.perform Scripts.quiet Scripts.quiet.host budget st') := by
      cases m with
      | task t => cases runs _ List.mem_cons_self
      | call routine => exact concert.call rapport routine
      | generator routine => exact concert.generator rapport routine
      | resume i => exact concert.resume rapport i
    rw [play_onThread (enter_same hooks here m), play_onThread (enter_quiet here' m)]
    rcases stepped with lost | ⟨reply, concert'⟩
    · exact .inl ((failed_stable hooks).play budget _ _ lost)
    · rcases ih (fun m mem => runs m (List.mem_cons_of_mem _ mem)) concert' with
        lost | ⟨replies, concert''⟩
      · exact .inl lost
      · exact .inr ⟨List.cons_eq_cons.mpr ⟨reply, replies⟩, concert''⟩

/-! ## The whole course -/

/-- The profilers stand before a hook that is put into the slot where nobody is on. -/
theorem interposed_hook {e : Engine} {s : Scene} (seen : e.Seen .slot registry s)
    (nobody : (e.scene registry).here = []) (hook : ScriptId) :
    Interposed registry (some hook) { engine := e.withHook (some (.script hook)) } := by
  have listens : SlotListens registry e := seen.quiet.listens
  have off : (e.dispatchOf registry).activated = false := by
    refine (seen.quiet.balanced e.thread).trans ?_
    rw [isActive_eq]
    show (!((e.scene registry).here).isEmpty) = false
    rw [nobody]
    rfl
  refine ⟨⟨listens.present, listens.backend, listens.silent, (listens.thread e.thread).idle,
    fun on => ?_, fun _ => withHook_traceHook? e _⟩, seen.quiet.balanced, ?_, ?_⟩
  · have on : (e.dispatchOf registry).activated = true := on
    rw [off] at on
    cases on
  · show (e.scene registry).Sole registry
    rw [seen.scene]
    exact seen.sole
  · show Scene.Fair (e.scene registry).here
    rw [nobody]
    exact .nil

/-- Nobody is on any more after as many switchings off. -/
theorem nobody_left {s t : Scene} (fair : Scene.Fair (turned (downs.map .disable) t).here)
    (nobody : s.here = []) (here : t.here = (turned (ups.map .enable) s).here)
    (enough : ∀ p, ups.count p ≤ downs.count p) :
    (turned (downs.map .disable) t).here = [] := by
  have none : ∀ q, (turned (downs.map .disable) t).count q = 0 := by
    intro q
    have on : t.count q = s.count q + ups.count q := by
      rw [← count_enabled]
      unfold Scene.count
      rw [here]
    have before : s.count q = 0 := by
      unfold Scene.count
      rw [nobody]
      rfl
    have q_enough := enough q
    rw [count_disabled, on, before]
    omega
  cases left : (turned (downs.map .disable) t).here with
  | nil => rfl
  | cons a rest =>
    have positive := fair.countOf_pos (p := a.1) (by simp [left])
    exact absurd (none a.1) (Nat.ne_of_gt positive)

/-- Who is on, led by one of them, before the programs run. -/
def crewOf (x : Hooked) (lead : ProfilerId) : Crew where
  thread := x.engine.thread
  on := (x.engine.scene registry).here
  lead := lead
  routines := x.engine.routines

/-- Profilers of whom one wraps relay events to the hook. -/
theorem relaying_crew {x : Hooked} (h : Interposed registry inner x) {lead : ProfilerId}
    (on : 0 < (x.engine.scene registry).count lead)
    (wraps : ((x.engine.scene registry).profiler lead).wrap = true) :
    (crewOf x lead).Led ∧ Relaying registry inner (crewOf x lead) x := by
  refine ⟨⟨?_, h.fair⟩, h, rfl, rfl, rfl, wraps⟩
  refine (Dispatch.isOn_iff ({ active := (x.engine.scene registry).here } : Dispatch) lead).mp ?_
  rw [← Bool.not_eq_false]
  intro off
  have none : (x.engine.scene registry).count lead = 0 := Dispatch.countOf_of_not_isOn off
  omega

/-- The three parts of a course, one after another. -/
theorem playUnder_eq {σ : Type} {s : Scripts σ} {host : Host σ} {moves : List Move} {x : σ}
    {on ran off : Stage σ}
    (first : (play s host budget (onThread th ((ups.map .enable).map .task)) ⟨x, []⟩).2 = on)
    (second : (play s host budget (onThread th moves) on).2 = ran)
    (third : (play s host budget (onThread th ((downs.map .disable).map .task)) ran).2 = off) :
    playUnder s host budget th ups moves downs x =
      ((play s host budget (onThread th moves) on).1, off.state) := by
  subst first second third
  rfl

theorem enables (ups : List ProfilerId) : ∀ t ∈ ups.map Task.enable, t.switches = true := by
  intro t mem
  obtain ⟨p, -, rfl⟩ := List.mem_map.mp mem
  rfl

theorem disables (downs : List ProfilerId) : ∀ t ∈ downs.map Task.disable, t.switches = true := by
  intro t mem
  obtain ⟨p, -, rfl⟩ := List.mem_map.mp mem
  rfl

/-- Profilers are switched on before a hook that is in the slot, and one of them leads. -/
theorem play_enabled (hooks : Hooks) (budget : Nat) {e : Engine} {s : Scene}
    (seen : e.Seen .slot registry s) (nobody : s.here = []) (hook : ScriptId) {lead : ProfilerId}
    (up : lead ∈ ups) (wraps : (s.profiler lead).wrap = true) :
    let x : Hooked := { engine := e.withHook (some (.script hook)) }
    ∃ e' crew, (play (Hooked.scripts hooks) (Hooked.host hooks true) budget
          (onThread e.thread ((ups.map .enable).map .task)) ⟨x, []⟩).2 = ⟨{ x with engine := e' }, []⟩ ∧
      Relaying registry (some hook) crew { x with engine := e' } ∧ crew.Led ∧
      crew.thread = e.thread ∧ crew.on = (turned (ups.map .enable) s).here ∧
      e'.scene registry = turned (ups.map .enable) s ∧ (e'.dispatchOf registry).muted = [] := by
  intro x
  have listens : SlotListens registry e := seen.quiet.listens
  have clean : (x.engine.dispatchOf registry).muted = [] := (listens.thread e.thread).muted
  obtain ⟨quiet, rfl, sole⟩ := seen
  have interposed : Interposed registry (some hook) x := interposed_hook ⟨quiet, rfl, sole⟩ nobody hook
  obtain ⟨e', on, interposed', scene, clean'⟩ :=
    play_switched hooks budget [] _ (enables ups) interposed rfl
  have scene : e'.scene registry = turned (ups.map .enable) (e.scene registry) := scene
  have switched := scene.trans (turned_switch (ups.map .enable) (e.scene registry))
  have lead_on : 0 < (e'.scene registry).count lead := by
    have up := List.count_pos_iff.mpr up
    rw [scene, count_enabled]
    omega
  have lead_wraps : ((e'.scene registry).profiler lead).wrap = true := by
    rw [switched]
    exact wraps
  obtain ⟨led, relaying⟩ := relaying_crew interposed' lead_on lead_wraps
  have thread : e'.thread = e.thread := congrArg Scene.thread switched
  exact ⟨e', _, on, relaying, led, thread, congrArg Scene.here scene, scene, clean' clean⟩

/-- Profilers that relay events to the hook, and a machine without them: no frame is muted yet. -/
theorem parallel_start {x : Hooked} {e : Engine}
    (relaying : Relaying registry inner crew { x with engine := e }) (led : crew.Led)
    (slot : x.engine.traceHook? = inner.map .script)
    (silent : ∀ tool kind, x.engine.facility.callback? tool kind = none)
    (scene : (e.scene registry).bare = (x.engine.scene registry).bare)
    (clean : (e.dispatchOf registry).muted = []) :
    Parallel crew (fun _ => none) ⟨{ x with engine := e }, []⟩ ⟨x, []⟩ := by
  refine ⟨⟨led, ⟨inner, relaying, slot⟩, silent, scene, rfl, fun id mem => ?_, fun _ _ there => ?_⟩, rfl,
    fun _ _ there => ?_, fun _ _ _ _ _ _ _ there => ?_⟩
  · have mem : id ∈ (e.dispatchOf registry).muted := mem
    rw [clean] at mem
    cases mem
  · cases there
  · cases there
  · cases there

/-- With profilers the hooks are invoked as without them, and programs answer the same. -/
theorem hooks_same {x : Hooked} {e : Engine}
    (on : (play (Hooked.scripts hooks) (Hooked.host hooks true) budget
      (onThread crew.thread ((ups.map .enable).map .task)) ⟨x, []⟩).2 = ⟨{ x with engine := e }, []⟩)
    (start : Parallel crew (fun _ => none) ⟨{ x with engine := e }, []⟩ ⟨x, []⟩) {run : List Move}
    (runs : ∀ m ∈ run, m.runs = true) {s : Scene} (nobody : s.here = [])
    (crew_on : crew.on = (turned (ups.map .enable) s).here) (downs : List ProfilerId) :
    let profiled := playUnder (Hooked.scripts hooks) (Hooked.host hooks true) budget crew.thread ups run
      downs x
    let alone := playUnder (Hooked.scripts hooks) (Hooked.host hooks false) budget crew.thread [] run []
      x
    profiled.2.visits = alone.2.visits ∧ profiled.1 = alone.1 ∧
      ((∀ p, ups.count p ≤ downs.count p) →
        profiled.2.engine.traceHook? = alone.2.engine.traceHook?) := by
  intro profiled alone
  obtain ⟨replies, waits, ended⟩ := start.play hooks budget run runs
  obtain ⟨inner, relaying, slot⟩ := ended.agree.slot
  obtain ⟨e', off, interposed, scene, -⟩ :=
    play_switched hooks budget _ (downs.map .disable) (disables downs) relaying.toInterposed relaying.thread
  have whole : profiled = _ := playUnder_eq on rfl off
  rw [whole]
  refine ⟨ended.agree.visits, replies, fun enough => ?_⟩
  have left : (e'.scene registry).here = [] := by
    have fair : Scene.Fair (e'.scene registry).here := interposed.fair
    rw [scene] at fair ⊢
    exact nobody_left fair nobody (relaying.here.trans crew_on) enough
  exact (interposed.slot left).trans slot.symm

/-- Unless a hook fails, the profilers record before it what they record where the slot is empty. -/
theorem records_same {x : Hooked} {e d d' : Engine}
    (on : (play (Hooked.scripts hooks) (Hooked.host hooks true) budget
      (onThread crew.thread ((ups.map .enable).map .task)) ⟨x, []⟩).2 = ⟨{ x with engine := e }, []⟩)
    (on' : (play Scripts.quiet Scripts.quiet.host budget
      (onThread crew.thread ((ups.map .enable).map .task)) ⟨d, []⟩).2 = ⟨d', []⟩)
    (start : Hears registry crew { x with engine := e } d') {run : List Move}
    (runs : ∀ m ∈ run, m.runs = true) :
    let profiled := playUnder (Hooked.scripts hooks) (Hooked.host hooks true) budget crew.thread ups run
      downs x
    let bare := playUnder Scripts.quiet Scripts.quiet.host budget crew.thread ups run downs d
    profiled.2.failed = false → profiled.1 = bare.1 ∧ shown profiled.2.engine = shown bare.2 := by
  intro profiled bare fine
  have start : Concert (Hears registry) crew ⟨{ x with engine := e }, []⟩ ⟨d', []⟩ :=
    ⟨rfl, fun _ mem => (by cases mem), start⟩
  rcases play_heard hooks budget run runs start with lost | ⟨replies, ended⟩
  · -- switching off does not take back that a hook has failed
    have lost : profiled.2.Failed := by
      have whole : profiled = _ := playUnder_eq on rfl rfl
      rw [whole]
      exact (failed_stable hooks).play budget _ _ lost
    cases fine.symm.trans lost
  · obtain ⟨inner, relaying⟩ := ended.related.relaying
    have seen := ended.related.seen
    obtain ⟨e₂, off, -, scene, -⟩ :=
      play_switched hooks budget _ (downs.map .disable) (disables downs) relaying.toInterposed relaying.thread
    obtain ⟨d₂, off', seen₂⟩ :=
      play_switched_quiet budget _ (downs.map .disable) (disables downs) seen relaying.thread
    have whole : profiled = _ := playUnder_eq on rfl off
    have whole' : bare = _ := playUnder_eq on' rfl off'
    rw [whole, whole']
    exact ⟨replies, shown_eq (scene.trans seen₂.scene.symm)⟩

/-- **Hooks are not disturbed by profilers, nor profilers by hooks.** A hook is put into the trace
slot of a thread on which nobody is on, after any course without hooks. Profilers are switched on
there, one of whom wraps, programs run and the profilers are switched off. The hooks are invoked as
they would be without profilers, the programs answer the same, and once nobody is on the slot holds
the same. Unless a hook failed, the profilers show what they show where the slot was empty. -/
theorem hooks_undisturbed (hooks : Hooks) (hook : ScriptId) (monitored wrap : Bool) (budget : Nat)
    (before : List Turn) (th : ThreadKey) (ups downs : List ProfilerId) (run : List Move) :
    let ready :=
      (play Scripts.quiet Scripts.quiet.host budget before ⟨start .slot monitored wrap, []⟩).2.state
    let e : Engine := { ready with thread := th }
    let x : Hooked := { engine := e.withHook (some (.script hook)) }
    (e.scene registry).here = [] → (∃ p ∈ ups, (e.profiler p).wrap = true) →
      (∀ m ∈ run, m.runs = true) →
    let profiled := playUnder (Hooked.scripts hooks) (Hooked.host hooks true) budget th ups run downs x
    let alone := playUnder (Hooked.scripts hooks) (Hooked.host hooks false) budget th [] run [] x
    let bare := playUnder Scripts.quiet Scripts.quiet.host budget th ups run downs e
    profiled.2.visits = alone.2.visits ∧ profiled.1 = alone.1 ∧
      ((∀ p, ups.count p ≤ downs.count p) →
        profiled.2.engine.traceHook? = alone.2.engine.traceHook?) ∧
      (profiled.2.failed = false →
        profiled.1 = bare.1 ∧ shown profiled.2.engine = shown bare.2) := by
  intro ready e x nobody wrapper runs
  obtain ⟨lead, up, wraps⟩ := wrapper
  have slot : Backend.slot = .tool → monitored = true := fun h => by cases h
  obtain ⟨-, -, v, -, seen, -⟩ :=
    peers_play budget (peers_start wrap monitored monitored slot slot) before
  have seen : e.Seen .slot registry (e.scene registry) := seen.setup (setup_enter th)
  -- the profilers are switched on, before the hook and where the slot is empty
  obtain ⟨e₁, crew, on, relaying, led, thread, crew_on, scene, clean⟩ :=
    play_enabled hooks budget seen nobody hook up wraps
  obtain ⟨d₁, on', seen₁⟩ :=
    play_switched_quiet budget [] _ (enables ups) seen rfl
  have bare : (e₁.scene registry).bare = (e.scene registry).bare := by
    rw [scene, turned_switch]
    rfl
  have parallel := parallel_start (x := x) relaying led (withHook_traceHook? e _)
    seen.quiet.listens.silent bare clean
  have hears : Hears registry crew { x with engine := e₁ } d₁ :=
    ⟨led, ⟨some hook, relaying⟩, rfl, scene ▸ seen₁⟩
  have thread : crew.thread = th := thread
  subst thread
  obtain ⟨visits, replies, slots⟩ := hooks_same on parallel runs nobody crew_on downs
  exact ⟨visits, replies, slots, records_same on on' hears runs⟩

/-- The second event of the first hook switches off the lines of the frame, and the fifth one swaps
the hook for another. -/
def fickle : Hooks := fun visits _ =>
  match visits.length with
  | 1 => { mutes := true }
  | 4 => { slot := some (some 1) }
  | _ => {}

/-- A generator of three lines and a function, both registered with a profiler that wraps. -/
def twoPrograms : List Turn :=
  [{ move := .task (.profiler (some true) .shared .files) },
    { move := .task (.define
        { name := "g", file := "m.py", firstLine := 1, generator := true, instrs :=
          [⟨1, .work 2⟩, ⟨2, .yield⟩, ⟨3, .work 1⟩] }) },
    { move := .task (.define { name := "f", file := "m.py", firstLine := 5, instrs :=
        [⟨5, .loopStart 2⟩, ⟨6, .work 5⟩, ⟨7, .loopEnd 1⟩] }) },
    { move := .task (.add 0 0) }, { move := .task (.add 0 1) }]

/-- The generator is muted, and resumed after the function was called. -/
theorem hooks_undisturbed_fickle :
    let ready :=
      (play Scripts.quiet Scripts.quiet.host 9 twoPrograms ⟨start .slot true false, []⟩).2.state
    let e : Engine := { ready with thread := 0 }
    let x : Hooked := { engine := e.withHook (some (.script 0)) }
    let run : List Move := [.generator 0, .resume 0, .call 1, .resume 0]
    let profiled := playUnder (Hooked.scripts fickle) (Hooked.host fickle true) 9 0 [0] run [0] x
    let alone := playUnder (Hooked.scripts fickle) (Hooked.host fickle false) 9 0 [] run [] x
    let bare := playUnder Scripts.quiet Scripts.quiet.host 9 0 [0] run [0] e
    profiled.2.visits = alone.2.visits ∧ profiled.1 = alone.1 ∧
      profiled.2.engine.traceHook? = alone.2.engine.traceHook? ∧
      alone.2.engine.traceHook? = some (.script 1) ∧
      shown profiled.2.engine = shown bare.2 ∧ (shown bare.2).stats 0 ≠ (shown e).stats 0 := by
  obtain ⟨visits, replies, slot, recorded⟩ :=
    hooks_undisturbed fickle 0 true false 9 twoPrograms 0 [0] [0]
      [.generator 0, .resume 0, .call 1, .resume 0] (by decide +kernel) (by decide +kernel) (by decide)
  exact ⟨visits, replies, slot fun _ => Nat.le_refl _, by decide +kernel,
    (recorded (by decide +kernel)).2, by decide +kernel⟩

end LineClock.Course

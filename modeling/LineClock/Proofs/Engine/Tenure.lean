import LineClock.Proofs.Engine.Mirror
import LineClock.Proofs.Engine.Tampered
import Mathlib.Logic.Relation

/-!
# What happens at the profilers' id

The facility, what a registry keeps of the profilers' id, and the history of what happened there: the
calls of the tool's callbacks with what each of them did, how things stood after each event and when
the profilers left, and the restarts. `Tenure.Step` says all that can happen to these three, however
the machine runs; what no step ends, no course ends.

Main statement: `Tenancy.announceEvent`.
-/

namespace LineClock

open Machine Engine

variable {τ : Type} {registry : RegistryId}

/-! ## Deeds -/

/-- An operation that restarts events. -/
def Tamper.isRestart : Tamper registry → Bool
  | .restart => true
  | _ => false

/-- What a callback does to the id when it is called for an event. Profilers do not take callbacks
for entered frames over; these only restart events. -/
def Deed.acts (deed : Deed registry τ) (kind : EventKind) : List (Tamper registry) :=
  if kind = .start then deed.tampers.filter Tamper.isRestart else deed.tampers

theorem Deed.isRestart_of_acts {deed : Deed registry τ} {kind : EventKind} (start : kind = .start) :
    ∀ t ∈ deed.acts kind, t.isRestart = true := by
  unfold Deed.acts
  rw [if_pos start]
  exact fun t mem => (List.mem_filter.mp mem).2

/-- A tool whose callbacks do certain operations only. -/
def Tool.Only (may : Tamper registry → Prop) (tool : Tool registry τ) : Prop :=
  ∀ state e id event, ∀ a ∈ (tool state e id event).tampers, may a

theorem Tool.Only.acts {may : Tamper registry → Prop} {tool : Tool registry τ} (only : Tool.Only may tool)
    (state : τ) (e : Engine) (id : ScriptId) (event : MonitorEvent) (kind : EventKind) :
    ∀ a ∈ (tool state e id event).acts kind, may a := by
  intro a mem
  unfold Deed.acts at mem
  split at mem
  · exact only state e id event a (List.mem_filter.mp mem).1
  · exact only state e id event a mem

/-- Restarts change nothing but what is switched off. -/
theorem Tamper.all_restarts {ts : List (Tamper registry)} (restarts : ∀ t ∈ ts, t.isRestart = true)
    (f : Facility) : Tamper.all f ts =
      { f with disabled := (Tamper.all f ts).disabled, restarts := (Tamper.all f ts).restarts } := by
  induction ts generalizing f with
  | nil => rfl
  | cons t rest ih =>
    have here := restarts t List.mem_cons_self
    cases t with
    | restart => exact ih (fun t mem => restarts t (List.mem_cons_of_mem _ mem)) f.restart
    | register | setEvents | free | claim => cases here

/-- Restarts do not touch how a tool and the profilers stand. -/
theorem Tenanted.restarts {f : Facility} {s : ToolShare} (h : Tenanted registry f s)
    {ts : List (Tamper registry)} (restarts : ∀ t ∈ ts, t.isRestart = true) :
    Tenanted registry (Tamper.all f ts) s := by
  rw [Tamper.all_restarts restarts]
  exact ⟨h.tame.callbacks rfl, h.wrapped, h.nothing, fun on =>
    ⟨(h.held on).holder, (h.held on).ours, (h.held on).events⟩⟩

/-! ## Histories -/

/-- What happens at the profilers' id. -/
inductive Happening (registry : RegistryId) where
  /-- A callback of the tool was called, on a thread, did what it did to the id, and answered. It
  was `passed` the event if the profilers' callback stands before it. -/
  | called (thread : ThreadKey) (script : ScriptId) (event : MonitorEvent) (passed : Bool)
      (acts : List (Tamper registry)) (action : MonitorAction)
  /-- An event is over. -/
  | heard (engine : Engine)
  /-- The profilers listen no more. -/
  | left (facility : Facility)
  | restarted

/-- How the profilers left the facility, if that is what happened. -/
def Happening.left? : Happening registry → Option Facility
  | .left f => some f
  | _ => none

/-- How the profilers' id stands, with what happened there, the newest first. -/
structure Tenure (registry : RegistryId) where
  facility : Facility
  share : ToolShare
  history : List (Happening registry)

namespace Tenure

/-- The profilers' callback stands before the tool's for a kind. -/
def Fronted (s : ToolShare) (kind : EventKind) : Prop := 0 < s.threads ∧ kind ∈ ourKinds

instance (s : ToolShare) (kind : EventKind) : Decidable (Fronted s kind) :=
  inferInstanceAs (Decidable (0 < s.threads ∧ kind ∈ ourKinds))

/-- Everything that can happen to the profilers' id under a tool that does certain operations only. -/
inductive Step (may : Tamper registry → Prop) : Tenure registry → Tenure registry → Prop
  /-- The first thread listens. -/
  | takes {t : Tenure registry} {f : Facility} {s : ToolShare} (nobody : t.share.threads = 0)
      (installs : Installs registry t.facility t.share f s) :
      Step may t { t with facility := f, share := { s with threads := 1 } }
  /-- Threads join and go while others listen. -/
  | counts {t : Tenure registry} (n : Nat) (some : 0 < t.share.threads) (given : 0 < n) :
      Step may t { t with share := { t.share with threads := n } }
  /-- The last thread goes, and the tool has the id for itself again. -/
  | returns {t : Tenure registry} {f : Facility} {s : ToolShare} (last : t.share.threads = 1)
      (restores : Restores registry t.facility { t.share with threads := 0 } f s) :
      Step may t ⟨f, s, .left f :: t.history⟩
  /-- The last thread goes, and nobody has the id. -/
  | frees {t : Tenure registry} (last : t.share.threads = 1)
      (own : t.share.owned = true ∨ t.share.reclaimed = true) :
      Step may t ⟨t.facility.free Facility.profilerTool,
        { t.share with threads := 0, ours := {}, disabled := [], wrapped := {} },
        .left (t.facility.free Facility.profilerTool) :: t.history⟩
  | restarts {t : Tenure registry} :
      Step may t { t with facility := t.facility.restart, history := .restarted :: t.history }
  | notices {t : Tenure registry} :
      Step may t { t with share := t.share.noticed t.facility.restarts }
  /-- A layer answers in the tool's place, where the profilers do not stand before it. -/
  | silences {t : Tenure registry} {hook : ToolHook} (event : MonitorEvent)
      (there : t.facility.callback? Facility.profilerTool event.kind = some hook)
      (covered : hook.covers t.facility.restarts event.location = true) :
      Step may t { t with facility := t.facility.answered event .disable }
  /-- A layer answers the profilers in the tool's place. -/
  | skips {t : Tenure registry} {hook : ToolHook} (event : MonitorEvent)
      (fronted : Fronted t.share event.kind)
      (there : t.share.wrapped.get? event.kind = some hook)
      (covered : hook.covers t.facility.restarts event.location = true) :
      Step may t { t with share := t.share.answered event .disable }
  /-- A callback of the tool is called by the machine. -/
  | calls {t : Tenure registry} {hook : ToolHook} (thread : ThreadKey) (script : ScriptId)
      (event : MonitorEvent) (acts : List (Tamper registry)) (action : MonitorAction)
      (alone : ¬ Fronted t.share event.kind)
      (on : ¬ t.facility.isDisabled Facility.profilerTool event.location = true)
      (there : t.facility.callback? Facility.profilerTool event.kind = some hook)
      (bare : hook.covers t.facility.restarts event.location = false)
      (light : event.kind = .start → ∀ a ∈ acts, a.isRestart = true) (allowed : ∀ a ∈ acts, may a) :
      Step may t ⟨(Tamper.all t.facility acts).answered event action, t.share,
        .called thread script event false acts action :: t.history⟩
  /-- A callback of the tool is called by the profilers, which absorb what it did. -/
  | passes {t : Tenure registry} {hook : ToolHook} {f : Facility} {s : ToolShare}
      (thread : ThreadKey) (script : ScriptId) (event : MonitorEvent) (acts : List (Tamper registry))
      (action : MonitorAction) (fronted : Fronted t.share event.kind)
      (seen : t.share.seenRestart = t.facility.restarts)
      (held : t.facility.Held registry t.share)
      (on : ¬ t.facility.isDisabled Facility.profilerTool event.location = true)
      (next : t.share.next? event = some hook)
      (bare : hook.covers t.facility.restarts event.location = false)
      (allowed : ∀ a ∈ acts, may a)
      (absorbs : Absorbs registry (Tamper.all t.facility acts) t.share f s) :
      Step may t ⟨f, s.answered event action, .called thread script event true acts action :: t.history⟩
  /-- An event is over. -/
  | hears {t : Tenure registry} (e : Engine) (facility : e.facility = t.facility)
      (share : e.share registry = t.share) (unguarded : Unguarded registry e)
      (monitored : e.monitored = true) (place : Tenanted registry e.facility (e.share registry)) :
      Step may t { t with history := .heard e :: t.history }

/-- Any number of steps. -/
abbrev Steps (may : Tamper registry → Prop) (t t' : Tenure registry) : Prop :=
  Relation.ReflTransGen (Step may) t t'

variable {may : Tamper registry → Prop}

/-- **What no step ends is never ended.** -/
theorem Steps.keeps {P : Tenure registry → Prop} (step : ∀ {t t'}, Step may t t' → P t → P t')
    {t t' : Tenure registry} (steps : Steps may t t') (there : P t) : P t' := by
  induction steps with
  | refl => exact there
  | tail _ last ih => exact step last ih

/-- One thread more listens. -/
theorem takeover (t : Tenure registry) :
    Takeover registry (fun f s => f = t.facility ∧ s = t.share)
      (fun f s => 0 < s.threads ∧ Step may t { t with facility := f, share := s }) where
  install {e} h there none := by
    obtain ⟨facility, share⟩ := there
    rw [share] at none
    obtain ⟨hooks, f, s, installed, installs⟩ := answer_install h
    rw [facility, share] at installs
    exact ⟨hooks, f, s, installed, installs.threads.trans none, Nat.one_pos, .takes none installs⟩
  count {f s} there some := by
    obtain ⟨rfl, rfl⟩ := there
    exact ⟨Nat.succ_pos _, .counts _ some (Nat.succ_pos _)⟩

/-- One thread less listens. -/
theorem giveback (t : Tenure registry) :
    Giveback registry (fun f s => (f = t.facility ∧ s = t.share) ∧ Tenanted registry f s)
      (fun f s => 0 < t.share.threads ∧
        Step may t ⟨f, s, if s.threads = 0 then .left f :: t.history else t.history⟩) where
  uninstall {e} h there none := by
    obtain ⟨⟨facility, share⟩, place⟩ := there
    have last : t.share.threads = 1 := by rw [← share]
    have held := (place.held Nat.one_pos).holder
    have back : e.share registry = { t.share with threads := 0 } := by
      rw [← share, ← none]
    have some : 0 < t.share.threads := by rw [last]; exact Nat.one_pos
    by_cases own : (e.share registry).owned = true ∨ (e.share registry).reclaimed = true
    · have freed := answer_uninstall_free h own
      rw [back, facility] at freed
      rw [back] at own
      refine ⟨_, _, _, freed, rfl, some, ?_⟩
      rw [if_pos rfl]
      exact .frees last own
    · rw [not_or, Bool.not_eq_true, Bool.not_eq_true] at own
      obtain ⟨f, s, removed, restores⟩ := answer_uninstall_back h own.1 own.2 held
      have gone : s.threads = 0 := restores.threads.trans none
      rw [back, facility] at restores
      refine ⟨_, f, s, removed, gone, some, ?_⟩
      rw [if_pos gone]
      exact .returns last restores
  count {f s} there more := by
    obtain ⟨⟨rfl, rfl⟩, -⟩ := there
    refine ⟨Nat.lt_trans Nat.one_pos more, ?_⟩
    rw [if_neg (Nat.ne_of_gt (Nat.sub_pos_of_lt more))]
    exact .counts _ (Nat.lt_trans Nat.one_pos more) (Nat.sub_pos_of_lt more)

end Tenure

/-! ## The machine -/

/-- An engine with a tool beside it, and what happened at the profilers' id. -/
structure Tenancy (registry : RegistryId) (τ : Type) where
  engine : Engine
  tool : τ
  /-- What happened, the newest first. -/
  history : List (Happening registry) := []
  /-- How often the facility is restarted before each of the next announcements. -/
  restarts : List Nat := []

namespace Tenancy

/-- The profilers' id. -/
def tenure (x : Tenancy registry τ) : Tenure registry :=
  ⟨x.engine.facility, x.engine.share registry, x.history⟩

/-- Another engine. If the profilers listen no more, it is noted how they left the facility. -/
def moveTo (x : Tenancy registry τ) (e : Engine) : Tenancy registry τ :=
  { x with
    engine := e
    history :=
      if 0 < (x.engine.share registry).threads ∧ (e.share registry).threads = 0 then
        .left e.facility :: x.history
      else x.history }

/-- The facility is restarted as often as it is its turn. -/
def restarted (x : Tenancy registry τ) : Tenancy registry τ :=
  { x with
    engine := { x.engine with
      facility := Nat.repeat Facility.restart (x.restarts.headD 0) x.engine.facility }
    history := List.replicate (x.restarts.headD 0) .restarted ++ x.history
    restarts := x.restarts.tail }

/-- The state after a callback was called. -/
def after (x : Tenancy registry τ) (script : ScriptId) (event : MonitorEvent)
    (deed : Deed registry τ) : Tenancy registry τ :=
  { x with
    tool := deed.tool
    engine := { x.engine with facility := Tamper.all x.engine.facility (deed.acts event.kind) }
    history := .called x.engine.thread script event
      (decide (Tenure.Fronted (x.engine.share registry) event.kind)) (deed.acts event.kind)
      deed.action :: x.history }

/-- The scripts of a tool. -/
def scripts (tool : Tool registry τ) : Scripts (Tenancy registry τ) where
  engine x := x.engine
  withEngine x e := x.moveTo e
  trace _ frame _ := pure frame.linesOn
  monitor id event := ExceptT.mk do
    let x ← get
    let deed := tool x.tool x.engine id event
    set (x.after id event deed)
    return .ok deed.action

/-- The machine's surroundings: the facility may be restarted before each event and around each
wrapper, and how things stand after each event is noted. -/
def host (tool : Tool registry τ) : Host (Tenancy registry τ) :=
  { (scripts tool).host with
    monitor := fun event => do
      modify restarted
      (scripts tool).announceEvent event
      modify fun x => { x with history := .heard x.engine :: x.history }
    enter := fun routine => do
      modify restarted
      (scripts tool).host.enter routine
    leave := fun routine => do
      modify restarted
      (scripts tool).host.leave routine }

variable {x : Tenancy registry τ} {event : MonitorEvent} {tool : Tool registry τ}
  {may : Tamper registry → Prop}

/-- While as many threads listen as before, nothing is noted. -/
theorem moveTo_same {e : Engine}
    (same : (e.share registry).threads = (x.engine.share registry).threads) :
    x.moveTo e = { x with engine := e } := by
  unfold moveTo
  rw [same, if_neg fun h => Nat.ne_of_gt h.1 h.2]

theorem lawful (x : Tenancy registry τ) :
    (scripts tool).withEngine x ((scripts tool).engine x) = x := moveTo_same rfl

/-! ## Switching and restarts -/

section

variable (h : AtTool (Tenanted registry) registry x.engine) (balanced : Balanced registry x.engine)

/-- What is the same at the profilers' id. -/
theorem moveTo_aside {e : Engine} (facility : e.facility = x.engine.facility)
    (share : e.share registry = x.engine.share registry) : (x.moveTo e).tenure = x.tenure := by
  rw [moveTo_same (congrArg ToolShare.threads share)]
  show (⟨e.facility, e.share registry, x.history⟩ : Tenure registry) = _
  rw [facility, share]
  rfl

include h balanced

/-- Switching a profiler on is a step, if it is anything at the profilers' id. -/
theorem steps_enable (p : ProfilerId) :
    Tenure.Steps may x.tenure (x.moveTo (answer (Engine.enable registry p) x.engine).2).tenure := by
  have there : AtTool (fun f s => f = x.tenure.facility ∧ s = x.tenure.share) registry x.engine :=
    h.mono ⟨rfl, rfl⟩
  rcases there.enabled x.tenure.takeover balanced p with ⟨facility, share⟩ | ⟨some, step⟩
  · rw [moveTo_aside facility share]
  · refine .single ?_
    have listens : ¬ (0 < (x.engine.share registry).threads ∧
        ((answer (Engine.enable registry p) x.engine).2.share registry).threads = 0) :=
      fun h => Nat.ne_of_gt some h.2
    unfold moveTo
    rw [if_neg listens]
    exact step

/-- Switching a profiler off is a step, if it is anything at the profilers' id. -/
theorem steps_disable (p : ProfilerId) :
    Tenure.Steps may x.tenure (x.moveTo (answer (Engine.disable registry p) x.engine).2).tenure := by
  have there : AtTool (fun f s => (f = x.tenure.facility ∧ s = x.tenure.share) ∧ Tenanted registry f s)
      registry x.engine := h.mono ⟨⟨rfl, rfl⟩, h.place⟩
  rcases there.disabled x.tenure.giveback balanced p with ⟨facility, share⟩ | ⟨some, step⟩
  · rw [moveTo_aside facility share]
  · refine .single ?_
    have some : 0 < (x.engine.share registry).threads := some
    unfold moveTo
    simp only [some, true_and]
    exact step

end

/-- The facility is restarted, any number of times. -/
theorem steps_restarted (x : Tenancy registry τ) : Tenure.Steps may x.tenure x.restarted.tenure := by
  show Tenure.Steps may ⟨x.engine.facility, x.engine.share registry, x.history⟩
    ⟨Nat.repeat Facility.restart (x.restarts.headD 0) x.engine.facility, x.engine.share registry,
      List.replicate (x.restarts.headD 0) .restarted ++ x.history⟩
  induction x.restarts.headD 0 with
  | zero => exact .refl
  | succ n ih => exact ih.tail .restarts

/-- The facility after restarts has no other callbacks, holders and event sets. -/
theorem tenanted_restarted {f : Facility} {s : ToolShare} (h : Tenanted registry f s) (n : Nat) :
    Tenanted registry (Nat.repeat Facility.restart n f) s := by
  induction n with
  | zero => exact h
  | succ n ih =>
    exact ⟨ih.tame.callbacks rfl, ih.wrapped, ih.nothing, fun on =>
      ⟨(ih.held on).holder, (ih.held on).ours, (ih.held on).events⟩⟩

theorem atTool_restarted (h : AtTool (Tenanted registry) registry x.engine) :
    AtTool (Tenanted registry) registry x.restarted.engine :=
  h.withFacility (tenanted_restarted h.place _)

/-! ## Events -/

/-- What an event leaves: the profilers stand as they did, and what happened at their id are steps. -/
structure Keeps (may : Tamper registry → Prop) (event : MonitorEvent) (x x' : Tenancy registry τ) : Prop where
  atTool : AtTool (Tenanted registry) registry x'.engine
  dispatch : ∀ th, x'.engine.dispatchAt th registry = x.engine.dispatchAt th registry
  scene : x'.engine.scene registry = x.engine.scene registry ∨
    x'.engine.scene registry = (x.engine.scene registry).hearEvent event
  steps : Tenure.Steps may x.tenure x'.tenure

/-- What a layer or a script answers is kept by the facility. -/
theorem deliverTo_answered {x₁ : Tenancy registry τ} {hook : ToolHook} {action : MonitorAction}
    (delivered : answer ((scripts tool).deliverEvent ((scripts tool).hopsAt x) hook event) x =
      (.ok action, x₁)) :
    answer ((scripts tool).deliverTo event (Facility.profilerTool, hook)) x =
      (.ok (), { x₁ with engine := { x₁.engine with
        facility := x₁.engine.facility.answered event action } }) := by
  rw [Scripts.answer_deliverTo, delivered]
  simp only
  unfold Facility.answered
  split
  · exact congrArg (Prod.mk _) (moveTo_same rfl)
  · rfl

/-- Below the layers of a hook, while the registry is in use. -/
theorem core?_eq {e : Engine} (h : Unguarded registry e) (event : MonitorEvent) (hook : ToolHook) :
    hook.core? event (e.isAttached registry) e.facility.restarts =
      if hook.covers e.facility.restarts event.location then none else some hook.core := by
  rw [h.attached]
  exact ToolHook.core?_attached event _ hook

/-- An event that the machine delivers to the tool itself. -/
theorem deliverTo_own (h : AtTool (Tenanted registry) registry x.engine)
    (alone : ¬ Tenure.Fronted (x.engine.share registry) event.kind)
    (on : ¬ x.engine.facility.isDisabled Facility.profilerTool event.location = true)
    {hook : ToolHook}
    (there : x.engine.facility.callback? Facility.profilerTool event.kind = some hook)
    (foreign : hook.covers x.engine.facility.restarts event.location = true ∨
      ∃ id, hook.core = .script id) (only : Tool.Only may tool) :
    ∃ x', answer ((scripts tool).deliverTo event (Facility.profilerTool, hook)) x = (.ok (), x') ∧
      Keeps may event x x' := by
  have within := h.place.tame.within _ _ there
  have bare := run_uncover h.unguarded h.monitored event within
  rw [core?_eq h.unguarded] at bare
  have answered : ∀ {f : Facility} (action : MonitorAction),
      Tenanted registry f (x.engine.share registry) →
        Tenanted registry (f.answered event action) (x.engine.share registry) := by
    intro f action place
    unfold Facility.answered
    split
    · exact place.disable _
    · exact place
  by_cases covered : hook.covers x.engine.facility.restarts event.location = true
  · rw [if_pos covered] at bare
    refine ⟨_, deliverTo_answered ((scripts tool).answer_deliverEvent_covered (x := x) lawful _ bare),
      h.withFacility (answered _ h.place), fun _ => rfl, .inl rfl, .single ?_⟩
    exact .silences (t := x.tenure) event there covered
  · obtain ⟨id, core⟩ := foreign.resolve_left covered
    rw [if_neg covered, core] at bare
    rw [Bool.not_eq_true] at covered
    let deed := tool x.tool x.engine id event
    have place : Tenanted registry (Tamper.all x.engine.facility (deed.acts event.kind))
        (x.engine.share registry) := by
      by_cases start : event.kind = .start
      · exact h.place.restarts (Deed.isRestart_of_acts start)
      · refine h.place.own (Tamper.tame_all _ h.place.tame) (Nat.eq_zero_of_not_pos fun some => ?_)
        exact start (Tampered.kind_start fun ours => alone ⟨some, ours⟩)
    have called : answer ((scripts tool).deliverEvent ((scripts tool).hopsAt x) hook event) x =
        (.ok deed.action, x.after id event deed) :=
      (scripts tool).answer_deliverEvent_script (x := x) lawful _ bare
    refine ⟨_, deliverTo_answered called, h.withFacility (answered _ place), fun _ => rfl, .inl rfl,
      .single ?_⟩
    have step : Tenure.Step may x.tenure _ := .calls x.engine.thread id event (deed.acts event.kind)
      deed.action alone on there covered Deed.isRestart_of_acts (only.acts _ _ _ _ _)
    have flag : decide (Tenure.Fronted (x.engine.share registry) event.kind) = false :=
      decide_eq_false alone
    rw [← flag] at step
    exact step

/-- An event that the profilers' callback keeps to itself. -/
theorem deliverEvent_kept {hook : ToolHook} {serial : Nat} {e : Engine}
    (ours : (uncover event hook).run x.engine = (some (.profiler registry serial), x.engine))
    (kept : (takeEvent registry event).run x.engine = (none, e))
    (same : (e.share registry).threads = (x.engine.share registry).threads) (hops : Nat) :
    answer ((scripts tool).deliverEvent (hops + 1) hook event) x =
      (.ok .goOn, { x with engine := e }) := by
  have kept : (takeEvent registry event).run ((scripts tool).engine x) = (none, e) := kept
  rw [(scripts tool).answer_deliverEvent_taken (x := x) lawful hops ours, kept]
  exact congrArg (Prod.mk _) (moveTo_same same)

/-- The engine after an answer was absorbed, with what became of the facility and the share. -/
def settled (registry : RegistryId) (e : Engine) (event : MonitorEvent) (f : Facility)
    (s : ToolShare) : Engine :=
  (retooled registry (recorded registry e event) e.hooks f s).withDispatch registry
    (e.dispatchOf registry)

section

variable (h : AtTool (Tenanted registry) registry x.engine) (event : MonitorEvent)

include h

theorem share_settled (f : Facility) (s : ToolShare) :
    (settled registry x.engine event f s).share registry = s :=
  share_answered h.unguarded event x.engine.hooks f s

/-- How the profilers stand when an answer was absorbed. -/
theorem keeps_settled {f : Facility} {s : ToolShare}
    (threads : s.threads = (x.engine.share registry).threads) (place : Tenanted registry f s)
    {tool' : τ} {history : List (Happening registry)}
    (steps : Tenure.Steps may x.tenure ⟨f, s, history⟩) :
    Keeps may event x { x with
      tool := tool'
      engine := settled registry x.engine event f s
      history } := by
  have there : (settled registry x.engine event f s).share registry = s := share_settled h event f s
  refine ⟨h.answered event x.engine.hooks threads place, fun th => withDispatch_same _ rfl th,
    .inr (scene_answered h.unguarded event x.engine.hooks f s), ?_⟩
  show Tenure.Steps may x.tenure ⟨f, (settled registry x.engine event f s).share registry, history⟩
  rw [there]
  exact steps

end

/-- An event that the profilers pass on. -/
structure Passed (event : MonitorEvent) (x : Tenancy registry τ) (s : ToolShare) (e : Engine)
    (wrapped : ToolHook) : Prop where
  atTool : AtTool (Tenanted registry) registry x.engine
  on : ¬ x.engine.facility.isDisabled Facility.profilerTool event.location = true
  noticed : (x.engine.share registry).noticed x.engine.facility.restarts = s
  waits : (taken registry x.engine event).waiting registry = e
  next : s.next? event = some wrapped

namespace Passed

variable {s : ToolShare} {e : Engine} {wrapped : ToolHook} (p : Passed event x s e wrapped)

include p

theorem place : Tenanted registry x.engine.facility s := p.noticed ▸ p.atTool.place.noticed _

theorem threads : s.threads = (x.engine.share registry).threads :=
  p.noticed ▸ ToolShare.threads_noticed _ _

theorem there : s.wrapped.get? event.kind = some wrapped := ToolShare.wrapped_of_next? p.next

/-- Something is wrapped only while the profilers listen. -/
theorem fronted : Tenure.Fronted s event.kind := by
  refine ⟨Nat.pos_of_ne_zero fun none => ?_, (p.place.wrapped _ _ p.there).1⟩
  cases (p.place.nothing none event.kind).symm.trans p.there

theorem unguarded : Unguarded registry e := p.waits ▸ unguarded_waiting p.atTool.unguarded event

theorem share : e.share registry = s :=
  p.waits ▸ (share_waiting p.atTool.unguarded event).trans p.noticed

theorem facility : e.facility = x.engine.facility := by
  rw [← p.waits]
  rfl

theorem busy : (e.dispatchOf registry).busy = true := p.waits ▸ busy_waiting event

theorem moved : x.moveTo e = { x with engine := e } :=
  moveTo_same ((congrArg ToolShare.threads p.share).trans p.threads)

/-- The registry notices a restart before it passes the event on. -/
theorem notices : Tenure.Step may x.tenure ⟨x.engine.facility, s, x.history⟩ := by
  rw [← p.noticed]
  exact .notices (t := x.tenure)

/-- Whatever the wrapped callback left of the facility, the registry is idle afterwards. -/
theorem idle (f' f : Facility) (s' : ToolShare) :
    let e' : Engine := { e with facility := f' }
    (retooled registry e' e'.hooks f s').withDispatch registry
        { e'.dispatchOf registry with busy := false } =
      settled registry x.engine event f s' := by
  have waits := p.waits
  subst waits
  exact idle_again (e := recorded registry x.engine event) (p.atTool.idle x.engine.thread) _
    ⟨_, _, _, f', rfl⟩ _ f s'

/-- A layer answered for the wrapped callback, or nobody did: the registry takes the answer, and the
id is as it was. -/
theorem uncalled (action : MonitorAction)
    (steps : Tenure.Steps may ⟨x.engine.facility, s, x.history⟩
      ⟨x.engine.facility, s.answered event action, x.history⟩) (tool : Tool registry τ) :
    ∃ x', answer ((scripts tool).tryRun (absorbEvent registry event (.ok action)))
        { x with engine := e } = (.ok .goOn, x') ∧ Keeps may event x x' := by
  have held : e.facility.Held registry (e.share registry) := by
    rw [p.share, p.facility]
    exact p.place.held p.fronted.1
  have idle := p.idle e.facility e.facility ((e.share registry).answered event action)
  have absorbed := (answer_absorbEvent_held p.unguarded held event action).trans
    (congrArg (Prod.mk _) idle)
  have settles := share_settled p.atTool event e.facility ((e.share registry).answered event action)
  have same := (e.share registry).threads_answered event action
  have moves : ({ x with engine := e } : Tenancy registry τ).moveTo
      (settled registry x.engine event e.facility ((e.share registry).answered event action)) = _ :=
    moveTo_same ((congrArg ToolShare.threads settles).trans same)
  rw [Scripts.answer_tryRun]
  refine ⟨_, congrArg₂ Prod.mk (congrArg Prod.fst absorbed)
    ((congrArg (moveTo _) (congrArg Prod.snd absorbed)).trans moves), ?_⟩
  rw [p.share, p.facility]
  exact keeps_settled p.atTool event ((s.threads_answered event action).trans p.threads)
    (p.place.answered event action) (.head p.notices steps)

/-- The wrapped callback is the tool's, and the registry absorbs what it did to the id. -/
theorem called (id : ScriptId)
    (bare : wrapped.covers x.engine.facility.restarts event.location = false)
    (only : Tool.Only may tool) :
    let deed := tool x.tool e id event
    ∃ x', answer ((scripts tool).tryRun (absorbEvent registry event (.ok deed.action)))
        (({ x with engine := e } : Tenancy registry τ).after id event deed) = (.ok .goOn, x') ∧
      Keeps may event x x' := by
  intro deed
  let x₁ := ({ x with engine := e } : Tenancy registry τ).after id event deed
  have share₁ : x₁.engine.share registry = s := p.share
  have listens := p.place.held p.fronted.1
  have armed : (x₁.engine.share registry).Armed registry := by
    rw [share₁]
    exact listens.armed
  have unguarded : Unguarded registry x₁.engine := p.unguarded.same rfl rfl
  obtain ⟨f, s', absorbed, absorbs⟩ := answer_absorbEvent unguarded armed event deed.action
  have acted : x₁.engine.facility = Tamper.all x.engine.facility (deed.acts event.kind) := by
    rw [← p.facility]
    rfl
  rw [share₁, acted] at absorbs
  have idle := p.idle x₁.engine.facility f (s'.answered event deed.action)
  have same : (s'.answered event deed.action).threads = s.threads :=
    (s'.threads_answered event deed.action).trans absorbs.threads
  have settles := share_settled p.atTool event f (s'.answered event deed.action)
  have moves : x₁.moveTo (settled registry x.engine event f (s'.answered event deed.action)) = _ :=
    moveTo_same ((congrArg ToolShare.threads settles).trans
      (same.trans (congrArg ToolShare.threads share₁).symm))
  have tame : (Tamper.all x.engine.facility (deed.acts event.kind)).Tame registry :=
    Tamper.tame_all _ p.atTool.place.tame
  have flag : decide (Tenure.Fronted (e.share registry) event.kind) = true := by
    rw [p.share]
    exact decide_eq_true p.fronted
  have thread : e.thread = x.engine.thread := by
    rw [← p.waits]
    rfl
  have seen : s.seenRestart = x.engine.facility.restarts := by
    rw [← p.noticed]
    exact ToolShare.noticed_seen _ _
  have step : Tenure.Step may ⟨x.engine.facility, s, x.history⟩ _ := .passes e.thread id event
    (deed.acts event.kind) deed.action p.fronted seen listens p.on p.next bare
    (only.acts _ _ _ _ _) absorbs
  rw [← flag] at step
  rw [Scripts.answer_tryRun]
  refine ⟨_, congrArg₂ Prod.mk (congrArg Prod.fst absorbed)
    ((congrArg (moveTo _) ((congrArg Prod.snd absorbed).trans idle)).trans moves), ?_⟩
  exact keeps_settled p.atTool event (same.trans p.threads)
    ((p.place.absorbs p.fronted.1 tame absorbs).answered event deed.action)
    (.head p.notices (.single step))

end Passed

/-- An event that goes on to a callback of the tool, or to a layer that stands before it. -/
theorem deliverEvent_passed {s : ToolShare} {e : Engine} {wrapped : ToolHook}
    (p : Passed event x s e wrapped) {hook : ToolHook} {serial : Nat}
    (ours : (uncover event hook).run x.engine = (some (.profiler registry serial), x.engine))
    (passed : (takeEvent registry event).run x.engine = (some wrapped, e))
    (only : Tool.Only may tool) (hops : Nat) :
    ∃ x', answer ((scripts tool).deliverEvent (hops + 1) hook event) x = (.ok .goOn, x') ∧
      Keeps may event x x' := by
  have passed : (takeEvent registry event).run ((scripts tool).engine x) = (some wrapped, e) := passed
  have moved : (scripts tool).withEngine x e = { x with engine := e } := p.moved
  have within := (p.place.wrapped _ _ p.there).2
  have delivered : answer ((scripts tool).deliverEvent hops wrapped event) { x with engine := e } = _ :=
    (scripts tool).answer_deliverEvent_busy (x := { x with engine := e }) lawful p.unguarded
      (by rw [← p.waits]; exact p.atTool.monitored) p.busy within hops
  have core : wrapped.core? event (((scripts tool).engine { x with engine := e }).isAttached registry)
      ((scripts tool).engine { x with engine := e }).facility.restarts =
        if wrapped.covers e.facility.restarts event.location then none else some wrapped.core :=
    core?_eq p.unguarded event wrapped
  rw [(scripts tool).answer_deliverEvent_taken (x := x) lawful hops ours, passed]
  simp only
  rw [moved]
  by_cases covered : wrapped.covers e.facility.restarts event.location = true
  · rw [core, if_pos covered] at delivered
    rw [delivered]
    rw [p.facility] at covered
    exact p.uncalled .disable (.single (.skips event p.fronted p.there covered)) tool
  · rw [if_neg covered] at core
    rcases ToolHook.of_core? within core with ⟨id, script⟩ | ⟨serial', other⟩
    · rw [core, script] at delivered
      have called : answer ((scripts tool).deliverEvent hops wrapped event) { x with engine := e } =
          (.ok (tool x.tool e id event).action,
            ({ x with engine := e } : Tenancy registry τ).after id event (tool x.tool e id event)) :=
        delivered
      rw [called]
      rw [p.facility, Bool.not_eq_true] at covered
      exact p.called id covered only
    · rw [core, other] at delivered
      have same : s.answered event .goOn = s := if_neg (by simp)
      rw [delivered]
      exact p.uncalled .goOn (by rw [same]) tool

/-- The profilers' callback records an event and passes it on, or keeps it to itself. -/
theorem deliverEvent_ours (h : AtTool (Tenanted registry) registry x.engine) {hook : ToolHook}
    {serial : Nat}
    (ours : (uncover event hook).run x.engine = (some (.profiler registry serial), x.engine))
    (on : ¬ x.engine.facility.isDisabled Facility.profilerTool event.location = true)
    (only : Tool.Only may tool) (hops : Nat) :
    ∃ x', answer ((scripts tool).deliverEvent (hops + 1) hook event) x = (.ok .goOn, x') ∧
      Keeps may event x x' := by
  have asked := run_takeEvent h.unguarded h.monitored (h.idle x.engine.thread) event
  simp only at asked
  split at asked
  · cases next : ((x.engine.share registry).noticed x.engine.facility.restarts).next? event with
    | none =>
      rw [next] at asked
      have share : (taken registry x.engine event).share registry = _ := share_taken h.unguarded event
      refine ⟨_, deliverEvent_kept ours asked ?_ hops, h.taken event fun place => place.noticed _,
        fun _ => rfl, .inr (scene_taken h.unguarded event), ?_⟩
      · exact (congrArg ToolShare.threads share).trans (ToolShare.threads_noticed _ _)
      · show Tenure.Steps may x.tenure ⟨x.engine.facility,
          (taken registry x.engine event).share registry, x.history⟩
        rw [share]
        exact .single (.notices (t := x.tenure))
    | some wrapped =>
      rw [next] at asked
      exact deliverEvent_passed ⟨h, on, rfl, rfl, next⟩ ours asked only hops
  · exact ⟨_, deliverEvent_kept ours asked rfl hops, h.withProfilers _, fun _ => rfl,
      .inr (scene_hearEvent registry x.engine event), .refl⟩

/-- **Every monitoring event** leaves the profilers standing as they did, and what happens at their id
are steps. -/
theorem announceEvent (h : AtTool (Tenanted registry) registry x.engine) (only : Tool.Only may tool)
    (event : MonitorEvent) :
    ∃ x', answer ((scripts tool).announceEvent event) x = (.ok (), x') ∧ Keeps may event x x' := by
  have monitored : ((scripts tool).engine x).monitored = true := h.monitored
  have targets : ((scripts tool).engine x).facility.targets event = _ :=
    Facility.targets_sole h.place.tame.others event
  rw [Scripts.answer_announceEvent, if_pos monitored, targets]
  split
  · rename_i hears
    have on : ¬ x.engine.facility.isDisabled Facility.profilerTool event.location = true := hears.2
    cases there : x.engine.facility.callback? Facility.profilerTool event.kind with
    | none => exact ⟨x, rfl, h, fun _ => rfl, .inl rfl, .refl⟩
    | some hook =>
      rw [Option.map_some, Option.toList_some, Scripts.answer_forM_one]
      have within := h.place.tame.within _ _ there
      have bare := run_uncover h.unguarded h.monitored event within
      cases core : hook.core? event (x.engine.isAttached registry) x.engine.facility.restarts with
      | none =>
        have covered := (core?_eq h.unguarded event hook).symm.trans core
        refine deliverTo_own h ?_ on there (.inl ?_) only
        · rintro ⟨some, mine⟩
          obtain ⟨serial, own, -⟩ := (h.place.held some).ours event.kind mine
          cases own.symm.trans there
          cases core
        · split at covered
          · assumption
          · cases covered
      | some below =>
        have heard := (core?_eq h.unguarded event hook).symm.trans core
        rw [core] at bare
        rcases ToolHook.of_core? within core with ⟨id, rfl⟩ | ⟨serial, rfl⟩
        · refine deliverTo_own h ?_ on there (.inr ⟨id, ?_⟩) only
          · rintro ⟨some, mine⟩
            obtain ⟨serial, own, -⟩ := (h.place.held some).ours event.kind mine
            cases own.symm.trans there
            cases core
          · split at heard
            · cases heard
            · exact Option.some.inj heard
        · obtain ⟨x', delivered, keeps⟩ := deliverEvent_ours h bare on only
            x.engine.registries.entries.length
          have delivered : answer ((scripts tool).deliverEvent ((scripts tool).hopsAt x) hook event) x =
            (.ok .goOn, x') := delivered
          refine ⟨_, deliverTo_answered delivered, ?_⟩
          have same : x'.engine.facility.answered event .goOn = x'.engine.facility := if_neg (by simp)
          rw [same]
          exact keeps
  · exact ⟨x, rfl, h, fun _ => rfl, .inl rfl, .refl⟩

end Tenancy

end LineClock

import LineClock.Proofs.Engine.Passing

/-!
# Hooks that only go on

Scripts that let every event go on and leave the engine as it is, whatever else they do. Delivering
events to them leaves the engine as it is, too. So does delivering them to scripts that may fail, but
for what a callback that fails or asks to hear no more changes at its own tool id.

Main statements: `Scripts.Meek.announceTrace_script`, `Scripts.Meek.announce_scripts`,
`Scripts.Aloof.announceTrace` and `Scripts.Aloof.announce`.
-/

namespace LineClock

open Machine Engine

variable {σ ε α : Type}

/-- Scripts that let every event go on and do not touch the engine. -/
structure Scripts.Meek (s : Scripts σ) : Prop where
  get_put : ∀ x e, s.engine (s.withEngine x e) = e
  put_get : ∀ x, s.withEngine x (s.engine x) = x
  trace : ∀ id frame event x, ∃ on x',
    answer (s.trace id frame event) x = (.ok on, x') ∧ s.engine x' = s.engine x
  monitor : ∀ id event x, ∃ x',
    answer (s.monitor id event) x = (.ok .goOn, x') ∧ s.engine x' = s.engine x

/-- Scripts that do nothing are meek. -/
theorem Scripts.meek_quiet : Scripts.quiet.Meek where
  get_put _ _ := rfl
  put_get _ := rfl
  trace _ frame _ x := ⟨frame.linesOn, x, rfl, rfl⟩
  monitor _ _ x := ⟨x, rfl, rfl⟩

/-- All callbacks are scripts. -/
def Facility.Scripted (f : Facility) : Prop :=
  ∀ tool kind hook, f.callback? tool kind = some hook → ∃ id, hook = .script id

/-- Who hears of an event hears of it through the callback that is registered. -/
theorem Facility.callback?_of_mem_targets {f : Facility} {event : MonitorEvent}
    {target : ToolId × ToolHook} (h : target ∈ f.targets event) :
    f.callback? target.1 event.kind = some target.2 := by
  unfold targets at h
  obtain ⟨tool, -, found⟩ := List.mem_filterMap.mp h
  split at found
  · obtain ⟨hook, there, rfl⟩ := Option.map_eq_some_iff.mp found
    exact there
  · cases found

/-- Nobody was switched on or off on the way from one engine to another, and the registry listens
where it did. -/
structure Undisturbed (registry : RegistryId) (e e' : Engine) : Prop where
  thread : e'.thread = e.thread
  active : ∀ th, (e'.dispatchAt th registry).active = (e.dispatchAt th registry).active
  activated : ∀ th, (e'.dispatchAt th registry).activated = (e.dispatchAt th registry).activated

namespace Undisturbed

variable {registry : RegistryId} {e e' e'' : Engine}

theorem refl (registry : RegistryId) (e : Engine) : Undisturbed registry e e :=
  ⟨rfl, fun _ => rfl, fun _ => rfl⟩

theorem trans (h : Undisturbed registry e e') (h' : Undisturbed registry e' e'') :
    Undisturbed registry e e'' :=
  ⟨h'.thread.trans h.thread, fun th => (h'.active th).trans (h.active th),
    fun th => (h'.activated th).trans (h.activated th)⟩

theorem balanced (h : Undisturbed registry e e') (balanced : Balanced registry e) :
    Balanced registry e' := by
  intro th
  unfold Dispatch.isActive
  rw [h.activated, h.active]
  exact balanced th

end Undisturbed

/-- Something that each of several actions keeps is kept by all of them in turn. -/
theorem answer_forM_kept {f : α → ExceptT ε (StateM σ) Unit} {I : σ → Prop} {l : List α}
    (step : ∀ a ∈ l, ∀ x, I x → ∃ x', answer (f a) x = (.ok (), x') ∧ I x') {x : σ} (h : I x) :
    ∃ x', answer (l.forM f) x = (.ok (), x') ∧ I x' := by
  induction l generalizing x with
  | nil => exact ⟨x, rfl, h⟩
  | cons a rest ih =>
    obtain ⟨x₁, first, h₁⟩ := step a List.mem_cons_self x h
    obtain ⟨x₂, others, h₂⟩ := ih (fun b mem => step b (List.mem_cons_of_mem a mem)) h₁
    refine ⟨x₂, ?_, h₂⟩
    show answer (f a >>= fun _ => rest.forM f) x = _
    rw [answer_bind_ok first, others]

namespace Scripts.Meek

variable {s : Scripts σ} {x : σ}

/-- A script hears of a trace event. -/
theorem deliverTrace (meek : s.Meek) (hops : Nat) (id : ScriptId) (frame : Frame)
    (event : TraceEvent) (x : σ) :
    ∃ on x', answer (s.deliverTrace hops (.script id) frame event) x = (.ok on, x') ∧
      s.engine x' = s.engine x := by
  have same : s.deliverTrace hops (.script id) frame event = s.trace id frame event := by
    cases hops <;> rfl
  rw [same]
  exact meek.trace id frame event x

/-- Where a script or nothing is in the trace slot, a trace event leaves the engine as it is. -/
theorem announceTrace_script (meek : s.Meek)
    (scripted : ∀ hook, (s.engine x).traceHook? = some hook → ∃ id, hook = .script id)
    (frame : Frame) (event : TraceEvent) :
    s.engine (answer (s.announceTrace frame event) x).2 = s.engine x := by
  rw [answer_announceTrace]
  cases there : (s.engine x).traceHook? with
  | none => rfl
  | some hook =>
    obtain ⟨id, rfl⟩ := scripted hook there
    obtain ⟨on, x', heard, same⟩ := meek.deliverTrace (s.hopsAt x) id frame event x
    simp only
    rw [heard]
    exact same

/-- A script hears of a monitoring event. -/
theorem deliverTo (meek : s.Meek) (event : MonitorEvent) (tool : ToolId) (id : ScriptId) (x : σ) :
    ∃ x', answer (s.deliverTo event (tool, .script id)) x = (.ok (), x') ∧
      s.engine x' = s.engine x := by
  obtain ⟨x', heard, same⟩ := meek.monitor id event x
  refine ⟨x', ?_, same⟩
  rw [answer_deliverTo, s.answer_deliverEvent_script meek.put_get _ rfl, heard]
  rfl

/-- **Where all callbacks are scripts**, a monitoring event leaves the engine as it is. -/
theorem announce_scripts (meek : s.Meek) (scripted : (s.engine x).facility.Scripted)
    (event : MonitorEvent) :
    ∃ x', answer (s.announceEvent event) x = (.ok (), x') ∧ s.engine x' = s.engine x := by
  rw [answer_announceEvent]
  split
  · refine answer_forM_kept (I := fun x' => s.engine x' = s.engine x) ?_ rfl
    rintro ⟨tool, hook⟩ mem y h
    obtain ⟨id, rfl⟩ := scripted tool event.kind hook (Facility.callback?_of_mem_targets mem)
    obtain ⟨y', heard, same⟩ := meek.deliverTo event tool id y
    exact ⟨y', heard, same.trans h⟩
  · exact ⟨x, rfl, rfl⟩

end Scripts.Meek

/-! ## Hooks that may fail -/

/-- Scripts that do not touch the engine. They may fail. -/
structure Scripts.Aloof (s : Scripts σ) : Prop where
  get_put : ∀ x e, s.engine (s.withEngine x e) = e
  put_get : ∀ x, s.withEngine x (s.engine x) = x
  trace : ∀ id frame event x, s.engine (answer (s.trace id frame event) x).2 = s.engine x
  monitor : ∀ id event x, s.engine (answer (s.monitor id event) x).2 = s.engine x

/-- A trace hook does not fail at events of a kind. -/
def Scripts.Traces (s : Scripts σ) (event : TraceEvent) (id : ScriptId) : Prop :=
  ∀ frame x, ∃ on, (answer (s.trace id frame event) x).1 = .ok on

/-- A callback does not fail at events of a kind. -/
def Scripts.Monitors (s : Scripts σ) (kind : EventKind) (id : ScriptId) : Prop :=
  ∀ event x, event.kind = kind → ∃ action, (answer (s.monitor id event) x).1 = .ok action

namespace Facility

/-- Two facilities that differ at most in what some tools subscribe to and in which locations they
have switched off. -/
structure Quieter (tools : ToolId → Prop) (f f' : Facility) : Prop where
  holders : f'.holders = f.holders
  callbacks : f'.callbacks = f.callbacks
  events : ∀ tool, ¬ tools tool → f'.eventsOf tool = f.eventsOf tool
  disabled : ∀ tool location, ¬ tools tool → f'.isDisabled tool location = f.isDisabled tool location

namespace Quieter

variable {tools : ToolId → Prop} {f f' f'' : Facility}

theorem refl (f : Facility) : f.Quieter tools f := ⟨rfl, rfl, fun _ _ => rfl, fun _ _ _ => rfl⟩

theorem trans (h : f.Quieter tools f') (h' : f'.Quieter tools f'') : f.Quieter tools f'' :=
  ⟨h'.holders.trans h.holders, h'.callbacks.trans h.callbacks,
    fun tool other => (h'.events tool other).trans (h.events tool other),
    fun tool location other => (h'.disabled tool location other).trans (h.disabled tool location other)⟩

theorem silence {tool : ToolId} (mem : tools tool) : f.Quieter tools (f.silence tool) := by
  refine ⟨rfl, rfl, fun other differ => ?_, fun _ _ _ => rfl⟩
  have read : (f.silence tool).eventsOf other = (f.events.set tool .empty).getD other .empty := rfl
  rw [read, Assoc.getD_set, if_neg]
  · rfl
  · rintro rfl
    exact differ mem

theorem disable {tool : ToolId} (mem : tools tool) (location : Location) :
    f.Quieter tools (f.disable tool location) := by
  have others : ∀ other location', ¬ tools other →
      (f.disable tool location).isDisabled other location' = f.isDisabled other location' := by
    intro other location' differ
    rw [Bool.eq_iff_iff, isDisabled_disable, or_iff_right]
    rintro ⟨rfl, -⟩
    exact differ mem
  rw [disable_eq] at others ⊢
  exact ⟨rfl, rfl, fun _ _ => rfl, others⟩

theorem callback? (h : f.Quieter tools f') (tool : ToolId) (kind : EventKind) :
    f'.callback? tool kind = f.callback? tool kind := by
  unfold Facility.callback?
  rw [h.callbacks]

end Quieter

end Facility

/-- One after the other, until one fails. -/
theorem answer_forM_cons {ε α : Type} (f : α → ExceptT ε (StateM σ) Unit) (a : α) (rest : List α)
    (x : σ) : answer ((a :: rest).forM f) x = match answer (f a) x with
      | (.ok _, x') => answer (rest.forM f) x'
      | (.error err, x') => (.error err, x') := by
  have unfolded : (a :: rest).forM f = f a >>= fun _ => rest.forM f := rfl
  rw [unfolded, answer_bind]
  rcases answer (f a) x with ⟨_ | _, _⟩ <;> rfl

namespace Scripts.Aloof

variable {s : Scripts σ} {x : σ} {tools : ToolId → Prop}

/-- Scripts that only go on do not touch the engine. -/
theorem of_meek (meek : s.Meek) : s.Aloof where
  get_put := meek.get_put
  put_get := meek.put_get
  trace id frame event x := by
    obtain ⟨on, x', heard, same⟩ := meek.trace id frame event x
    rw [heard]
    exact same
  monitor id event x := by
    obtain ⟨x', heard, same⟩ := meek.monitor id event x
    rw [heard]
    exact same

theorem deliverTrace_eq (hops : Nat) (id : ScriptId) (frame : Frame) (event : TraceEvent) :
    s.deliverTrace hops (.script id) frame event = s.trace id frame event := by
  cases hops <;> rfl

/-- **A trace event for a script** leaves the engine as it is, or without a hook in the slot if the
script fails. -/
theorem announceTrace (aloof : s.Aloof)
    (scripted : ∀ hook, (s.engine x).traceHook? = some hook → ∃ id, hook = .script id)
    (frame : Frame) (event : TraceEvent) :
    ∃ x', ((∃ on, answer (s.announceTrace frame event) x = (.ok on, x')) ∧ s.engine x' = s.engine x) ∨
      (∃ err, answer (s.announceTrace frame event) x = (.error err, x')) ∧
        s.engine x' = (s.engine x).withHook none ∧
        ∃ id, (s.engine x).traceHook? = some (.script id) ∧ ¬ s.Traces event id := by
  rw [Scripts.answer_announceTrace]
  cases there : (s.engine x).traceHook? with
  | none => exact ⟨x, .inl ⟨⟨_, rfl⟩, rfl⟩⟩
  | some hook =>
    obtain ⟨id, rfl⟩ := scripted hook there
    have same := aloof.trace id frame event x
    simp only
    rw [deliverTrace_eq]
    rcases heard : answer (s.trace id frame event) x with ⟨err | on, x'⟩ <;> rw [heard] at same
    · refine ⟨_, .inr ⟨⟨err, rfl⟩, ?_, id, rfl, fun firm => ?_⟩⟩
      · rw [aloof.get_put]
        exact congrArg (fun e : Engine => e.withHook none) same
      · obtain ⟨on, ok⟩ := firm frame x
        rw [heard] at ok
        cases ok
    · exact ⟨x', .inl ⟨⟨on, rfl⟩, same⟩⟩

/-- A script hears of a monitoring event. -/
theorem deliverTo (aloof : s.Aloof) (event : MonitorEvent) {tool : ToolId} (mem : tools tool)
    (id : ScriptId) (x : σ) :
    let out := answer (s.deliverTo event (tool, .script id)) x
    (s.Monitors event.kind id → out.1 = .ok ()) ∧
      ∃ f, s.engine out.2 = { s.engine x with facility := f } ∧
        (s.engine x).facility.Quieter tools f := by
  have same := aloof.monitor id event x
  simp only
  rw [answer_deliverTo, s.answer_deliverEvent_script aloof.put_get _ rfl]
  rcases heard : answer (s.monitor id event) x with ⟨err | action, x'⟩ <;> rw [heard] at same
  · refine ⟨fun firm => ?_, (s.engine x).facility.silence tool, ?_, .silence mem⟩
    · obtain ⟨action, ok⟩ := firm event x rfl
      rw [heard] at ok
      cases ok
    · simp only
      rw [aloof.get_put, same]
  · simp only
    split
    · refine ⟨fun _ => rfl, (s.engine x).facility.disable tool event.location, ?_, .disable mem _⟩
      rw [aloof.get_put, same]
    · exact ⟨fun _ => rfl, (s.engine x).facility, same, .refl _⟩

/-- **A monitoring event for scripts** changes no more than what their tools subscribe to and have
switched off. If none of the scripts fails, all of them hear of it. -/
theorem announce (aloof : s.Aloof) (tools : ToolId → Prop) (event : MonitorEvent)
    (targets : List (ToolId × ToolHook))
    (scripted : ∀ target ∈ targets, tools target.1 ∧ ∃ id, target.2 = .script id) (x : σ) :
    let out := answer (targets.forM (s.deliverTo event)) x
    ((∀ target ∈ targets, ∀ id, target.2 = .script id → s.Monitors event.kind id) → out.1 = .ok ()) ∧
      ∃ f, s.engine out.2 = { s.engine x with facility := f } ∧
        (s.engine x).facility.Quieter tools f := by
  induction targets generalizing x with
  | nil => exact ⟨fun _ => rfl, (s.engine x).facility, rfl, .refl _⟩
  | cons target rest ih =>
    obtain ⟨mem, id, script⟩ := scripted target List.mem_cons_self
    obtain ⟨tool, hook⟩ := target
    subst script
    obtain ⟨firm, f, there, quieter⟩ := aloof.deliverTo event mem id x
    simp only
    rw [answer_forM_cons]
    rcases first : answer (s.deliverTo event (tool, .script id)) x with ⟨err | _, x'⟩ <;>
      rw [first] at firm there
    · refine ⟨fun firms => ?_, f, there, quieter⟩
      cases firm (firms _ List.mem_cons_self id rfl)
    · obtain ⟨firms, f', there', quieter'⟩ := ih (fun t mem => scripted t (List.mem_cons_of_mem _ mem)) x'
      have same : (s.engine x').facility = f := congrArg Engine.facility there
      rw [there] at there'
      rw [same] at quieter'
      exact ⟨fun all => firms fun t mem => all t (List.mem_cons_of_mem _ mem), f', there',
        quieter.trans quieter'⟩

end Scripts.Aloof

end LineClock

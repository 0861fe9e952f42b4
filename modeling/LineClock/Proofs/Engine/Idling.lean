import LineClock.Engine.Watch
import LineClock.Proofs.Engine.Delivery
import LineClock.Proofs.Engine.Scene
import Mathlib.Order.Defs.Unbundled

/-!
# What listening leaves alone

A relation between an engine and what it becomes holds of an action if it holds of the parts of the
action. What a registry does to listen, and what it does with events that go on, is made of the few
parts of `Listens`; with what it does to give the id back these are the parts of `Handles`. `Idles` is a
relation that holds of them: no profiler is told anything, nobody is switched on or off, the clock does
not move and the thread stays the same.

Main statements: `Listens.activate`, `Listens.absorbTool`, `Listens.wrappedFor`,
`Handles.deactivateTool` and `Idles.handles`.
-/

namespace LineClock

open Machine Engine

/-- What a mapped result comes from. -/
theorem of_map_ok {ε α β : Type} {f : α → β} {x : Except ε α} {b : β} (done : x.map f = .ok b) :
    ∃ a, x = .ok a ∧ f a = b := by
  cases x with
  | ok a => exact ⟨a, rfl, Except.ok.inj done⟩
  | error err => cases done

namespace Facility

variable {f f' : Facility} {tool : ToolId}

theorem of_claim {name : String} (done : f.claim tool name = .ok f') :
    f' = { f with holders := f.holders.set tool name } := by
  unfold claim at done
  revert done
  cases check tool with
  | error err => nofun
  | ok _ =>
    cases (f.holder? tool).isSome with
    | true => nofun
    | false => rintro ⟨⟩; rfl

theorem of_setEvents {events : EventSet} (done : f.setEvents tool events = .ok f') :
    f' = { f with events := f.events.set tool events } := by
  unfold setEvents at done
  revert done
  cases check tool with
  | error err => nofun
  | ok _ =>
    cases (f.holder? tool).isNone with
    | true => nofun
    | false => rintro ⟨⟩; rfl

end Facility

namespace Engine

/-- An action that leads every engine to one that is related to it. -/
def Leads {α : Type} (R : Engine → Engine → Prop) (act : StateM Engine α) : Prop :=
  ∀ e, R e (act.run e).2

namespace Leads

variable {R : Engine → Engine → Prop} {α β ε : Type}

theorem mono {S : Engine → Engine → Prop} (sub : ∀ e e', R e e' → S e e') {act : StateM Engine α}
    (h : Leads R act) : Leads S act := fun e => sub e _ (h e)

theorem modify {f : Engine → Engine} (h : ∀ e, R e (f e)) : Leads R (modify f) := h

theorem ite {c : Prop} [Decidable c] {act act' : StateM Engine α} (h : Leads R act)
    (h' : Leads R act') : Leads R (if c then act else act') := by
  split
  · exact h
  · exact h'

theorem lift {act : StateM Engine α} (h : Leads R act) :
    Leads R (liftM act : ExceptT ε (StateM Engine) α).run := fun e => h e

theorem adapt {ε' : Type} (f : ε → ε') {act : ExceptT ε (StateM Engine) α} (h : Leads R act.run) :
    Leads R (act.adapt f).run := by
  intro e
  have began : R e (answer act e).2 := h e
  show R e (answer (act.adapt f) e).2
  rw [answer_adapt]
  rcases there : answer act e with ⟨_ | _, e'⟩ <;>
    (rw [there] at began; exact began)

/-! ## Actions -/

variable [IsPreorder Engine R]

theorem pure (a : α) : Leads R (pure a) := fun e => Std.Refl.refl e

theorem get : Leads R (get : StateM Engine Engine) := fun e => Std.Refl.refl e

theorem bind {act : StateM Engine α} {f : α → StateM Engine β} (first : Leads R act)
    (rest : ∀ a, Leads R (f a)) : Leads R (act >>= f) :=
  fun e => IsTrans.trans _ _ _ (first e) (rest (act.run e).1 (act.run e).2)

theorem forM {f : α → StateM Engine PUnit} (each : ∀ a, Leads R (f a)) (l : List α) :
    Leads R (l.forM f) := by
  induction l with
  | nil => exact Leads.pure _
  | cons a rest ih => exact (each a).bind fun _ => ih

theorem foldlM {f : β → α → StateM Engine β} (each : ∀ b a, Leads R (f b a)) (l : List α) :
    ∀ b, Leads R (l.foldlM f b) := by
  induction l with
  | nil => exact fun b => Leads.pure b
  | cons a rest ih => exact fun b => (each b a).bind fun b => ih b

/-! ## Actions that may fail -/

theorem tryPure (a : α) : Leads R (Pure.pure a : ExceptT ε (StateM Engine) α).run := Leads.pure _

theorem throw (err : ε) : Leads R (MonadExcept.throw err : ExceptT ε (StateM Engine) α).run :=
  Leads.pure _

theorem tryGet : Leads R (MonadState.get : ExceptT ε (StateM Engine) Engine).run :=
  fun e => Std.Refl.refl e

theorem tryBind {act : ExceptT ε (StateM Engine) α} {f : α → ExceptT ε (StateM Engine) β}
    (first : Leads R act.run) (rest : ∀ a, Leads R (f a).run) : Leads R (act >>= f).run := by
  intro e
  have began : R e (answer act e).2 := first e
  show R e (answer (act >>= f) e).2
  rw [answer_bind]
  rcases there : answer act e with ⟨_ | a, e'⟩
  · rw [there] at began
    exact began
  · rw [there] at began
    exact IsTrans.trans _ _ _ began (rest a e')

theorem tryCatch {act : ExceptT ε (StateM Engine) α} {f : ε → ExceptT ε (StateM Engine) α}
    (first : Leads R act.run) (rest : ∀ err, Leads R (f err).run) :
    Leads R (MonadExcept.tryCatch act f).run := by
  intro e
  have began : R e (answer act e).2 := first e
  show R e (answer (MonadExcept.tryCatch act f) e).2
  rw [answer_tryCatch]
  rcases there : answer act e with ⟨err | a, e'⟩
  · rw [there] at began
    exact IsTrans.trans _ _ _ began (rest err e')
  · rw [there] at began
    exact began

theorem discard {act : ExceptT ε (StateM Engine) α} (h : Leads R act.run) :
    Leads R (Functor.discard act : ExceptT ε (StateM Engine) Unit).run := by
  rw [discard_eq_bind]
  exact h.tryBind fun _ => tryPure _

theorem tryForM {f : α → ExceptT ε (StateM Engine) PUnit} (each : ∀ a, Leads R (f a).run)
    (l : List α) : Leads R (l.forM f).run := by
  induction l with
  | nil => exact tryPure _
  | cons a rest ih => exact (each a).tryBind fun _ => ih

theorem onFacility {f : Facility → Except HostError (α × Facility)}
    (done : ∀ e a facility, f e.facility = .ok (a, facility) → R e { e with facility }) :
    Leads R (onFacility f).run := by
  intro e
  show R e (answer (Engine.onFacility f) e).2
  unfold Engine.onFacility
  rw [answer_get_bind]
  cases there : f e.facility with
  | ok v => exact done e v.1 v.2 there
  | error err => exact Std.Refl.refl e

/-! ## Switching -/

variable {registry : RegistryId}

theorem enable (dispatch : ∀ f, Leads R (modifyDispatch registry f))
    (activate : Leads R (activate registry).run) (p : ProfilerId) : Leads R (enable registry p).run := by
  have raised : Leads R (do
      Engine.modifyDispatch registry fun d => d.raise p
      return ((← MonadState.get).dispatchOf registry).countOf p :
        ExceptT ProfilerError (StateM Engine) Nat).run :=
    (dispatch _).lift.tryBind fun _ => Leads.tryGet.tryBind fun _ => Leads.tryPure _
  refine Leads.tryGet.tryBind fun e => ?_
  split
  · exact raised
  · exact activate.tryBind fun _ => raised

theorem deactivate (dispatch : ∀ f, Leads R (modifyDispatch registry f))
    (slot : ∀ hook, Leads R (setTraceHook hook)) (tool : Leads R (deactivateTool registry).run) :
    Leads R (deactivate registry).run := by
  have back : Leads R (deactivateSlot registry) :=
    Leads.get.bind fun _ => (dispatch _).bind fun _ => slot _
  refine Leads.tryGet.tryBind fun e => ?_
  split
  · refine (dispatch _).lift.tryBind fun _ => Leads.tryGet.tryBind fun e => ?_
    split
    · exact back.lift
    · exact tool
  · exact Leads.tryPure _

theorem lower (dispatch : ∀ f, Leads R (modifyDispatch registry f))
    (deactivate : Leads R (Engine.deactivate registry).run) (p : ProfilerId) (left : Nat → Nat) :
    Leads R (lower registry p left).run := by
  refine Leads.tryGet.tryBind fun e => ?_
  dsimp only
  split
  · refine (dispatch _).lift.tryBind fun _ => Leads.tryGet.tryBind fun e => ?_
    split
    · exact Leads.tryPure _
    · exact deactivate.tryBind fun _ => Leads.tryPure _
  · exact Leads.tryPure _

theorem forget (dispatch : ∀ e d, R e { e with dispatch := d })
    (deactivate : Leads R (Engine.deactivate registry).run) : Leads R (forget registry) :=
  Leads.bind (fun e => dispatch e _) fun _ =>
    Leads.bind (deactivate.bind fun _ => Leads.pure _) fun _ e => dispatch e _

theorem endThread (forget : ∀ registry, Leads R (Engine.forget registry))
    (slot : Leads R (setTraceHook none)) : Leads R endThread :=
  Leads.get.bind fun _ => (Leads.forM forget _).bind fun _ => slot

end Leads

/-! ## The parts of listening -/

/-- A relation that holds where nothing changes but the serial numbers that were given out, the trace
slots and the refusals that were used up. -/
def Asides (R : Engine → Engine → Prop) : Prop :=
  ∀ (e : Engine) hooks slots refusals, R e { e with hooks, slots, refusals }

namespace Asides

variable {R : Engine → Engine → Prop} (h : Asides R) (registry : RegistryId)

include h

theorem newSerial : Leads R newSerial := fun e => h e _ e.slots e.refusals

theorem setTraceHook (hook : Option TraceHook) : Leads R (setTraceHook hook) := by
  intro e
  cases hook <;> exact h e e.hooks _ e.refusals

variable [IsPreorder Engine R]

theorem refused (guarded : Bool) (call : FacilityCall) : Leads R (refused guarded call) := by
  intro e
  cases guarded
  · exact Std.Refl.refl e
  · exact h e e.hooks e.slots _

theorem reach : Leads R (reach registry) := by
  refine Leads.get.bind fun _ => (h.refused _ .reach).bind fun struck => ?_
  cases struck with
  | some _ => exact Leads.pure _
  | none => exact Leads.get.bind fun _ => Leads.pure _

theorem holder : Leads R (holder registry) := by
  refine Leads.get.bind fun e => (h.refused _ _).bind fun struck => ?_
  cases struck with
  | some _ => exact Leads.pure _
  | none => exact Leads.get.bind fun _ => Leads.pure _

theorem calling {α : Type} (call : FacilityCall) {act : ExceptT HostError (StateM Engine) α}
    (acts : Leads R act.run) : Leads R (calling registry call act).run := by
  refine Leads.tryGet.tryBind fun e => (h.refused _ _).lift.tryBind fun struck => ?_
  cases struck with
  | some err => exact Leads.throw err
  | none => exact acts

end Asides

/-- What a registry keeps of the tool id changes, and no callback comes to it. -/
def Drops (s s' : ToolShare) : Prop :=
  ∀ kind hook, (s'.wrapped.get? kind = some hook → s.wrapped.get? kind = some hook) ∧
    (s'.ours.get? kind = some hook → s.ours.get? kind = some hook)

theorem Drops.of_same {s s' : ToolShare} (wrapped : s'.wrapped = s.wrapped) (ours : s'.ours = s.ours) :
    Drops s s' := fun _ _ => ⟨wrapped ▸ id, ours ▸ id⟩

/-- A relation that holds of what listening is made of. -/
structure Listens (R : Engine → Engine → Prop) : Prop where
  aside : Asides R
  dispatch : ∀ registry f, (∀ d, (f d).active = d.active) → Leads R (modifyDispatch registry f)
  share : ∀ registry f, (∀ s, Drops s (f s)) → Leads R (modifyShare registry f)
  claimed : ∀ (e : Engine) tool name facility, e.facility.claim tool name = .ok facility →
    R e { e with facility }
  subscribed : ∀ (e : Engine) tool events facility, e.facility.setEvents tool events = .ok facility →
    R e { e with facility }
  takeOver : ∀ registry kind, Leads R (takeOver registry kind).run
  reinstate : ∀ registry kind, Leads R (reinstate registry kind)

namespace Listens

theorem mono {R S : Engine → Engine → Prop} (sub : ∀ e e', R e e' → S e e') (h : Listens R) :
    Listens S where
  aside _ _ _ _ := sub _ _ (h.aside _ _ _ _)
  dispatch registry f same := (h.dispatch registry f same).mono sub
  share registry f drops := (h.share registry f drops).mono sub
  claimed _ _ _ _ done := sub _ _ (h.claimed _ _ _ _ done)
  subscribed _ _ _ _ done := sub _ _ (h.subscribed _ _ _ _ done)
  takeOver registry kind := (h.takeOver registry kind).mono sub
  reinstate registry kind := (h.reinstate registry kind).mono sub

variable {R : Engine → Engine → Prop} [IsPreorder Engine R] (h : Listens R) (registry : RegistryId)

theorem shareOf : Leads R (shareOf registry) := Leads.get.bind fun _ => Leads.pure _

include h

/-! ### The facility as a registry sees it -/

theorem claim : Leads R (claim registry).run := by
  refine h.aside.calling registry _ (Leads.onFacility fun e _ facility done => ?_)
  obtain ⟨f, claimed, ⟨⟩⟩ := of_map_ok done
  exact h.claimed e _ _ _ claimed

theorem getEvents : Leads R (getEvents registry).run := by
  refine h.aside.calling registry _ (Leads.onFacility fun e _ facility done => ?_)
  obtain ⟨events, -, ⟨⟩⟩ := of_map_ok done
  exact Std.Refl.refl e

theorem setEvents (events : EventSet) : Leads R (setEvents registry events).run := by
  refine h.aside.calling registry _ (Leads.onFacility fun e _ facility done => ?_)
  obtain ⟨f, set, ⟨⟩⟩ := of_map_ok done
  exact h.subscribed e _ _ _ set

omit [IsPreorder Engine R] in
/-- What is kept of the id changes but for the callbacks. -/
theorem note {f : ToolShare → ToolShare} (wrapped : ∀ s, (f s).wrapped = s.wrapped)
    (ours : ∀ s, (f s).ours = s.ours) : Leads R (modifyShare registry f) :=
  h.share registry f fun s => .of_same (wrapped s) (ours s)

/-! ### Starting to listen -/

theorem claimOrShare : Leads R (claimOrShare registry).run := by
  refine (h.aside.holder registry).lift.tryBind fun found => ?_
  split
  · exact Leads.tryPure _
  · refine ((h.claim registry).tryBind fun _ => Leads.tryPure _).tryCatch fun err => ?_
    split
    · exact Leads.tryPure _
    · exact Leads.throw _

theorem install : Leads R (install registry).run := by
  refine (h.claimOrShare registry).tryBind fun owned =>
    Leads.tryBind (Leads.lift (h.note registry (fun _ => rfl) fun _ => rfl)) fun _ => ?_
  have rest : ∀ prior : EventSet, Leads R (do
      Engine.modifyShare registry fun s =>
        { s with ours := {}, wrapped := {}, disabled := [], reclaimed := false }
      ourKinds.forM (Engine.takeOver registry)
      let restarts := (← MonadState.get).facility.restarts
      Engine.modifyShare registry fun s =>
        { s with wrappedEvents := prior, seenRestart := restarts }
      Engine.setEvents registry (prior.union ourEvents) :
        ExceptT HostError (StateM Engine) Unit).run := fun _ =>
    Leads.tryBind (Leads.lift (h.share registry _ fun _ _ _ => ⟨nofun, nofun⟩)) fun _ =>
      (Leads.tryForM (h.takeOver registry) ourKinds).tryBind fun _ => Leads.tryGet.tryBind fun _ =>
        Leads.tryBind (Leads.lift (h.note registry (fun _ => rfl) fun _ => rfl)) fun _ =>
          h.setEvents registry _
  split
  · exact (Leads.tryPure _).tryBind rest
  · exact (h.getEvents registry).tryBind rest

theorem activateTool : Leads R (activateTool registry).run := by
  have count : Leads R (modifyShare registry fun s => { s with threads := s.threads + 1 }) :=
    h.note registry (fun _ => rfl) fun _ => rfl
  refine (h.aside.reach registry).lift.tryBind fun found => ?_
  have rest : Leads R (do
      if (← Engine.shareOf registry).threads = 0 then
        hosted (Engine.install registry)
      Engine.modifyShare registry fun s => { s with threads := s.threads + 1 } :
        ExceptT ProfilerError (StateM Engine) Unit).run := by
    refine (shareOf registry).lift.tryBind fun share => ?_
    split
    · exact ((h.install registry).adapt _).tryBind fun _ => count.lift
    · exact count.lift
  split
  · exact rest
  · exact (Leads.throw _).tryBind fun _ => rest

theorem activateSlot : Leads R (activateSlot registry) :=
  Leads.get.bind fun _ => h.aside.newSerial.bind fun _ =>
    Leads.bind (h.dispatch registry _ fun _ => rfl) fun _ => h.aside.setTraceHook _

/-- **Starting to listen** is made of these parts. -/
theorem activate : Leads R (activate registry).run := by
  have done := (h.dispatch registry (fun d => { d with activated := true })
    fun _ => rfl).lift (ε := ProfilerError)
  refine Leads.tryGet.tryBind fun e => ?_
  split
  · exact (h.activateSlot registry).lift.tryBind fun _ => done
  · exact (h.activateTool registry).tryBind fun _ => done

/-! ### Events that go on -/

theorem muted (frame : Frame) (event : TraceEvent) : Leads R (muted registry frame event) := by
  refine Leads.get.bind fun e => ?_
  split
  · exact Leads.bind (h.dispatch registry _ fun _ => rfl) fun _ => Leads.pure _
  · exact Leads.pure _

omit [IsPreorder Engine R] in
theorem adopt (hook : Option TraceHook) : Leads R (adopt registry hook) :=
  h.dispatch registry _ fun _ => rfl

theorem noticeRestart : Leads R (noticeRestart registry) := by
  refine Leads.get.bind fun e => h.note registry (fun s => ?_) fun s => ?_
  · split <;> rfl
  · split <;> rfl

theorem wrappedFor (event : MonitorEvent) : Leads R (wrappedFor registry event) := by
  refine Leads.get.bind fun e => ?_
  split
  · refine (h.aside.reach registry).bind fun found => ?_
    split
    · refine (h.noticeRestart registry).bind fun _ => (shareOf registry).bind fun share => ?_
      split
      · exact Leads.pure _
      · exact Leads.pure _
    · exact Leads.pure _
  · exact Leads.pure _

theorem reclaim : Leads R (reclaim registry) := by
  refine (h.aside.holder registry).bind fun found => ?_
  split
  · exact Leads.pure _
  · refine Leads.bind (h.share registry _ fun _ _ _ => ⟨nofun, id⟩) fun _ =>
      (h.claim registry).bind fun claimed => ?_
    cases claimed with
    | ok _ => exact Leads.bind (h.note registry (fun _ => rfl) fun _ => rfl) fun _ => Leads.pure _
    | error _ => exact Leads.pure _

theorem resubscribe : Leads R (resubscribe registry) := by
  refine (shareOf registry).bind fun share => (h.getEvents registry).bind fun found => ?_
  cases found with
  | error _ => exact Leads.pure _
  | ok events =>
    simp only
    split
    · exact Leads.bind (h.note registry (fun _ => rfl) fun _ => rfl) fun _ =>
        (h.setEvents registry _).bind fun _ => Leads.pure _
    · exact Leads.pure _

/-- **Undoing what a tool did** is made of these parts. -/
theorem absorbTool : Leads R (absorbTool registry) := by
  refine (shareOf registry).bind fun share => ?_
  split
  · exact Leads.pure _
  · refine (h.reclaim registry).bind fun held => ?_
    split
    · exact (Leads.forM (h.reinstate registry) ourKinds).bind fun _ => h.resubscribe registry
    · exact Leads.pure _

theorem replays (locations : List (BlockId × Nat)) (restarts : Nat) (event : MonitorEvent) :
    Leads R (replays registry locations restarts event) := by
  refine Leads.get.bind fun e => ?_
  split
  · refine (h.aside.reach registry).bind fun found => ?_
    split
    · exact Leads.get.bind fun _ => Leads.pure _
    · exact Leads.pure _
  · exact Leads.pure _

omit registry in
theorem uncover (event : MonitorEvent) (hook : ToolHook) : Leads R (uncover event hook) := by
  induction hook with
  | script id => exact Leads.pure _
  | profiler registry serial => exact Leads.pure _
  | replay wrapped locations version registry ih =>
    refine (h.replays registry locations version event).bind fun answers => ?_
    split
    · exact Leads.pure _
    · exact ih

end Listens

/-! ## The parts of giving the id back -/

/-- A relation that holds of whatever a registry does with the tool id, and of what it keeps of it. -/
structure Handles (R : Engine → Engine → Prop) : Prop where
  aside : Asides R
  dispatch : ∀ registry f, (∀ d, (f d).active = d.active) → Leads R (modifyDispatch registry f)
  share : ∀ registry f, Leads R (modifyShare registry f)
  claimed : ∀ (e : Engine) tool name facility, e.facility.claim tool name = .ok facility →
    R e { e with facility }
  subscribed : ∀ (e : Engine) tool events facility, e.facility.setEvents tool events = .ok facility →
    R e { e with facility }
  registered : ∀ (e : Engine) tool kind hook found facility,
    e.facility.register tool kind hook = .ok (found, facility) → R e { e with facility }
  freed : ∀ (e : Engine) tool, R e { e with facility := e.facility.free tool }

namespace Handles

variable {R : Engine → Engine → Prop} [IsPreorder Engine R] (h : Handles R) (registry : RegistryId)

include h

theorem register (kind : EventKind) (hook : Option ToolHook) : Leads R (register registry kind hook).run :=
  h.aside.calling registry _ (Leads.onFacility fun e found facility done =>
    h.registered e _ _ _ found facility done)

theorem takeOver (kind : EventKind) : Leads R (takeOver registry kind).run :=
  h.aside.newSerial.lift.tryBind fun _ => (h.register registry kind _).tryBind fun _ =>
    (h.share registry _).lift

theorem reinstate (kind : EventKind) : Leads R (reinstate registry kind) := by
  refine (Listens.shareOf registry).bind fun share => ?_
  split
  · exact Leads.pure _
  · refine (h.register registry kind _).bind fun was => ?_
    split
    · split
      · exact h.share registry _
      · exact Leads.pure _
    · exact h.share registry _
    · exact Leads.pure _

omit registry in
theorem listens : Listens R where
  aside := h.aside
  dispatch := h.dispatch
  share registry f _ := h.share registry f
  claimed := h.claimed
  subscribed := h.subscribed
  takeOver := h.takeOver
  reinstate := h.reinstate

theorem giveBack (disabled : List Location) (restarts : Nat) (kind : EventKind) :
    Leads R (giveBack registry disabled restarts kind).run :=
  (Listens.shareOf registry).lift.tryBind fun _ => (h.share registry _).lift.tryBind fun _ =>
    (h.register registry kind _).discard

theorem uninstall : Leads R (uninstall registry).run := by
  refine (Listens.shareOf registry).lift.tryBind fun share =>
    (h.share registry _).lift.tryBind fun _ => ?_
  split
  · exact (h.share registry _).lift.tryBind fun _ => Leads.lift fun e => h.freed e _
  · exact Leads.tryGet.tryBind fun _ =>
      (Leads.tryForM (h.giveBack registry _ _) ourKinds).tryBind fun _ =>
        h.listens.setEvents registry _

/-- **Giving the id back** is made of these parts. -/
theorem deactivateTool : Leads R (deactivateTool registry).run := by
  refine (h.aside.reach registry).lift.tryBind fun found => ?_
  have rest : Leads R (do
      Engine.modifyShare registry fun s => { s with threads := s.threads - 1 }
      if (← Engine.shareOf registry).threads = 0 then
        hosted (Engine.uninstall registry) : ExceptT ProfilerError (StateM Engine) Unit).run := by
    refine (h.share registry _).lift.tryBind fun _ =>
      (Listens.shareOf registry).lift.tryBind fun share => ?_
    split
    · exact (h.uninstall registry).adapt _
    · exact Leads.tryPure _
  split
  · exact rest
  · exact (Leads.throw _).tryBind fun _ => rest

end Handles

/-! ## Nothing is told to profilers -/

/-- An engine becomes another without anything being told to a profiler and without anybody being
switched on or off. -/
structure Idles (e e' : Engine) : Prop where
  clock : e'.clock = e.clock
  thread : e'.thread = e.thread
  profilers : e'.profilers = e.profilers
  active : ∀ th registry, (e'.dispatchAt th registry).active = (e.dispatchAt th registry).active

namespace Idles

instance : IsPreorder Engine Idles where
  refl _ := ⟨rfl, rfl, rfl, fun _ _ => rfl⟩
  trans _ _ _ h h' := ⟨h'.clock.trans h.clock, h'.thread.trans h.thread,
    h'.profilers.trans h.profilers, fun th registry => (h'.active th registry).trans (h.active th registry)⟩

variable (registry : RegistryId)

theorem asides : Asides Idles := fun _ _ _ _ => ⟨rfl, rfl, rfl, fun _ _ => rfl⟩

theorem modifyShare (f : ToolShare → ToolShare) : Leads Idles (modifyShare registry f) :=
  fun _ => ⟨rfl, rfl, rfl, fun _ _ => rfl⟩

/-- A change of what the running thread knows of a registry, other than who is on. -/
theorem modifyDispatch (f : Dispatch → Dispatch) (same : ∀ d, (f d).active = d.active) :
    Leads Idles (modifyDispatch registry f) := by
  intro e
  rw [run_modifyDispatch]
  refine ⟨rfl, rfl, rfl, fun th r => ?_⟩
  unfold dispatchAt withDispatch
  rw [Assoc.getD_set]
  split
  · rename_i here
    cases here
    exact same _
  · rfl

/-- **What is done with the tool id** tells profilers nothing. -/
theorem handles : Handles Idles where
  aside := asides
  dispatch := modifyDispatch
  share := modifyShare
  claimed _ _ _ _ _ := ⟨rfl, rfl, rfl, fun _ _ => rfl⟩
  subscribed _ _ _ _ _ := ⟨rfl, rfl, rfl, fun _ _ => rfl⟩
  registered _ _ _ _ _ _ _ := ⟨rfl, rfl, rfl, fun _ _ => rfl⟩
  freed _ _ := ⟨rfl, rfl, rfl, fun _ _ => rfl⟩

theorem listens : Listens Idles := handles.listens

end Idles

end Engine

end LineClock

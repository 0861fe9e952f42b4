import LineClock.Proofs.Engine.Taking

/-!
# Undoing what a tool did to the id

After a wrapped callback ran, the registry looks at the id and makes it its own again, whatever the
callback did there: the id is claimed if it was let go, the callbacks are put back and those that
stood in their place are taken over, and the event set is widened.

Main statements: `run_absorbTool` and `answer_absorbEvent`.
-/

namespace LineClock

open Machine Engine

/-- A registry holds the profilers' id: its callbacks are there for all its kinds, and the event set
is that of the wrapped tool with its kinds added. -/
structure Facility.Held (registry : RegistryId) (f : Facility) (s : ToolShare) : Prop where
  holder : (f.holder? profilerTool).isSome
  ours : ∀ kind ∈ ourKinds, ∃ serial,
    f.callback? profilerTool kind = some (.profiler registry serial) ∧
      s.ours.get? kind = some (.profiler registry serial)
  events : f.eventsOf profilerTool = s.wrappedEvents.union ourEvents

/-- A share that knows the callbacks of its registry. -/
def ToolShare.Armed (registry : RegistryId) (s : ToolShare) : Prop :=
  ∀ kind ∈ ourKinds, ∃ serial, s.ours.get? kind = some (.profiler registry serial)

namespace ToolShare

/-- The share after an answer of the wrapped callback. -/
def answered (s : ToolShare) (event : MonitorEvent) (action : MonitorAction) : ToolShare :=
  if action = .disable ∧ event.kind.canDisable then
    if s.disabled.contains event.location then s
    else { s with disabled := event.location :: s.disabled }
  else s

theorem answered_eq (s : ToolShare) (event : MonitorEvent) (action : MonitorAction) :
    s.answered event action = { s with disabled := (s.answered event action).disabled } := by
  unfold answered
  split
  · split <;> rfl
  · rfl

theorem threads_answered (s : ToolShare) (event : MonitorEvent) (action : MonitorAction) :
    (s.answered event action).threads = s.threads := by
  rw [s.answered_eq]

theorem mem_answered (s : ToolShare) (event : MonitorEvent) (action : MonitorAction)
    (location : Location) : location ∈ (s.answered event action).disabled ↔
      location ∈ s.disabled ∨
        (action = .disable ∧ event.kind.canDisable = true) ∧ location = event.location := by
  unfold answered
  by_cases off : action = .disable ∧ event.kind.canDisable = true
  · by_cases known : event.location ∈ s.disabled
    · simp only [if_pos off, List.contains_iff_mem, if_pos known]
      grind
    · simp only [if_pos off, List.contains_iff_mem, if_neg known, List.mem_cons]
      grind
  · simp [off]

end ToolShare

namespace Facility.Held

variable {registry : RegistryId} {f : Facility} {s : ToolShare}

theorem armed (h : f.Held registry s) : s.Armed registry := by
  intro kind mem
  obtain ⟨serial, -, known⟩ := h.ours kind mem
  exact ⟨serial, known⟩

/-- All kinds of the profilers are subscribed to. -/
theorem subscribed (h : f.Held registry s) {kind : EventKind} (mem : kind ∈ ourKinds) :
    (f.eventsOf profilerTool).contains kind = true := by
  rw [h.events]
  exact contains_widened s.wrappedEvents mem

end Facility.Held

namespace Engine

variable {registry : RegistryId} {e : Engine}

/-! ## Callbacks -/

/-- The share after the callback `current` was found where `ours` belongs. -/
def replaced (s : ToolShare) (kind : EventKind) (current : Option ToolHook) (ours : ToolHook) :
    ToolShare :=
  { s with
    wrapped := match current with
      | some hook => if hook ≠ ours then s.wrapped.set kind hook else s.wrapped
      | none => s.wrapped.erase kind }

/-- A callback that was found where another belongs is wrapped instead of the one before. -/
theorem replaced_get? (s : ToolShare) (kind : EventKind) (current : Option ToolHook)
    (ours : ToolHook) (kind' : EventKind) : (replaced s kind current ours).wrapped.get? kind' =
      if kind' = kind ∧ current ≠ some ours then current else s.wrapped.get? kind' := by
  cases current with
  | none =>
    have read : (replaced s kind none ours).wrapped.get? kind' = (s.wrapped.erase kind).get? kind' := rfl
    rw [read, Assoc.get?_erase]
    by_cases here : kind' = kind
    · simp [here]
    · simp [here, Ne.symm here]
  | some found =>
    have read : (replaced s kind (some found) ours).wrapped.get? kind' =
      (if found ≠ ours then s.wrapped.set kind found else s.wrapped).get? kind' := rfl
    rw [read]
    by_cases same : found = ours
    · simp [same]
    · rw [if_pos same, Assoc.get?_set]
      by_cases here : kind' = kind
      · simp [here, same]
      · simp [here, Ne.symm here]

theorem run_reinstate (h : Unguarded registry e) {kind : EventKind} {ours : ToolHook}
    (known : (e.share registry).ours.get? kind = some ours) :
    (reinstate registry kind).run e = ((), retooled registry e e.hooks
      (e.facility.withCallback kind (some ours))
      (replaced (e.share registry) kind (e.facility.callback? Facility.profilerTool kind) ours)) := by
  have put := answer_facility (f := fun f => f.register Facility.profilerTool kind (some ours)) h
    .register (Facility.register_eq e.facility kind (some ours))
  have put : (register registry kind (some ours)).run.run e =
      (.ok (e.facility.callback? Facility.profilerTool kind), retooled registry e e.hooks
        (e.facility.withCallback kind (some ours)) (e.share registry)) := put
  unfold reinstate
  rw [run_state_bind run_shareOf, known]
  simp only
  rw [run_state_bind put]
  unfold replaced
  cases e.facility.callback? Facility.profilerTool kind with
  | none => exact run_modifyShare_retooled h _ _ _ _
  | some current =>
    simp only
    by_cases differ : current ≠ ours
    · rw [if_pos differ, if_pos differ]
      exact run_modifyShare_retooled h _ _ _ _
    · rw [if_neg differ, if_neg differ]
      rfl

/-- What putting the callbacks of some kinds back leaves. -/
structure Reinstated (kinds : List EventKind) (f : Facility) (s : ToolShare) (f' : Facility)
    (s' : ToolShare) : Prop where
  facility : f' = { f with callbacks := f'.callbacks }
  share : s' = { s with wrapped := s'.wrapped }
  callbacks : ∀ tool kind, f'.callback? tool kind =
    if tool = Facility.profilerTool ∧ kind ∈ kinds then s.ours.get? kind else f.callback? tool kind
  wrapped : ∀ kind, s'.wrapped.get? kind =
    if kind ∈ kinds ∧ f.callback? Facility.profilerTool kind ≠ s.ours.get? kind then
      f.callback? Facility.profilerTool kind
    else s.wrapped.get? kind

/-- A callback is put back before the others. -/
theorem Reinstated.cons {kind : EventKind} {rest : List EventKind} {f f' : Facility}
    {s s' : ToolShare} {ours : ToolHook} (distinct : kind ∉ rest) (mine : s.ours.get? kind = some ours)
    (put : Reinstated rest (f.withCallback kind (some ours))
      (replaced s kind (f.callback? Facility.profilerTool kind) ours) f' s') :
    Reinstated (kind :: rest) f s f' s' := by
  have same : (replaced s kind (f.callback? Facility.profilerTool kind) ours).ours = s.ours := rfl
  have callbacks := Facility.callback?_withCallback f kind (some ours)
  refine ⟨put.facility, put.share, fun tool k => ?_, fun k => ?_⟩
  · rw [put.callbacks, same, callbacks]
    by_cases at' : tool = Facility.profilerTool
    · by_cases here : k = kind
      · subst here
        rw [if_neg fun h => distinct h.2, if_pos ⟨at', rfl⟩, if_pos ⟨at', List.mem_cons_self⟩, mine]
      · simp only [at', true_and, List.mem_cons, here, false_or, if_false]
    · simp [at']
  · rw [put.wrapped, same, callbacks, replaced_get?]
    by_cases here : k = kind
    · subst here
      rw [if_neg fun h => distinct h.1]
      simp only [true_and, List.mem_cons_self, mine]
    · simp only [here, and_false, if_false, false_and, List.mem_cons, false_or]

/-- Callbacks are put back kind by kind. -/
theorem run_reinstate_all (kinds : List EventKind) (distinct : kinds.Nodup) (h : Unguarded registry e)
    (known : ∀ kind ∈ kinds, ((e.share registry).ours.get? kind).isSome) :
    ∃ f s, (kinds.forM (reinstate registry)).run e = ((), retooled registry e e.hooks f s) ∧
      Reinstated kinds e.facility (e.share registry) f s := by
  induction kinds generalizing e with
  | nil =>
    refine ⟨e.facility, e.share registry, ?_, rfl, rfl, fun _ _ => ?_, fun _ => ?_⟩
    · rw [retooled_share h]
      rfl
    · rw [if_neg fun h => by cases h.2]
    · rw [if_neg fun h => by cases h.1]
  | cons kind rest ih =>
    rw [List.nodup_cons] at distinct
    obtain ⟨ours, mine⟩ := Option.isSome_iff_exists.mp (known kind List.mem_cons_self)
    have first := run_reinstate h mine
    let f₁ := e.facility.withCallback kind (some ours)
    let s₁ := replaced (e.share registry) kind (e.facility.callback? Facility.profilerTool kind) ours
    have known₁ : ∀ k ∈ rest,
        (((retooled registry e e.hooks f₁ s₁).share registry).ours.get? k).isSome := by
      intro k mem
      rw [share_retooled h]
      exact known k (List.mem_cons_of_mem _ mem)
    obtain ⟨f, s, others, put⟩ := ih distinct.2 (h.retooled e.hooks f₁ s₁) known₁
    rw [share_retooled h] at put
    refine ⟨f, s, ?_, put.cons distinct.1 mine⟩
    change (reinstate registry kind >>= fun _ => rest.forM (reinstate registry)).run e = _
    rw [run_state_bind first, others, retooled_retooled]
    rfl

/-! ## The holder and the event set -/

/-- What a share keeps of a tool once the id was looked at: nothing if the tool let it go. -/
def since (s : ToolShare) (f : Facility) : ToolShare :=
  if (f.holder? Facility.profilerTool).isSome then s
  else { s with wrapped := {}, wrappedEvents := .empty, reclaimed := true }

theorem since_held {s : ToolShare} {f : Facility} (held : (f.holder? Facility.profilerTool).isSome) :
    since s f = s := if_pos held

theorem since_eq (s : ToolShare) (f : Facility) : since s f =
    { s with
      wrapped := (since s f).wrapped
      wrappedEvents := (since s f).wrappedEvents
      reclaimed := (since s f).reclaimed } := by
  unfold since
  split <;> rfl

theorem since_ours (s : ToolShare) (f : Facility) : (since s f).ours = s.ours := by
  rw [since_eq]

theorem since_wrapped {s : ToolShare} {f : Facility} {kind : EventKind} {hook : ToolHook}
    (there : (since s f).wrapped.get? kind = some hook) : s.wrapped.get? kind = some hook := by
  unfold since at there
  split at there
  · exact there
  · cases there

/-- What looking at the holder leaves of the facility `f`. -/
structure Reclaimed (f f' : Facility) : Prop where
  facility : f' = { f with holders := f'.holders }
  held : (f'.holder? Facility.profilerTool).isSome
  kept : (f.holder? Facility.profilerTool).isSome → f' = f

/-- The id has a holder afterwards. -/
theorem run_reclaim (h : Unguarded registry e) :
    ∃ f, (reclaim registry).run e =
        (true, retooled registry e e.hooks f (since (e.share registry) e.facility)) ∧
      Reclaimed e.facility f := by
  unfold reclaim since
  rw [run_state_bind (run_holder h)]
  by_cases held : (e.facility.holder? Facility.profilerTool).isSome
  · refine ⟨e.facility, ?_, rfl, held, fun _ => rfl⟩
    rw [if_pos held, if_pos held, retooled_share h]
    rfl
  · let f : Facility :=
      { e.facility with holders := e.facility.holders.set Facility.profilerTool toolName }
    let s₁ : ToolShare := { e.share registry with wrapped := {}, wrappedEvents := .empty }
    have h₁ := h.retooled e.hooks e.facility s₁
    have free : e.facility.holder? Facility.profilerTool = none := by
      rw [Option.not_isSome_iff_eq_none] at held
      exact held
    have claimed : (claim registry).run.run (retooled registry e e.hooks e.facility s₁) =
        (.ok (), retooled registry e e.hooks f s₁) := by
      have done : answer (claim registry) (retooled registry e e.hooks e.facility s₁) =
          (.ok (), retooled registry (retooled registry e e.hooks e.facility s₁) e.hooks f
            ((retooled registry e e.hooks e.facility s₁).share registry)) := by
        refine answer_facility h₁ .claim ?_
        change (Facility.claim e.facility _ _).map _ = _
        rw [Facility.claim_free free]
        rfl
      rw [share_retooled h, retooled_retooled] at done
      exact done
    refine ⟨f, ?_, rfl, ?_, fun some => absurd some held⟩
    · rw [if_neg held, if_neg held, run_state_bind (run_modifyShare h _), run_state_bind claimed]
      simp only
      rw [run_state_bind (run_modifyShare_retooled h _ _ _ _)]
      rfl
    · have there : f.holder? Facility.profilerTool = some toolName := Assoc.get?_set_self _ _ _
      rw [there]
      rfl

/-- The kinds that a tool is taken to subscribe to where the id has the set `events`: those it had
before, if these are what the profilers widened them to. -/
def follow (kept events : EventSet) : EventSet :=
  if events = kept.union ourEvents then kept else events

/-- What looking at the event set leaves: that of the wrapped tool with the profilers' kinds. -/
structure Resubscribed (f : Facility) (s : ToolShare) (f' : Facility) (s' : ToolShare) : Prop where
  facility : f' = { f with events := f'.events }
  share : s' = { s with wrappedEvents := s'.wrappedEvents }
  widened : f'.eventsOf Facility.profilerTool = s'.wrappedEvents.union ourEvents
  followed : s'.wrappedEvents = follow s.wrappedEvents (f.eventsOf Facility.profilerTool)

/-- The event set is widened again. -/
theorem run_resubscribe (h : Unguarded registry e)
    (held : (e.facility.holder? Facility.profilerTool).isSome) :
    ∃ f s, (resubscribe registry).run e = ((), retooled registry e e.hooks f s) ∧
      Resubscribed e.facility (e.share registry) f s := by
  have same : retooled registry e e.hooks e.facility (e.share registry) = e := retooled_share h _ _
  have got : (getEvents registry).run.run e = (.ok (e.facility.eventsOf Facility.profilerTool), e) := by
    have read := answer_getEvents h e.hooks e.facility (e.share registry)
    rw [same] at read
    exact read
  unfold resubscribe
  rw [run_state_bind run_shareOf, run_state_bind got]
  simp only
  by_cases kept : e.facility.eventsOf Facility.profilerTool ≠
    (e.share registry).wrappedEvents.union ourEvents
  · let s : ToolShare :=
      { e.share registry with wrappedEvents := e.facility.eventsOf Facility.profilerTool }
    have set := answer_setEvents h e.hooks e.facility s held (s.wrappedEvents.union ourEvents)
    refine ⟨_, s, ?_, rfl, rfl, Facility.eventsOf_set _, (if_neg kept).symm⟩
    rw [if_pos kept, run_state_bind (run_modifyShare h _)]
    exact congrArg (Prod.mk () ∘ Prod.snd) set
  · refine ⟨e.facility, e.share registry, ?_, rfl, rfl, Decidable.not_not.mp kept,
      (if_pos (Decidable.not_not.mp kept)).symm⟩
    rw [if_neg kept, same]
    rfl

/-! ## Everything at once -/

/-- What looking at the id leaves. -/
structure Absorbs (registry : RegistryId) (f : Facility) (s : ToolShare) (f' : Facility)
    (s' : ToolShare) : Prop where
  held : f'.Held registry s'
  holder : (f.holder? Facility.profilerTool).isSome →
    f'.holder? Facility.profilerTool = f.holder? Facility.profilerTool
  others : ∀ tool kind, ¬ (tool = Facility.profilerTool ∧ kind ∈ ourKinds) →
    f'.callback? tool kind = f.callback? tool kind
  disabled : f'.disabled = f.disabled
  restarts : f'.restarts = f.restarts
  share : s' = { since s f with wrapped := s'.wrapped, wrappedEvents := s'.wrappedEvents }
  wrapped : ∀ kind, s'.wrapped.get? kind =
    if kind ∈ ourKinds ∧ f.callback? Facility.profilerTool kind ≠ s.ours.get? kind then
      f.callback? Facility.profilerTool kind
    else (since s f).wrapped.get? kind
  events : s'.wrappedEvents =
    follow (since s f).wrappedEvents (f.eventsOf Facility.profilerTool)

namespace Absorbs

variable {f f' : Facility} {s s' : ToolShare}

/-- The holder is looked at, then the callbacks, and then the event set. -/
theorem of_steps {f₁ f₂ : Facility} {s₂ : ToolShare} (armed : s.Armed registry)
    (reclaimed : Reclaimed f f₁) (put : Reinstated ourKinds f₁ (since s f) f₂ s₂)
    (follows : Resubscribed f₂ s₂ f' s') : Absorbs registry f s f' s' := by
  have holder : f'.holder? Facility.profilerTool = f₁.holder? Facility.profilerTool := by
    rw [follows.facility]
    show f₂.holder? _ = _
    rw [put.facility]
    rfl
  have callbacks : ∀ tool kind, f'.callback? tool kind = f₂.callback? tool kind := by
    rw [follows.facility]
    exact fun _ _ => rfl
  have before : ∀ tool kind, f₁.callback? tool kind = f.callback? tool kind := by
    rw [reclaimed.facility]
    exact fun _ _ => rfl
  have sets : f₂.eventsOf Facility.profilerTool = f.eventsOf Facility.profilerTool := by
    rw [put.facility]
    show f₁.eventsOf _ = _
    rw [reclaimed.facility]
    rfl
  have ours : s'.ours = s.ours := by
    rw [follows.share, put.share]
    exact since_ours s f
  refine ⟨⟨?_, fun kind mem => ?_, follows.widened⟩, fun some => ?_, fun tool kind out => ?_, ?_, ?_, ?_,
    fun kind => ?_, ?_⟩
  · rw [holder]
    exact reclaimed.held
  · obtain ⟨serial, there⟩ := armed kind mem
    refine ⟨serial, ?_, ?_⟩
    · rw [callbacks, put.callbacks, if_pos ⟨rfl, mem⟩, since_ours]
      exact there
    · rw [ours]
      exact there
  · rw [holder, reclaimed.kept some]
  · rw [callbacks, put.callbacks, if_neg out, before]
  · rw [follows.facility]
    show f₂.disabled = _
    rw [put.facility]
    show f₁.disabled = _
    rw [reclaimed.facility]
  · rw [follows.facility]
    show f₂.restarts = _
    rw [put.facility]
    show f₁.restarts = _
    rw [reclaimed.facility]
  · rw [follows.share, put.share]
  · have same : s'.wrapped = s₂.wrapped := by rw [follows.share]
    rw [same, put.wrapped, before, since_ours]
  · have kept : s₂.wrappedEvents = (since s f).wrappedEvents := by rw [put.share]
    rw [follows.followed, sets, kept]

theorem threads (h : Absorbs registry f s f' s') : s'.threads = s.threads := by
  rw [h.share, since_eq]

theorem off (h : Absorbs registry f s f' s') : s'.disabled = s.disabled := by
  rw [h.share, since_eq]

theorem seen (h : Absorbs registry f s f' s') : s'.seenRestart = s.seenRestart := by
  rw [h.share, since_eq]

/-- What is wrapped after that was wrapped before, or is the callback that was found. -/
theorem of_wrapped (h : Absorbs registry f s f' s') {kind : EventKind} {hook : ToolHook}
    (there : s'.wrapped.get? kind = some hook) : s.wrapped.get? kind = some hook ∨
      kind ∈ ourKinds ∧ f.callback? Facility.profilerTool kind = some hook := by
  rw [h.wrapped] at there
  split at there
  · rename_i found
    exact .inr ⟨found.1, there⟩
  · exact .inl (since_wrapped there)

end Absorbs

/-- **Whatever was done to the id, it is held again.** -/
theorem run_absorbTool (h : Unguarded registry e) (armed : (e.share registry).Armed registry) :
    ∃ f s, (absorbTool registry).run e = ((), retooled registry e e.hooks f s) ∧
      Absorbs registry e.facility (e.share registry) f s := by
  have some : (e.share registry).ours.entries.isEmpty = false := by
    obtain ⟨serial, known⟩ := armed .line (by decide)
    cases entries : (e.share registry).ours.entries with
    | nil =>
      unfold Assoc.get? at known
      rw [entries] at known
      cases known
    | cons entry rest => rfl
  let s₁ := since (e.share registry) e.facility
  obtain ⟨f₁, reclaimed, holds⟩ := run_reclaim h
  have known : ∀ kind ∈ ourKinds,
      (((retooled registry e e.hooks f₁ s₁).share registry).ours.get? kind).isSome := by
    intro kind mem
    obtain ⟨serial, there⟩ := armed kind mem
    rw [share_retooled h, since_ours, there]
    rfl
  obtain ⟨f₂, s₂, reinstated, put⟩ :=
    run_reinstate_all ourKinds (by decide) (h.retooled e.hooks f₁ s₁) known
  rw [share_retooled h] at put
  rw [retooled_retooled] at reinstated
  have held : ((retooled registry e e.hooks f₂ s₂).facility.holder? Facility.profilerTool).isSome := by
    change (f₂.holder? Facility.profilerTool).isSome
    rw [put.facility]
    exact holds.held
  obtain ⟨f, s, resubscribed, follows⟩ := run_resubscribe (h.retooled e.hooks f₂ s₂) held
  rw [share_retooled h] at follows
  rw [retooled_retooled] at resubscribed
  refine ⟨f, s, ?_, .of_steps armed holds put follows⟩
  unfold absorbTool
  rw [run_state_bind run_shareOf, if_neg (by rw [some]; exact Bool.false_ne_true),
    run_state_bind reclaimed]
  simp only [if_true]
  rw [run_state_bind reinstated]
  exact resubscribed

/-- Where the id is held already, there is nothing to undo. -/
theorem run_absorbTool_held (h : Unguarded registry e)
    (held : e.facility.Held registry (e.share registry)) : (absorbTool registry).run e = ((), e) := by
  have same : retooled registry e e.hooks e.facility (e.share registry) = e := retooled_share h _ _
  have reinstated : ∀ kinds : List EventKind, (∀ kind ∈ kinds, kind ∈ ourKinds) →
      (kinds.forM (reinstate registry)).run e = ((), e) := by
    intro kinds
    induction kinds with
    | nil => exact fun _ => rfl
    | cons kind rest ih =>
      intro ours
      obtain ⟨serial, there, known⟩ := held.ours kind (ours kind List.mem_cons_self)
      have put : e.facility.withCallback kind (some (.profiler registry serial)) = e.facility := by
        unfold Facility.withCallback
        simp only
        rw [Assoc.set_get? there]
      have first := run_reinstate h known
      have kept : replaced (e.share registry) kind (some (.profiler registry serial))
          (.profiler registry serial) = e.share registry := by
        unfold replaced
        simp
      rw [put, there, kept, same] at first
      change (reinstate registry kind >>= fun _ => rest.forM (reinstate registry)).run e = _
      rw [run_state_bind first]
      exact ih fun k mem => ours k (List.mem_cons_of_mem _ mem)
  have reclaimed : (reclaim registry).run e = (true, e) := by
    unfold reclaim
    rw [run_state_bind (run_holder h), if_pos held.holder]
    rfl
  have resubscribed : (resubscribe registry).run e = ((), e) := by
    have got := answer_getEvents h e.hooks e.facility (e.share registry)
    rw [same] at got
    have got : (getEvents registry).run.run e = (.ok (e.facility.eventsOf Facility.profilerTool), e) :=
      got
    unfold resubscribe
    rw [run_state_bind run_shareOf, run_state_bind got]
    simp only
    rw [if_neg (Decidable.not_not.mpr held.events)]
    rfl
  unfold absorbTool
  rw [run_state_bind run_shareOf]
  split
  · rfl
  · rw [run_state_bind reclaimed]
    simp only [if_true]
    rw [run_state_bind (reinstated ourKinds fun _ mem => mem), resubscribed]

/-- An action of a wrapped callback is absorbed. -/
theorem answer_absorbEvent (h : Unguarded registry e) (armed : (e.share registry).Armed registry)
    (event : MonitorEvent) (action : MonitorAction) :
    ∃ f s, answer (absorbEvent registry event (.ok action)) e =
        (.ok .goOn, (retooled registry e e.hooks f (s.answered event action)).withDispatch registry
          { e.dispatchOf registry with busy := false }) ∧
      Absorbs registry e.facility (e.share registry) f s := by
  obtain ⟨f, s, absorbed, absorbs⟩ := run_absorbTool h armed
  refine ⟨f, s, ?_, absorbs⟩
  unfold absorbEvent ToolShare.answered
  rw [answer_liftM_bind absorbed]
  simp only
  by_cases off : action = .disable ∧ event.kind.canDisable = true
  · rw [if_pos off, if_pos off, answer_liftM_bind (run_modifyShare_retooled h _ _ _ _)]
    rfl
  · rw [if_neg off, if_neg off]
    rfl

end Engine

end LineClock

import LineClock.Proofs.Engine.ToolShare

/-!
# Taking the tool id over and giving it back

What a registry leaves when it takes the profilers' tool id over, from another tool or from nobody,
and when it gives the id back, whatever is registered there.

Main statements: `answer_install`, `answer_uninstall_free` and `answer_uninstall_back`.
-/

namespace LineClock

open Machine Engine

namespace Facility

variable {f : Facility}

/-- The facility with a callback, or none, under the profilers' id. -/
def withCallback (f : Facility) (kind : EventKind) (hook : Option ToolHook) : Facility :=
  { f with
    callbacks :=
      match hook with
      | some h => f.callbacks.set (profilerTool, kind) h
      | none => f.callbacks.erase (profilerTool, kind) }

theorem register_eq (f : Facility) (kind : EventKind) (hook : Option ToolHook) :
    f.register profilerTool kind hook =
      .ok (f.callback? profilerTool kind, f.withCallback kind hook) := by
  cases hook <;> rfl

/-- The callbacks after one was registered. -/
theorem callback?_withCallback (f : Facility) (kind : EventKind) (hook : Option ToolHook)
    (tool : ToolId) (kind' : EventKind) :
    (f.withCallback kind hook).callback? tool kind' =
      if tool = profilerTool ∧ kind' = kind then hook else f.callback? tool kind' := by
  by_cases here : tool = profilerTool ∧ kind' = kind
  · obtain ⟨rfl, rfl⟩ := here
    rw [if_pos ⟨rfl, rfl⟩]
    cases hook with
    | some h => exact Assoc.get?_set_self _ _ _
    | none => exact (Assoc.get?_erase _ _ _).trans (if_pos rfl)
  · rw [if_neg here]
    have differ : (tool, kind') ≠ (profilerTool, kind) := by
      rintro ⟨⟩
      exact here ⟨rfl, rfl⟩
    cases hook with
    | some h => exact (Assoc.get?_set _ _ _ _).trans (if_neg differ.symm)
    | none => exact (Assoc.get?_erase _ _ _).trans (if_neg differ.symm)

theorem claim_free (h : f.holder? profilerTool = none) (name : String) :
    f.claim profilerTool name = .ok { f with holders := f.holders.set profilerTool name } := by
  have inside : check profilerTool = .ok () := rfl
  unfold claim
  rw [inside, h]
  rfl

theorem setEvents_held (h : (f.holder? profilerTool).isSome) (events : EventSet) :
    f.setEvents profilerTool events = .ok { f with events := f.events.set profilerTool events } := by
  have inside : check profilerTool = .ok () := rfl
  obtain ⟨name, there⟩ := Option.isSome_iff_exists.mp h
  unfold setEvents
  rw [inside, there]
  rfl

theorem eventsOf_set (events : EventSet) :
    ({ f with events := f.events.set profilerTool events } : Facility).eventsOf profilerTool =
      events := by
  have read : ({ f with events := f.events.set profilerTool events } : Facility).eventsOf
    profilerTool = (f.events.set profilerTool events).getD profilerTool .empty := rfl
  rw [read, Assoc.getD_set, if_pos rfl]

/-- After an id was let go, no callback is left there. -/
theorem callback?_free (f : Facility) {freed : ToolId} (tool : ToolId) (kind : EventKind) :
    (f.free freed).callback? tool kind = if tool = freed then none else f.callback? tool kind := by
  change Assoc.find? (tool, kind) (f.callbacks.entries.filter fun e => e.1.1 ≠ freed) =
    if tool = freed then none else Assoc.find? (tool, kind) f.callbacks.entries
  generalize f.callbacks.entries = l
  induction l with
  | nil => simp [Assoc.find?]
  | cons entry rest ih =>
    obtain ⟨⟨tool', kind'⟩, hook⟩ := entry
    by_cases at' : tool' = freed
    · rw [List.filter_cons_of_neg (by simp [at']), ih]
      split
      · rfl
      · rename_i other
        have differ : (tool', kind') ≠ (tool, kind) := by
          rintro ⟨⟩
          exact other at'
        simp [Assoc.find?, differ]
    · rw [List.filter_cons_of_pos (by simp [at'])]
      by_cases same : (tool', kind') = (tool, kind)
      · cases same
        simp [Assoc.find?, at']
      · simp only [Assoc.find?, same, if_false]
        exact ih

theorem holder?_free (f : Facility) : (f.free profilerTool).holder? profilerTool = none := by
  have read : (f.free profilerTool).holder? profilerTool =
    (f.holders.erase profilerTool).get? profilerTool := rfl
  rw [read, Assoc.get?_erase, if_pos rfl]

theorem mem_disabled_free {f : Facility} {d : ToolId × Location}
    (h : d ∈ (f.free profilerTool).disabled) : d ∈ f.disabled := (List.mem_filter.mp h).1

end Facility

/-- Where the wrapped tool wants to hear no more, as far as nothing was restarted since. -/
def ToolShare.stillOff (s : ToolShare) (restarts : Nat) : List Location :=
  if s.seenRestart = restarts then s.disabled else []

theorem ToolShare.stillOff_of_seen {s : ToolShare} {restarts : Nat} (seen : s.seenRestart = restarts) :
    s.stillOff restarts = s.disabled := if_pos seen

theorem ToolShare.stillOff_of_nothing {s : ToolShare} (nothing : s.disabled = []) (restarts : Nat) :
    s.stillOff restarts = [] := by
  unfold stillOff
  rw [nothing]
  exact ite_self _

namespace Engine

variable {registry : RegistryId} {e : Engine}

/-! ## Taking the id over -/

/-- What taking the callbacks of some kinds over leaves. -/
structure Taken (registry : RegistryId) (kinds : List EventKind) (f : Facility) (s : ToolShare)
    (f' : Facility) (s' : ToolShare) : Prop where
  facility : f' = { f with callbacks := f'.callbacks }
  share : s' = { s with ours := s'.ours, wrapped := s'.wrapped }
  others : ∀ tool kind, ¬ (tool = Facility.profilerTool ∧ kind ∈ kinds) →
    f'.callback? tool kind = f.callback? tool kind
  ours : ∀ kind ∈ kinds, ∃ serial,
    f'.callback? Facility.profilerTool kind = some (.profiler registry serial) ∧
      s'.ours.get? kind = some (.profiler registry serial)
  kept : ∀ kind, kind ∉ kinds → s'.ours.get? kind = s.ours.get? kind
  wrapped : ∀ kind, s'.wrapped.get? kind =
    if kind ∈ kinds then (f.callback? Facility.profilerTool kind).or (s.wrapped.get? kind)
    else s.wrapped.get? kind

/-- A hook that was there is noted for a kind. -/
def noted (s : ToolShare) (kind : EventKind) (previous : Option ToolHook) (ours : ToolHook) :
    ToolShare :=
  { s with
    wrapped := match previous with
      | some hook => s.wrapped.set kind hook
      | none => s.wrapped
    ours := s.ours.set kind ours }

theorem noted_wrapped (s : ToolShare) (kind : EventKind) (previous : Option ToolHook)
    (ours : ToolHook) (kind' : EventKind) : (noted s kind previous ours).wrapped.get? kind' =
      if kind = kind' then previous.or (s.wrapped.get? kind) else s.wrapped.get? kind' := by
  cases previous with
  | some hook => exact Assoc.get?_set _ _ _ _
  | none =>
    show s.wrapped.get? kind' = _
    by_cases same : kind = kind'
    · rw [if_pos same, same, Option.none_or]
    · rw [if_neg same]

theorem answer_takeOver (h : Unguarded registry e) (kind : EventKind) :
    answer (takeOver registry kind) e =
      (.ok (), retooled registry e (e.hooks + 1)
        (e.facility.withCallback kind (some (.profiler registry e.hooks)))
        (noted (e.share registry) kind (e.facility.callback? Facility.profilerTool kind)
          (.profiler registry e.hooks))) := by
  let e₁ : Engine := { e with hooks := e.hooks + 1 }
  have h₁ : Unguarded registry e₁ := h.same rfl rfl
  have serial : (newSerial).run e = (e.hooks, e₁) := rfl
  have put : answer (register registry kind (some (.profiler registry e.hooks))) e₁ =
      (.ok (e.facility.callback? Facility.profilerTool kind), retooled registry e₁ e₁.hooks
        (e.facility.withCallback kind (some (.profiler registry e.hooks))) (e₁.share registry)) :=
    answer_facility h₁ .register (Facility.register_eq e.facility kind _)
  unfold takeOver
  rw [answer_liftM_bind serial, answer_bind_ok put, answer_liftM,
    run_modifyShare (h₁.retooled _ _ _), share_retooled h₁, retooled_retooled]
  rfl

/-- A callback is taken over before the others. -/
theorem Taken.cons {kind : EventKind} {rest : List EventKind} {f f' : Facility} {s s' : ToolShare}
    {serial : Nat} (distinct : kind ∉ rest)
    (taken : Taken registry rest (f.withCallback kind (some (.profiler registry serial)))
      (noted s kind (f.callback? Facility.profilerTool kind) (.profiler registry serial)) f' s') :
    Taken registry (kind :: rest) f s f' s' := by
  have callbacks := Facility.callback?_withCallback f kind (some (.profiler registry serial))
  have mine : ∀ kind', (noted s kind (f.callback? Facility.profilerTool kind)
      (.profiler registry serial)).ours.get? kind' =
        if kind = kind' then some (.profiler registry serial) else s.ours.get? kind' :=
    fun _ => Assoc.get?_set _ _ _ _
  refine ⟨taken.facility, taken.share, fun tool k out => ?_, fun k mem => ?_, fun k out => ?_,
    fun k => ?_⟩
  · rw [taken.others tool k fun h => out ⟨h.1, List.mem_cons_of_mem _ h.2⟩, callbacks, if_neg]
    rintro ⟨tool', rfl⟩
    exact out ⟨tool', List.mem_cons_self⟩
  · rcases List.mem_cons.mp mem with rfl | mem
    · refine ⟨serial, ?_, ?_⟩
      · rw [taken.others _ _ fun h => distinct h.2, callbacks, if_pos ⟨rfl, rfl⟩]
      · rw [taken.kept _ distinct, mine, if_pos rfl]
    · exact taken.ours k mem
  · rw [List.mem_cons, not_or] at out
    rw [taken.kept k out.2, mine, if_neg (Ne.symm out.1)]
  · rw [taken.wrapped, noted_wrapped]
    by_cases here : kind = k
    · subst here
      rw [if_neg distinct, if_pos rfl, if_pos List.mem_cons_self]
    · have differ : k ≠ kind := Ne.symm here
      have skip : ¬ (Facility.profilerTool = Facility.profilerTool ∧ k = kind) := fun h => differ h.2
      rw [callbacks, if_neg skip, if_neg here]
      by_cases mem : k ∈ rest
      · rw [if_pos mem, if_pos (List.mem_cons_of_mem _ mem)]
      · rw [if_neg mem, if_neg (by simp [differ, mem])]

/-- Callbacks are taken over kind by kind. -/
theorem answer_takeOver_all (kinds : List EventKind) (distinct : kinds.Nodup)
    (h : Unguarded registry e) :
    ∃ hooks f s, answer (kinds.forM (takeOver registry)) e = (.ok (), retooled registry e hooks f s) ∧
      Taken registry kinds e.facility (e.share registry) f s := by
  induction kinds generalizing e with
  | nil =>
    refine ⟨e.hooks, e.facility, e.share registry, ?_, rfl, rfl, fun _ _ _ => rfl,
      fun _ mem => (by cases mem), fun _ _ => rfl, fun _ => rfl⟩
    rw [retooled_share h]
    rfl
  | cons kind rest ih =>
    rw [List.nodup_cons] at distinct
    have first := answer_takeOver h kind
    obtain ⟨hooks, f, s, others, taken⟩ := ih distinct.2 (h.retooled (e.hooks + 1)
      (e.facility.withCallback kind (some (.profiler registry e.hooks)))
      (noted (e.share registry) kind (e.facility.callback? Facility.profilerTool kind)
        (.profiler registry e.hooks)))
    rw [share_retooled h] at taken
    refine ⟨hooks, f, s, ?_, taken.cons distinct.1⟩
    change answer (takeOver registry kind >>= fun _ => rest.forM (takeOver registry)) e = _
    rw [answer_bind_ok first, others, retooled_retooled]

/-- What installing leaves: the callbacks and the event set that were there are taken over. -/
structure Installs (registry : RegistryId) (f : Facility) (s : ToolShare) (f' : Facility)
    (s' : ToolShare) : Prop where
  holder : f'.holder? Facility.profilerTool =
    some ((f.holder? Facility.profilerTool).getD toolName)
  others : ∀ tool kind, ¬ (tool = Facility.profilerTool ∧ kind ∈ ourKinds) →
    f'.callback? tool kind = f.callback? tool kind
  events : f'.eventsOf Facility.profilerTool = s'.wrappedEvents.union ourEvents
  disabled : f'.disabled = f.disabled
  restarts : f'.restarts = f.restarts
  ours : ∀ kind ∈ ourKinds, ∃ serial,
    f'.callback? Facility.profilerTool kind = some (.profiler registry serial) ∧
      s'.ours.get? kind = some (.profiler registry serial)
  threads : s'.threads = s.threads
  owned : s'.owned = (f.holder? Facility.profilerTool).isNone
  reclaimed : s'.reclaimed = false
  wrapped : ∀ kind, s'.wrapped.get? kind =
    if kind ∈ ourKinds then f.callback? Facility.profilerTool kind else none
  wrappedEvents : s'.wrappedEvents =
    if (f.holder? Facility.profilerTool).isSome then f.eventsOf Facility.profilerTool else .empty
  off : s'.disabled = []
  seen : s'.seenRestart = f.restarts

/-- What claiming the id leaves of the facility `f`, or sharing it. -/
structure Claimed (f f' : Facility) : Prop where
  facility : f' = { f with holders := f'.holders }
  holder : f'.holder? Facility.profilerTool =
    some ((f.holder? Facility.profilerTool).getD toolName)

/-- The id is claimed if nobody holds it. -/
theorem answer_claimOrShare (h : Unguarded registry e) :
    ∃ f, answer (claimOrShare registry) e =
        (.ok (e.facility.holder? Facility.profilerTool).isNone,
          retooled registry e e.hooks f (e.share registry)) ∧
      Claimed e.facility f := by
  unfold claimOrShare
  rw [answer_liftM_bind (run_holder h)]
  cases held : e.facility.holder? Facility.profilerTool with
  | some name =>
    refine ⟨e.facility, ?_, rfl, ?_⟩
    · rw [retooled_share h]
      rfl
    · rw [held]
      rfl
  | none =>
    let f : Facility :=
      { e.facility with holders := e.facility.holders.set Facility.profilerTool toolName }
    have holder : f.holder? Facility.profilerTool = some toolName := Assoc.get?_set_self _ _ _
    refine ⟨f, ?_, rfl, by rw [holder, held]; rfl⟩
    have claimed : answer (claim registry) e =
        (.ok (), retooled registry e e.hooks f (e.share registry)) := by
      refine answer_facility h .claim ?_
      rw [Facility.claim_free held]
      rfl
    have both : answer (do claim registry; return true) e =
        (.ok true, retooled registry e e.hooks f (e.share registry)) := by
      rw [answer_bind_ok claimed]
      rfl
    change answer (tryCatch (do claim registry; return true) _) e = _
    rw [answer_tryCatch, both]
    rfl

theorem answer_setEvents (h : Unguarded registry e) (hooks : Nat) (f : Facility) (s : ToolShare)
    (held : (f.holder? Facility.profilerTool).isSome) (events : EventSet) :
    answer (setEvents registry events) (retooled registry e hooks f s) = (.ok (),
      retooled registry e hooks { f with events := f.events.set Facility.profilerTool events } s) := by
  have set := answer_facility (f := fun f =>
      (f.setEvents Facility.profilerTool events).map fun f => ((), f))
    (h.retooled hooks f s) .setEvents (congrArg (Except.map fun f => ((), f))
      (Facility.setEvents_held held events))
  rw [share_retooled h, retooled_retooled] at set
  exact set

theorem answer_register (h : Unguarded registry e) (hooks : Nat) (f : Facility) (s : ToolShare)
    (kind : EventKind) (hook : Option ToolHook) :
    answer (register registry kind hook) (retooled registry e hooks f s) =
      (.ok (f.callback? Facility.profilerTool kind),
        retooled registry e hooks (f.withCallback kind hook) s) := by
  have put := answer_facility (f := fun f => f.register Facility.profilerTool kind hook)
    (h.retooled hooks f s) .register (Facility.register_eq f kind hook)
  rw [share_retooled h, retooled_retooled] at put
  exact put

theorem answer_getEvents (h : Unguarded registry e) (hooks : Nat) (f : Facility) (s : ToolShare) :
    answer (getEvents registry) (retooled registry e hooks f s) =
      (.ok (f.eventsOf Facility.profilerTool), retooled registry e hooks f s) := by
  have got := answer_facility (f := fun f =>
      (f.getEvents Facility.profilerTool).map fun s => (s, f)) (a := f.eventsOf Facility.profilerTool)
    (h.retooled hooks f s) .getEvents rfl
  rw [share_retooled h, retooled_retooled] at got
  exact got

/-- What the registry keeps of the id when it begins to take it over. -/
def emptied (s : ToolShare) : ToolShare :=
  { s with ours := {}, wrapped := {}, disabled := [], reclaimed := false }

/-- The part of installing after the id was claimed or shared, with the kinds of the tool before. -/
def taking (registry : RegistryId) (prior : EventSet) : ExceptT HostError (StateM Engine) Unit := do
  (modifyShare registry fun s =>
    { s with ours := {}, wrapped := {}, disabled := [], reclaimed := false } : StateM Engine Unit)
  ourKinds.forM (takeOver registry)
  let restarts := (← get).facility.restarts
  (modifyShare registry fun s =>
    { s with wrappedEvents := prior, seenRestart := restarts } : StateM Engine Unit)
  setEvents registry (prior.union ourEvents)

/-- The part of installing after the id was claimed or shared. -/
def installing (registry : RegistryId) (owned : Bool) : ExceptT HostError (StateM Engine) Unit := do
  (modifyShare registry fun s => { s with owned } : StateM Engine Unit)
  let prior ← (if owned then pure .empty else getEvents registry)
  taking registry prior

theorem install_eq (registry : RegistryId) :
    install registry = claimOrShare registry >>= installing registry := by
  unfold install
  refine congrArg (claimOrShare registry >>= ·) ?_
  funext owned
  cases owned <;> rfl

/-- The callbacks are taken over, and then the kinds are set. -/
theorem answer_taking (h : Unguarded registry e)
    (held : (e.facility.holder? Facility.profilerTool).isSome) (prior : EventSet) :
    ∃ hooks f s, answer (taking registry prior) e = (.ok (), retooled registry e hooks
        { f with events := f.events.set Facility.profilerTool (prior.union ourEvents) }
        { s with wrappedEvents := prior, seenRestart := f.restarts }) ∧
      Taken registry ourKinds e.facility (emptied (e.share registry)) f s := by
  obtain ⟨hooks, f, s, all, taken⟩ := answer_takeOver_all ourKinds (by decide)
    (h.retooled e.hooks e.facility (emptied (e.share registry)))
  rw [share_retooled h] at taken
  rw [retooled_retooled] at all
  have isHeld : (f.holder? Facility.profilerTool).isSome := by
    rw [taken.facility]
    exact held
  refine ⟨hooks, f, s, ?_, taken⟩
  unfold taking
  rw [answer_liftM_bind (run_modifyShare h _)]
  change answer (_ >>= _) (retooled registry e e.hooks e.facility (emptied (e.share registry))) = _
  rw [answer_bind_ok all, answer_get_bind, answer_liftM_bind (run_modifyShare_retooled h _ _ _ _)]
  exact answer_setEvents h hooks f _ isHeld _

/-- What is left when the id was claimed or shared, the callbacks taken over and the kinds set. -/
theorem Installs.of_steps {f f₁ f₂ : Facility} {s s₂ : ToolShare} (claimed : Claimed f f₁)
    (taken : Taken registry ourKinds f₁
      (emptied { s with owned := (f.holder? Facility.profilerTool).isNone }) f₂ s₂)
    (prior : EventSet) (before : prior =
      if (f.holder? Facility.profilerTool).isNone then .empty else f₁.eventsOf Facility.profilerTool) :
    Installs registry f s
      { f₂ with events := f₂.events.set Facility.profilerTool (prior.union ourEvents) }
      { s₂ with wrappedEvents := prior, seenRestart := f₂.restarts } := by
  have callbacks : ∀ tool kind, f₁.callback? tool kind = f.callback? tool kind := by
    rw [claimed.facility]
    exact fun _ _ => rfl
  have restarts : f₂.restarts = f.restarts := by
    rw [taken.facility]
    show f₁.restarts = _
    rw [claimed.facility]
  refine ⟨?_, fun tool kind out => ?_, Facility.eventsOf_set _, ?_, restarts, taken.ours, ?_, ?_, ?_,
    fun kind => ?_, ?_, ?_, restarts⟩
  · have same : f₂.holder? Facility.profilerTool = f₁.holder? Facility.profilerTool := by
      rw [taken.facility]
      rfl
    exact same.trans claimed.holder
  · exact (taken.others tool kind out).trans (callbacks tool kind)
  · show f₂.disabled = _
    rw [taken.facility]
    show f₁.disabled = _
    rw [claimed.facility]
  · show s₂.threads = _
    rw [taken.share]
    rfl
  · show s₂.owned = _
    rw [taken.share]
    rfl
  · show s₂.reclaimed = _
    rw [taken.share]
    rfl
  · refine (taken.wrapped kind).trans ?_
    rw [callbacks]
    split
    · exact Option.or_none
    · rfl
  · have events : f₁.eventsOf Facility.profilerTool = f.eventsOf Facility.profilerTool := by
      rw [claimed.facility]
      rfl
    show prior = _
    rw [before, events]
    cases f.holder? Facility.profilerTool <;> rfl
  · show s₂.disabled = _
    rw [taken.share]
    rfl

/-- **Taking the id over.** -/
theorem answer_install (h : Unguarded registry e) :
    ∃ hooks f s, answer (install registry) e = (.ok (), retooled registry e hooks f s) ∧
      Installs registry e.facility (e.share registry) f s := by
  obtain ⟨f₁, claims, claimed⟩ := answer_claimOrShare h
  have held : (f₁.holder? Facility.profilerTool).isSome := by
    rw [claimed.holder]
    rfl
  generalize shown : (e.facility.holder? Facility.profilerTool).isNone = owned at claims
  let s₁ : ToolShare := { e.share registry with owned }
  let prior : EventSet := if owned then .empty else f₁.eventsOf Facility.profilerTool
  obtain ⟨hooks, f, s, took, taken⟩ := answer_taking (h.retooled e.hooks f₁ s₁) held prior
  rw [share_retooled h] at taken
  rw [retooled_retooled] at took
  refine ⟨hooks, _, _, ?_, .of_steps claimed (by rw [shown]; exact taken) prior (by rw [shown])⟩
  rw [install_eq, answer_bind_ok claims]
  unfold installing
  rw [answer_liftM_bind (run_modifyShare_retooled h _ _ _ _)]
  cases owned with
  | true => exact took
  | false => exact (answer_bind_ok (answer_getEvents h e.hooks f₁ s₁) _).trans took

/-! ## Giving the id back -/

/-- An id that was claimed for the profilers is let go. -/
theorem answer_uninstall_free (h : Unguarded registry e)
    (own : (e.share registry).owned = true ∨ (e.share registry).reclaimed = true) :
    answer (uninstall registry) e = (.ok (),
      retooled registry e e.hooks (e.facility.free Facility.profilerTool)
        { e.share registry with ours := {}, disabled := [], wrapped := {} }) := by
  unfold uninstall
  rw [answer_liftM_bind run_shareOf, answer_liftM_bind (run_modifyShare h _), if_pos own,
    answer_liftM_bind (run_modifyShare_retooled h _ _ _ _)]
  rfl

/-- What giving the callbacks of some kinds back leaves. -/
structure Back (registry : RegistryId) (off : List Location) (kinds : List EventKind) (f : Facility)
    (s : ToolShare) (f' : Facility) (s' : ToolShare) : Prop where
  facility : f' = { f with callbacks := f'.callbacks }
  share : s' = { s with wrapped := s'.wrapped }
  callbacks : ∀ tool kind, f'.callback? tool kind =
    if tool = Facility.profilerTool ∧ kind ∈ kinds then
      (s.wrapped.get? kind).map (restored registry kind · off f.restarts)
    else f.callback? tool kind
  wrapped : ∀ kind, s'.wrapped.get? kind = if kind ∈ kinds then none else s.wrapped.get? kind

theorem answer_giveBack (h : Unguarded registry e) (off : List Location) (kind : EventKind) :
    answer (giveBack registry off e.facility.restarts kind) e = (.ok (), retooled registry e e.hooks
      (e.facility.withCallback kind (((e.share registry).wrapped.get? kind).map
        (restored registry kind · off e.facility.restarts)))
      { e.share registry with wrapped := (e.share registry).wrapped.erase kind }) := by
  unfold giveBack
  rw [answer_liftM_bind run_shareOf, answer_liftM_bind (run_modifyShare h _), answer_discard,
    answer_register h]

/-- A callback is given back before the others. -/
theorem Back.cons {off : List Location} {kind : EventKind} {rest : List EventKind} {f f' : Facility}
    {s s' : ToolShare} (distinct : kind ∉ rest)
    (back : Back registry off rest (f.withCallback kind ((s.wrapped.get? kind).map
        (restored registry kind · off f.restarts))) { s with wrapped := s.wrapped.erase kind } f' s') :
    Back registry off (kind :: rest) f s f' s' := by
  have theirs : ∀ kind', (s.wrapped.erase kind).get? kind' =
      if kind = kind' then none else s.wrapped.get? kind' := Assoc.get?_erase _ _
  refine ⟨back.facility, back.share, fun tool k => ?_, fun k => ?_⟩
  · rw [back.callbacks, theirs, Facility.callback?_withCallback]
    by_cases at' : tool = Facility.profilerTool
    · by_cases here : k = kind
      · subst here
        rw [if_neg fun h => distinct h.2, if_pos ⟨at', rfl⟩, if_pos ⟨at', List.mem_cons_self⟩]
      · simp only [at', true_and, List.mem_cons, here, false_or, if_neg (Ne.symm here), if_false]
        rfl
    · simp [at']
  · rw [back.wrapped, theirs]
    by_cases here : kind = k
    · subst here
      simp
    · have differ : k ≠ kind := Ne.symm here
      simp [here, differ]

/-- Callbacks are given back kind by kind. -/
theorem answer_giveBack_all (off : List Location) (kinds : List EventKind) (distinct : kinds.Nodup)
    (h : Unguarded registry e) :
    ∃ f s, answer (kinds.forM (giveBack registry off e.facility.restarts)) e =
        (.ok (), retooled registry e e.hooks f s) ∧
      Back registry off kinds e.facility (e.share registry) f s := by
  induction kinds generalizing e with
  | nil =>
    refine ⟨e.facility, e.share registry, ?_, rfl, rfl, fun _ _ => ?_, fun _ => rfl⟩
    · rw [retooled_share h]
      rfl
    · rw [if_neg fun h => by cases h.2]
  | cons kind rest ih =>
    rw [List.nodup_cons] at distinct
    have first := answer_giveBack h off kind
    obtain ⟨f, s, others, back⟩ := ih distinct.2 (h.retooled e.hooks (e.facility.withCallback kind
      (((e.share registry).wrapped.get? kind).map (restored registry kind · off e.facility.restarts)))
      { e.share registry with wrapped := (e.share registry).wrapped.erase kind })
    rw [share_retooled h] at back
    refine ⟨f, s, ?_, back.cons distinct.1⟩
    change answer (giveBack registry off e.facility.restarts kind >>= fun _ =>
      rest.forM (giveBack registry off e.facility.restarts)) e = _
    rw [answer_bind_ok first]
    refine Eq.trans others ?_
    rw [retooled_retooled]
    rfl

/-- What a registry that shared the id leaves when it gives it back. -/
structure Restores (registry : RegistryId) (f : Facility) (s : ToolShare) (f' : Facility)
    (s' : ToolShare) : Prop where
  holder : f'.holder? Facility.profilerTool = f.holder? Facility.profilerTool
  events : f'.eventsOf Facility.profilerTool = s.wrappedEvents
  disabled : f'.disabled = f.disabled
  restarts : f'.restarts = f.restarts
  callbacks : ∀ tool kind, f'.callback? tool kind =
    if tool = Facility.profilerTool ∧ kind ∈ ourKinds then
      (s.wrapped.get? kind).map (restored registry kind · (s.stillOff f.restarts) f.restarts)
    else f.callback? tool kind
  threads : s'.threads = s.threads
  wrapped : ∀ kind, s'.wrapped.get? kind = if kind ∈ ourKinds then none else s.wrapped.get? kind
  off : s'.disabled = []
  seen : s'.seenRestart = s.seenRestart

/-- An id that was shared is given back. -/
theorem answer_uninstall_back (h : Unguarded registry e)
    (shared : (e.share registry).owned = false) (kept : (e.share registry).reclaimed = false)
    (held : (e.facility.holder? Facility.profilerTool).isSome) :
    ∃ f s, answer (uninstall registry) e = (.ok (), retooled registry e e.hooks f s) ∧
      Restores registry e.facility (e.share registry) f s := by
  let s₁ : ToolShare := { e.share registry with ours := {}, disabled := [] }
  have foreign : ¬ ((e.share registry).owned = true ∨ (e.share registry).reclaimed = true) := by
    simp [shared, kept]
  obtain ⟨f, s, all, back⟩ := answer_giveBack_all
    ((e.share registry).stillOff e.facility.restarts) ourKinds (by decide)
    (h.retooled e.hooks e.facility s₁)
  rw [share_retooled h] at back
  rw [retooled_retooled] at all
  have facility : (retooled registry e e.hooks e.facility s₁).facility = e.facility := rfl
  rw [facility] at back all
  have holder : f.holder? Facility.profilerTool = e.facility.holder? Facility.profilerTool := by
    rw [back.facility]
    rfl
  refine ⟨{ f with events := f.events.set Facility.profilerTool (e.share registry).wrappedEvents }, s,
    ?_, holder, Facility.eventsOf_set _, ?_, ?_, back.callbacks, ?_, back.wrapped, ?_, ?_⟩
  · unfold uninstall
    rw [answer_liftM_bind run_shareOf, answer_liftM_bind (run_modifyShare h _), if_neg foreign,
      answer_get_bind]
    rw [← holder] at held
    change answer (do
      ourKinds.forM (giveBack registry ((e.share registry).stillOff e.facility.restarts)
        e.facility.restarts)
      setEvents registry (e.share registry).wrappedEvents)
        (retooled registry e e.hooks e.facility s₁) = _
    rw [answer_bind_ok all]
    exact answer_setEvents h _ _ _ held _
  · have same : f.disabled = e.facility.disabled := by rw [back.facility]
    exact same
  · have same : f.restarts = e.facility.restarts := by rw [back.facility]
    exact same
  · have same : s.threads = s₁.threads := by rw [back.share]
    exact same
  · have same : s.disabled = s₁.disabled := by rw [back.share]
    exact same
  · have same : s.seenRestart = s₁.seenRestart := by rw [back.share]
    exact same

end Engine

end LineClock

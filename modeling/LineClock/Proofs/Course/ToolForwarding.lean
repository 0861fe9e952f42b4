import LineClock.Proofs.Course.Overhearing
import LineClock.Proofs.Course.Tampering
import LineClock.Proofs.Engine.ToolPile

/-!
# Monitoring events under two registries

A monitoring event goes down a pile of registries at the profilers' tool id to the callback below,
which is that of the tool that holds the id. Of two registries the lower one finds the callbacks of
the upper one registered when that callback has answered, takes them for callbacks that came instead
of those below, and loses those.

Main statement: `tool_heeded`.
-/

namespace LineClock.Course

open Machine Engine

variable {a b r r₁ r₂ : RegistryId} {m : Muster} {owner : ProfilerId → RegistryId} {f₀ : Facility}
  {x y y₂ : Overheard} {e e₁ e₂ e₃ : Engine} {event : MonitorEvent} {hook wrapped : ToolHook}
  {inner hooks hooks₁ : EventKind → Option ToolHook} {events : EventSet} {hops : Nat}

/-! ## One callback after the other -/

/-- The script of a callback. -/
def murmur : ToolHook → Option ScriptId
  | .script id => some id
  | .profiler _ _ | .replay _ _ _ _ => none

/-- The script that hears of an event from a facility, if a script does. -/
def listener (f : Facility) (event : MonitorEvent) : Option ScriptId :=
  if (f.eventsOf Facility.profilerTool).contains event.kind ∧
      ¬ f.isDisabled Facility.profilerTool event.location then
    (f.callback? Facility.profilerTool event.kind).bind murmur
  else none

/-- A registry whose callback lets events of a kind pass. -/
structure Passive (r : RegistryId) (kind : EventKind) (e : Engine) : Prop where
  deaf : Deaf (e.dispatchOf r)
  unguarded : Unguarded r e
  seen : (e.share r).seenRestart = e.facility.restarts
  nothing : (e.dispatchOf r).busy = false → (e.share r).wrapped.get? kind = none

/-- A registry whose callback waits for another one. -/
theorem Passive.waiting {kind : EventKind} (waits : Tooled r e.facility (e.share r)
    { e.dispatchOf r with busy := true } e e₁) (unguarded : Unguarded r e)
    (seen : (e.share r).seenRestart = e.facility.restarts) : Passive r kind e₁ := by
  have busy : (e₁.dispatchOf r).busy = true := congrArg Dispatch.busy waits.own
  refine ⟨.inl busy, waits.unguarded r unguarded, ?_, fun idle => ?_⟩
  · rw [waits.share, waits.facility]
    exact seen
  · rw [busy] at idle
    cases idle

/-- A registry lets events pass while another one waits. -/
theorem Passive.beside {r' : RegistryId} {kind : EventKind} (passive : Passive r' kind e)
    (waits : Tooled r e.facility (e.share r) { e.dispatchOf r with busy := true } e e₁)
    (unguarded : Unguarded r e) (seen : (e.share r).seenRestart = e.facility.restarts) :
    Passive r' kind e₁ := by
  by_cases here : r' = r
  · rw [here]
    exact .waiting waits unguarded seen
  · have known := waits.others r' here
    have share := waits.shares r' here
    refine ⟨?_, waits.unguarded r' passive.unguarded, ?_, fun idle => ?_⟩
    · rw [known]
      exact passive.deaf
    · rw [share, waits.facility]
      exact passive.seen
    · rw [known] at idle
      rw [share]
      exact passive.nothing idle

/-- A callback that is told of an event and does nothing else: a script, or that of a registry which
lets the event pass. -/
def Inert (kind : EventKind) (e : Engine) (hook : ToolHook) : Prop :=
  (∃ id, hook = .script id) ∨ ∃ r serial, hook = .profiler r serial ∧ Passive r kind e

/-- Such a callback is asked. -/
theorem ask_callback (monitored : y.engine.monitored = true) (inert : Inert event.kind y.engine hook)
    (hops : Nat) :
    answer (Overheard.scripts.deliverEvent hops hook event) y =
      (.ok .goOn, { y with heard := notes (murmur hook) ⟨y.engine, .monitor event⟩ ++ y.heard }) := by
  rcases inert with ⟨id, rfl⟩ | ⟨r, serial, rfl, passive⟩
  · have bare : (uncover event (.script id)).run (Overheard.scripts.engine y) =
      (some (.script id), Overheard.scripts.engine y) := rfl
    rw [Overheard.scripts.answer_deliverEvent_script Overheard.lawful hops bare]
    rfl
  · cases hops with
    | zero => rfl
    | succ hops =>
      have taken := passive.deaf.takeEvent passive.unguarded monitored passive.seen event
        passive.nothing
      rw [Overheard.scripts.answer_deliverEvent_kept taken Overheard.lawful hops serial]
      rfl

/-- The callback of a registry takes an event, another one answers, and the registry gets hold of the
callbacks again. -/
theorem deliver_through (taken : (takeEvent r event).run y.engine = (some wrapped, e₁))
    (passed : answer (Overheard.scripts.deliverEvent hops wrapped event) { y with engine := e₁ } =
      (.ok .goOn, y₂))
    (absorbed : answer (absorbEvent r event (.ok .goOn)) y₂.engine = (.ok .goOn, e₃)) (serial : Nat) :
    answer (Overheard.scripts.deliverEvent (hops + 1) (.profiler r serial) event) y =
      (.ok .goOn, { y₂ with engine := e₃ }) := by
  have bare : (uncover event (.profiler r serial)).run (Overheard.scripts.engine y) =
    (some (.profiler r serial), Overheard.scripts.engine y) := rfl
  have taken : (takeEvent r event).run (Overheard.scripts.engine y) = (some wrapped, e₁) := taken
  have passed : answer (Overheard.scripts.deliverEvent hops wrapped event)
    (Overheard.scripts.withEngine y e₁) = (.ok .goOn, y₂) := passed
  have absorbed : answer (absorbEvent r event (.ok .goOn)) (Overheard.scripts.engine y₂) =
    (.ok .goOn, e₃) := absorbed
  rw [Overheard.scripts.answer_deliverEvent_taken Overheard.lawful hops bare, taken]
  simp only
  rw [passed, Scripts.answer_tryRun, absorbed]
  rfl

/-- Who can take an event and pass it on: somebody is on, everybody wraps, and no other callback
runs. -/
structure Alert (r : RegistryId) (e : Engine) : Prop where
  unguarded : Unguarded r e
  idle : (e.dispatchOf r).busy = false
  somebody : (e.dispatchOf r).active ≠ []
  once : ((e.dispatchOf r).active.map Prod.fst).Nodup
  wraps : ∀ p, (e.dispatchOf r).isOn p = true → (e.profiler p).wrap = true

/-- Others recorded an event meanwhile. -/
theorem Alert.beside {t : Tidings} {on : ProfilerId → Bool} (alert : Alert r e)
    (unguarded : Unguarded r e₁) (same : e₁.dispatchOf r = e.dispatchOf r) (books : Books t on e e₁) :
    Alert r e₁ := by
  refine ⟨unguarded, ?_, ?_, ?_, fun p on => ?_⟩
  all_goals rw [same] at *
  · exact alert.idle
  · exact alert.somebody
  · exact alert.once
  · exact (books.wrap p).trans (alert.wraps p on)

theorem alert_of_manned (unguarded : Unguarded r e) (manned : Manned [a, b] m e)
    (sound : m.Sound (Own a b owner)) (wraps : Wraps m e) (listens : r ∈ m.pile) : Alert r e := by
  have mem := within sound listens
  refine ⟨unguarded, manned.idle r mem, ?_, ?_, fun p on => ?_⟩
  · rw [manned.active r mem]
    exact (sound.listens r).mp listens
  · rw [manned.active r mem]
    exact (sound.fair r).once
  · rw [manned.isOn mem] at on
    exact wraps r p on

/-- What the callback below the lowest registry hears of. -/
def nextBelow (events : EventSet) (inner : EventKind → Option ToolHook) (event : MonitorEvent) :
    Option ToolHook :=
  if events.contains event.kind then inner event.kind else none

theorem inner_of_next (asked : nextBelow events inner event = some hook) : inner event.kind = some hook := by
  unfold nextBelow at asked
  split at asked
  · exact asked
  · cases asked

section

variable (alert : Alert r e) (h : Moored r inner hooks events e.facility.restarts (e.share r))
  (monitored : e.monitored = true) (mem : event.kind ∈ ourKinds)

include alert h monitored mem

/-- A registry that nobody below wants to hear records an event and is done with it. -/
theorem Alert.keeps (unasked : nextBelow events inner event = none) :
    ∃ e₁, (takeEvent r event).run e = (none, e₁) ∧
      Tooled r e.facility (e.share r) (e.dispatchOf r) e e₁ ∧
      Books event.tidings (e.dispatchOf r).isOn e e₁ := by
  have takes := h.takes alert.unguarded monitored alert.idle alert.somebody alert.once alert.wraps mem
  rw [show (if events.contains event.kind then inner event.kind else none) = none from unasked] at takes
  exact takes

/-- Before the callback below a registry records an event and waits. -/
theorem Alert.handsOn (asked : nextBelow events inner event = some hook) :
    ∃ e₁, (takeEvent r event).run e = (some hook, e₁) ∧
      Tooled r e.facility (e.share r) { e.dispatchOf r with busy := true } e e₁ ∧
      Books event.tidings (e.dispatchOf r).isOn e e₁ := by
  have takes := h.takes alert.unguarded monitored alert.idle alert.somebody alert.once alert.wraps mem
  rw [show (if events.contains event.kind then inner event.kind else none) = some hook from asked] at takes
  exact takes

end

/-- Who is on does not change while one registry waits. -/
theorem waiting_counts (waits : Tooled r e.facility (e.share r) { e.dispatchOf r with busy := true } e e₁)
    (r' : RegistryId) : (e₁.dispatchOf r').active = (e.dispatchOf r').active := by
  by_cases here : r' = r
  · rw [here, waits.own]
  · rw [waits.others r' here]

/-- **An event at the callback of the lowest registry.** It is recorded, and the callback below is
asked if it would hear of the event. If others than its own callbacks were registered then, the
registry takes them for those to go on to. -/
theorem callback_lowest (alert : Alert r y.engine) (monitored : y.engine.monitored = true)
    (held : (y.engine.facility.holder? Facility.profilerTool).isSome)
    (moored : Moored r inner hooks events y.engine.facility.restarts (y.engine.share r))
    (widened : y.engine.facility.eventsOf Facility.profilerTool = events.union ourEvents)
    (mem : event.kind ∈ ourKinds)
    (inert : ∀ hook, inner event.kind = some hook → (∃ id, hook = .script id) ∨
      ∃ r' serial, hook = .profiler r' serial ∧ (r' = r ∨ Passive r' event.kind y.engine))
    (hops serial : Nat) :
    ∃ y' f s inner', answer (Overheard.scripts.deliverEvent (hops + 1) (.profiler r serial) event) y =
        (.ok .goOn, y') ∧
      Tooled r f s (y.engine.dispatchOf r) y.engine y'.engine ∧
      Books event.tidings (y.engine.dispatchOf r).isOn y.engine y'.engine ∧
      y'.soundings = y.soundings ∧
      (∃ e₁, y'.heard = notes ((nextBelow events inner event).bind murmur) ⟨e₁, .monitor event⟩ ++ y.heard ∧
        ∀ r', (e₁.dispatchOf r').active = (y.engine.dispatchOf r').active) ∧
      Recalled y.engine.facility f ∧
      Moored r inner' hooks events y.engine.facility.restarts s ∧
      (nextBelow events inner event = none ∧ inner' = inner ∧ f = y.engine.facility ∨
        (nextBelow events inner event).isSome ∧
          inner' = succeeding inner hooks (y.engine.facility.callback? Facility.profilerTool) ∧
          ∀ kind ∈ ourKinds, f.callback? Facility.profilerTool kind = hooks kind) := by
  cases below : nextBelow events inner event with
  | none =>
    obtain ⟨e₁, taken, done, books⟩ := alert.keeps moored monitored mem below
    refine ⟨{ y with engine := e₁ }, _, _, inner, ?_, done, books, rfl, ⟨e₁, rfl, fun r' => ?_⟩,
      .refl _, moored, .inl ⟨rfl, rfl, rfl⟩⟩
    · exact Overheard.scripts.answer_deliverEvent_kept taken Overheard.lawful hops serial
    · by_cases here : r' = r
      · rw [here]
        exact congrArg Dispatch.active done.own
      · rw [done.others r' here]
  | some hook =>
    obtain ⟨e₁, taken, waits, books⟩ := alert.handsOn moored monitored mem below
    let y₁ : Overheard := { y with engine := e₁ }
    have inert₁ : Inert event.kind y₁.engine hook := by
      refine (inert hook (inner_of_next below)).imp_right ?_
      rintro ⟨r', serial, rfl, passive⟩
      refine ⟨r', serial, rfl, ?_⟩
      rcases passive with rfl | passive
      · exact .waiting waits alert.unguarded moored.seen
      · exact passive.beside waits alert.unguarded moored.seen
    have asked := ask_callback (y := y₁) (waits.monitored.trans monitored) inert₁ hops
    have facility : y₁.engine.facility = y.engine.facility := waits.facility
    have moored₁ : Moored r inner hooks events y.engine.facility.restarts (y₁.engine.share r) := by
      rw [waits.share]
      exact moored
    rw [← facility] at held widened
    obtain ⟨e₂, f, s, absorbed, again, profilers, moored₂, recalled, registered⟩ :=
      moored₁.absorbs event (waits.unguarded r alert.unguarded) held widened alert.idle waits.own
    rw [facility] at moored₂ recalled
    exact ⟨_, f, s, _, deliver_through taken asked absorbed serial, waits.trans again,
      books.same profilers, rfl, ⟨e₁, rfl, waiting_counts waits⟩, recalled, moored₂,
      .inr ⟨rfl, rfl, registered⟩⟩

/-- The upper of two registries gets hold of the callbacks again that the lower one left registered,
and goes on to the same ones as before. -/
theorem upper_regains {d : Dispatch} {f₁ : Facility} {s₁ : ToolShare} (event : MonitorEvent)
    (differ : r₂ ≠ r₁) (alert₂ : Alert r₂ e) (held : (e.facility.holder? Facility.profilerTool).isSome)
    (widened : e.facility.eventsOf Facility.profilerTool = events.union ourEvents)
    (moored₂ : Moored r₂ hooks₁ hooks (events.union ourEvents) e.facility.restarts (e.share r₂))
    (waits : Tooled r₂ e.facility (e.share r₂) { e.dispatchOf r₂ with busy := true } e e₁)
    (put : Tooled r₁ f₁ s₁ d e₁ e₂) (recalled : Recalled e.facility f₁)
    (apart : ∀ kind ∈ ourKinds, hooks kind ≠ hooks₁ kind)
    (registered : ∀ kind ∈ ourKinds, f₁.callback? Facility.profilerTool kind = hooks kind ∨
      f₁.callback? Facility.profilerTool kind = hooks₁ kind) :
    ∃ e₃ f s, answer (absorbEvent r₂ event (.ok .goOn)) e₂ = (.ok .goOn, e₃) ∧
      Tooled r₂ f s (e.dispatchOf r₂) e₂ e₃ ∧ e₃.profilers = e₂.profilers ∧
      Moored r₂ hooks₁ hooks (events.union ourEvents) e.facility.restarts s ∧
      Recalled e.facility f ∧
      ∀ kind ∈ ourKinds, f.callback? Facility.profilerTool kind = hooks kind := by
  have known : e₂.dispatchOf r₂ = { e.dispatchOf r₂ with busy := true } :=
    (put.others r₂ differ).trans waits.own
  have moored₃ : Moored r₂ hooks₁ hooks (events.union ourEvents) e.facility.restarts
      (e₂.share r₂) := by
    rw [put.shares r₂ differ, waits.share]
    exact moored₂
  have held₂ : (e₂.facility.holder? Facility.profilerTool).isSome := by
    rw [put.facility, recalled.holder]
    exact held
  have widened₂ : e₂.facility.eventsOf Facility.profilerTool =
      (events.union ourEvents).union ourEvents := by
    rw [put.facility, recalled.events, widened, widened_again]
  obtain ⟨e₃, f, s, absorbed, again, profilers, moored₄, recalled', registered'⟩ :=
    moored₃.absorbs event (put.unguarded r₂ (waits.unguarded r₂ alert₂.unguarded)) held₂
      widened₂ alert₂.idle known
  rw [put.facility] at moored₄ recalled'
  refine ⟨e₃, f, s, absorbed, again, profilers, moored₄.before fun kind mem => ?_,
    recalled.trans recalled', registered'⟩
  rcases registered kind mem with own | lower
  · exact succeeding_own own
  · exact (succeeding_other fun same => apart kind mem (same.symm.trans lower)).trans lower

/-- **An event at the callback of the upper of two registries.** Both record it. If the callback below
was asked, the lower one goes on to the upper one afterwards. -/
theorem callback_upper (differ : r₂ ≠ r₁) (alert₂ : Alert r₂ y.engine) (alert₁ : Alert r₁ y.engine)
    (monitored : y.engine.monitored = true)
    (held : (y.engine.facility.holder? Facility.profilerTool).isSome)
    (moored₂ : Moored r₂ hooks₁ hooks (events.union ourEvents) y.engine.facility.restarts
      (y.engine.share r₂))
    (moored₁ : Moored r₁ inner hooks₁ events y.engine.facility.restarts (y.engine.share r₁))
    (widened : y.engine.facility.eventsOf Facility.profilerTool = events.union ourEvents)
    (registered : ∀ kind ∈ ourKinds,
      y.engine.facility.callback? Facility.profilerTool kind = hooks kind)
    (mem : event.kind ∈ ourKinds)
    (inert : ∀ hook, inner event.kind = some hook → (∃ id, hook = .script id) ∨
      ∃ r' serial, hook = .profiler r' serial ∧ (r' = r₁ ∨ r' = r₂))
    (apart : ∀ p, (y.engine.dispatchOf r₂).isOn p = true → (y.engine.dispatchOf r₁).isOn p = false)
    (hops serial : Nat) :
    ∃ y' inner', answer (Overheard.scripts.deliverEvent (hops + 2) (.profiler r₂ serial) event) y =
        (.ok .goOn, y') ∧
      Abides y.engine y'.engine ∧ y'.engine.monitored = y.engine.monitored ∧
      y'.engine.traceHook? = y.engine.traceHook? ∧
      (∀ r, Unguarded r y.engine → Unguarded r y'.engine) ∧
      y'.engine.dispatchOf r₂ = y.engine.dispatchOf r₂ ∧
      y'.engine.dispatchOf r₁ = y.engine.dispatchOf r₁ ∧
      Books event.tidings
        (fun p => (y.engine.dispatchOf r₂).isOn p || (y.engine.dispatchOf r₁).isOn p) y.engine
        y'.engine ∧
      y'.soundings = y.soundings ∧
      (∃ e₁, y'.heard = notes ((nextBelow events inner event).bind murmur) ⟨e₁, .monitor event⟩ ++ y.heard ∧
        ∀ r', (e₁.dispatchOf r').active = (y.engine.dispatchOf r').active) ∧
      Recalled y.engine.facility y'.engine.facility ∧
      (∀ kind ∈ ourKinds, y'.engine.facility.callback? Facility.profilerTool kind = hooks kind) ∧
      Moored r₂ hooks₁ hooks (events.union ourEvents) y.engine.facility.restarts
        (y'.engine.share r₂) ∧
      Moored r₁ inner' hooks₁ events y.engine.facility.restarts (y'.engine.share r₁) ∧
      (nextBelow events inner event = none ∧ inner' = inner ∨
        (nextBelow events inner event).isSome ∧ ∀ kind ∈ ourKinds, inner' kind = hooks kind) := by
  have other : ∀ kind ∈ ourKinds, hooks kind ≠ hooks₁ kind :=
    fun _ mem => moored₂.apart moored₁ differ mem
  obtain ⟨serial₁, mine⟩ := moored₁.own event.kind mem
  obtain ⟨e₁, taken, waits, books⟩ := alert₂.handsOn moored₂ monitored mem
    ((if_pos (contains_widened events mem)).trans mine)
  let y₁ : Overheard := { y with engine := e₁ }
  have lower : y₁.engine.dispatchOf r₁ = y.engine.dispatchOf r₁ := waits.others r₁ differ.symm
  have facility : y₁.engine.facility = y.engine.facility := waits.facility
  -- the lower registry stands as before while the upper one waits
  have alert : Alert r₁ y₁.engine := alert₁.beside (waits.unguarded r₁ alert₁.unguarded) lower books
  have moored : Moored r₁ inner hooks₁ events y₁.engine.facility.restarts (y₁.engine.share r₁) := by
    rw [show y₁.engine.share r₁ = _ from waits.shares r₁ differ.symm, facility]
    exact moored₁
  have inert₁ : ∀ hook, inner event.kind = some hook → (∃ id, hook = .script id) ∨
      ∃ r' serial, hook = .profiler r' serial ∧ (r' = r₁ ∨ Passive r' event.kind y₁.engine) := by
    refine fun hook there => (inert hook there).imp_right ?_
    rintro ⟨r', serial, same, rfl | rfl⟩
    · exact ⟨r', serial, same, .inl rfl⟩
    · exact ⟨r', serial, same, .inr (.waiting waits alert₂.unguarded moored₂.seen)⟩
  obtain ⟨y₂, f₁, s₁, inner', delivered, put, books₁, soundings, ⟨e₂, heard, counts⟩, recalled, moored',
    onward⟩ := callback_lowest alert (waits.monitored.trans monitored) (facility ▸ held) moored
      (facility ▸ widened) mem inert₁ hops serial₁
  rw [facility] at recalled moored' onward
  have left : ∀ kind ∈ ourKinds, f₁.callback? Facility.profilerTool kind = hooks kind ∨
      f₁.callback? Facility.profilerTool kind = hooks₁ kind := by
    intro kind mem
    rcases onward with ⟨-, -, same⟩ | ⟨-, -, again⟩
    · rw [same]
      exact .inl (registered kind mem)
    · exact .inr (again kind mem)
  obtain ⟨e₃, f, s, absorbed, again, profilers, moored₃, recalled', registered'⟩ :=
    upper_regains event differ alert₂ held widened moored₂ waits put recalled other left
  rw [lower] at books₁
  have both := books.trans books₁ waits.thread waits.clock apart
  refine ⟨{ y₂ with engine := e₃ }, inner', deliver_through taken delivered absorbed serial,
    (waits.toAbides.trans put.toAbides).trans again.toAbides,
    (again.monitored.trans put.monitored).trans waits.monitored,
    (again.slot.trans put.slot).trans waits.slot,
    fun r there => again.unguarded r (put.unguarded r (waits.unguarded r there)), again.own,
    ((again.others r₁ differ.symm).trans put.own).trans lower, both.same profilers, soundings,
    ⟨e₂, heard, fun r' => (counts r').trans (waiting_counts waits r')⟩, again.facility ▸ recalled', ?_, ?_, ?_, ?_⟩
  · show ∀ kind ∈ ourKinds, e₃.facility.callback? Facility.profilerTool kind = hooks kind
    rw [again.facility]
    exact registered'
  · show Moored r₂ hooks₁ hooks (events.union ourEvents) y.engine.facility.restarts (e₃.share r₂)
    rw [again.share]
    exact moored₃
  · show Moored r₁ inner' hooks₁ events y.engine.facility.restarts (e₃.share r₁)
    rw [again.shares r₁ differ.symm, put.share]
    exact moored'
  · refine onward.imp (fun kept => ⟨kept.1, kept.2.1⟩) fun passed => ⟨passed.1, fun kind mem => ?_⟩
    rw [passed.2.1]
    have upper := registered kind mem
    exact (succeeding_other fun same => other kind mem (upper.symm.trans same)).trans upper

/-! ## At the top -/

/-- The pile of two registries above the tool that holds the id. -/
abbrev ToolStand (f₀ : Facility) (a b : RegistryId) (torn : Prop) :
    List RegistryId → Engine → Prop := ToolPile [a, b] f₀ torn

section

variable (monitored : y.engine.monitored = true)
  (others : ∀ tool kind, tool ≠ Facility.profilerTool → y.engine.facility.callback? tool kind = none)

include monitored others

/-- The callback under the profilers' id hears of an event. -/
theorem announce_callback
    (heard : (y.engine.facility.eventsOf Facility.profilerTool).contains event.kind ∧
      ¬ y.engine.facility.isDisabled Facility.profilerTool event.location)
    (there : y.engine.facility.callback? Facility.profilerTool event.kind = some hook)
    (delivered : answer (Overheard.scripts.deliverEvent (y.engine.registries.entries.length + 1) hook
      event) y = (.ok .goOn, y₂)) :
    answer (Overheard.scripts.announceEvent event) y = (.ok (), y₂) := by
  have targets : (Overheard.scripts.engine y).facility.targets event =
      [(Facility.profilerTool, hook)] := by
    refine (Facility.targets_sole others event).trans ?_
    rw [if_pos heard, there]
    rfl
  have monitored : (Overheard.scripts.engine y).monitored = true := monitored
  have delivered : answer (Overheard.scripts.deliverEvent (Overheard.scripts.hopsAt y) hook event) y =
    (.ok .goOn, y₂) := delivered
  rw [Scripts.answer_announceEvent, if_pos monitored, targets, Scripts.answer_forM_one,
    Scripts.answer_deliverTo, delivered]
  rfl

/-- Where no registry takes an event, a script hears of it that is registered. -/
theorem announce_inert
    (inert : ∀ hook, y.engine.facility.callback? Facility.profilerTool event.kind = some hook →
      Inert event.kind y.engine hook) :
    answer (Overheard.scripts.announceEvent event) y = (.ok (), { y with
      heard := notes (listener y.engine.facility event) ⟨y.engine, .monitor event⟩ ++ y.heard }) := by
  unfold listener
  by_cases heard : (y.engine.facility.eventsOf Facility.profilerTool).contains event.kind ∧
      ¬ y.engine.facility.isDisabled Facility.profilerTool event.location
  · rw [if_pos heard]
    cases there : y.engine.facility.callback? Facility.profilerTool event.kind with
    | some hook =>
      exact announce_callback monitored others heard there (ask_callback monitored (inert hook there) _)
    | none =>
      have targets : (Overheard.scripts.engine y).facility.targets event = [] := by
        refine (Facility.targets_sole others event).trans ?_
        rw [if_pos heard, there]
        rfl
      rw [Scripts.answer_announceEvent, targets]
      exact ite_self _
  · have targets : (Overheard.scripts.engine y).facility.targets event = [] :=
      (Facility.targets_sole others event).trans (if_neg heard)
    rw [if_neg heard, Scripts.answer_announceEvent, targets]
    exact ite_self _

end

variable {torn : Prop}

/-- Below the pile a script is told of an event that the tool would hear of, unless the pile is
torn. -/
theorem next_ground (clear : f₀.Clear)
    (ground : Ground [a, b] f₀ torn inner) (mem : event.kind ∈ ourKinds) :
    (nextBelow (f₀.eventsOf Facility.profilerTool) inner event).bind murmur = listener f₀ event ∨ torn := by
  refine ground.imp (fun same => ?_) fun there => there.1
  have on : ¬ f₀.isDisabled Facility.profilerTool event.location = true := by
    rw [clear.isDisabled mem]
    exact Bool.false_ne_true
  unfold nextBelow listener
  rw [same event.kind mem]
  by_cases subscribed : (f₀.eventsOf Facility.profilerTool).contains event.kind = true
  · rw [if_pos subscribed, if_pos ⟨subscribed, on⟩]
  · rw [if_neg subscribed, if_neg fun both => subscribed both.1]
    rfl

/-- A callback below the pile is a script, or that of one of the registries. -/
theorem ground_callback (held : HeldByTool f₀) (ground : Ground [a, b] f₀ torn inner)
    (mem : event.kind ∈ ourKinds) (there : inner event.kind = some hook) :
    (∃ id, hook = .script id) ∨
      ∃ r serial, hook = .profiler r serial ∧ torn ∧ r ∈ [a, b] := by
  rcases ground with same | ⟨worn, r, within, mine⟩
  · rw [same event.kind mem] at there
    exact .inl (held _ _ _ there).2
  · obtain ⟨serial, known⟩ := mine event.kind mem
    rw [known] at there
    cases there
    exact .inr ⟨r, serial, rfl, worn, within⟩

section

variable (q : ToolStand f₀ a b (Torn a b x) m.pile x.engine)
  (manned : Manned [a, b] m x.engine) (sound : m.Sound (Own a b owner))

include q

/-- Nobody else registered callbacks. -/
theorem stand_others (held : HeldByTool f₀) (tool : ToolId) (kind : EventKind) (other : tool ≠ Facility.profilerTool) :
    x.engine.facility.callback? tool kind = none := by
  rw [q.borrowed.others tool kind fun same => other same.1]
  cases there : f₀.callback? tool kind with
  | none => rfl
  | some hook => exact absurd (held tool kind hook there).1 other

/-- Where a registry listens its callback hears of the event. -/
theorem stand_hears (clear : f₀.Clear) (mem : event.kind ∈ ourKinds) {pile : List RegistryId}
    (listens : m.pile = r :: pile) :
    (x.engine.facility.eventsOf Facility.profilerTool).contains event.kind ∧
      ¬ x.engine.facility.isDisabled Facility.profilerTool event.location := by
  constructor
  · rw [q.borrowed.events, listens]
    exact contains_widened _ mem
  · unfold Facility.isDisabled
    rw [q.borrowed.disabled]
    have off : f₀.isDisabled Facility.profilerTool event.location = false := clear.isDisabled mem
    unfold Facility.isDisabled at off
    rw [off]
    exact Bool.false_ne_true

include manned sound

/-- A registry that does not listen lets events pass. -/
theorem passive_of_silent (torn : Torn a b x) (within : r ∈ [a, b]) (absent : r ∉ m.pile)
    (mem : event.kind ∈ ourKinds) : Passive r event.kind x.engine := by
  have idle := q.idle r within absent
  refine ⟨deaf_of_silent manned sound within absent, q.unguarded r within, ?_, fun _ => ?_⟩
  · rw [q.borrowed.restarts]
    exact idle.seen torn
  · exact idle.wrapped event.kind mem

/-- No registry takes the event: none listens, or not to such events. -/
theorem tool_heeded_inert (held : HeldByTool f₀) (plain : m.pile = [] ∨ event.kind ∉ ourKinds) :
    ∃ x', answer (Overheard.scripts.announceEvent event) x = (.ok (), x') ∧
      Announced .tool (listener f₀ event) (.monitor event) a b (ToolStand f₀ a b) m x x' := by
  obtain ⟨bottom, ground, tiered⟩ := q.tiered
  have events : (x.engine.facility.eventsOf Facility.profilerTool).contains event.kind =
      (f₀.eventsOf Facility.profilerTool).contains event.kind := by
    rw [q.borrowed.events]
    cases pile : m.pile with
    | nil => rfl
    | cons r rest =>
      have out := plain.resolve_left (by rw [pile]; exact List.cons_ne_nil r rest)
      exact contains_widened_other _ out
  have callback : x.engine.facility.callback? Facility.profilerTool event.kind =
        f₀.callback? Facility.profilerTool event.kind ∨
      Torn a b x ∧ ∃ r serial, x.engine.facility.callback? Facility.profilerTool event.kind =
        some (.profiler r serial) ∧ Passive r event.kind x.engine := by
    by_cases mem : event.kind ∈ ourKinds
    · have none := plain.resolve_right fun out => out mem
      rw [none] at tiered
      rw [tiered event.kind mem]
      refine ground.imp (fun there => there event.kind mem) ?_
      rintro ⟨torn, r, within, mine⟩
      obtain ⟨serial, there⟩ := mine event.kind mem
      refine ⟨torn, r, serial, there, passive_of_silent q manned sound torn within ?_ mem⟩
      rw [none]
      exact List.not_mem_nil
    · exact .inl (q.borrowed.others _ _ fun same => mem same.2)
  have inert : ∀ hook, x.engine.facility.callback? Facility.profilerTool event.kind = some hook →
      Inert event.kind x.engine hook := by
    intro hook there
    rcases callback with same | ⟨-, r, serial, known, passive⟩
    · rw [same] at there
      exact .inl (held _ _ _ there).2
    · rw [known] at there
      cases there
      exact .inr ⟨r, serial, rfl, passive⟩
  have audience : listener x.engine.facility event = listener f₀ event ∨ Torn a b x := by
    refine callback.imp (fun same => ?_) fun there => there.1
    unfold listener Facility.isDisabled
    rw [events, same, q.borrowed.disabled]
  refine ⟨_, announce_inert q.monitored (stand_others q held) inert, .refl _, manned, ?_, rfl,
    ⟨_, _, rfl, audience⟩, ?_⟩
  · rcases plain with none | out
    · refine Books.nobody (fun p => ?_) rfl
      unfold anyOn
      rw [none]
      rfl
    · have start := Tampered.kind_start out
      have nothing : event.tidings = .nothing := by
        unfold MonitorEvent.tidings
        rw [start]
      show Books event.tidings _ _ _
      rw [nothing]
      exact Books.nothing rfl _
  · refine ⟨q.unguarded, q.monitored, q.bare, q.borrowed,
      ⟨bottom, ground.mono (fun torn => torn.mono rfl) fun _ _ => rfl, tiered⟩, fun r within absent => ?_,
      q.once⟩
    refine (q.idle r within absent).mono fun torn => ?_
    exact torn_of_silent manned sound within absent (fun _ => rfl) rfl torn

variable (held : HeldByTool f₀) (clear : f₀.Clear)
  (taken : (f₀.holder? Facility.profilerTool).isSome) (wraps : Wraps m x.engine)
  (mem : event.kind ∈ ourKinds)

include held clear taken wraps mem

/-- One registry listens. -/
theorem tool_heeded_one (pile : m.pile = [r]) :
    ∃ x', answer (Overheard.scripts.announceEvent event) x = (.ok (), x') ∧
      Announced .tool (listener f₀ event) (.monitor event) a b (ToolStand f₀ a b) m x x' := by
  obtain ⟨bottom, ground, tiered⟩ := q.tiered
  rw [pile] at tiered
  obtain ⟨inner, moored, below⟩ := tiered
  have ground : Ground [a, b] f₀ (Torn a b x) inner := ground.mono id below
  have listens : r ∈ m.pile := by
    rw [pile]
    exact List.mem_singleton_self r
  have alone : ∀ r', r' ∉ m.pile ↔ r' ≠ r := by
    intro r'
    rw [pile, List.mem_singleton]
  obtain ⟨serial, mine⟩ := moored.own event.kind mem
  have inert : ∀ hook, inner event.kind = some hook → (∃ id, hook = .script id) ∨
      ∃ r' serial, hook = .profiler r' serial ∧ (r' = r ∨ Passive r' event.kind x.engine) := by
    intro hook there
    refine (ground_callback held ground mem there).imp_right ?_
    rintro ⟨r', serial, same, torn, within⟩
    refine ⟨r', serial, same, or_iff_not_imp_left.mpr fun other => ?_⟩
    exact passive_of_silent q manned sound torn within ((alone r').mpr other) mem
  have holder : (x.engine.facility.holder? Facility.profilerTool).isSome := by
    rw [q.borrowed.holder]
    exact taken
  have widened := q.borrowed.events
  rw [pile] at widened
  rw [← q.borrowed.restarts] at moored
  obtain ⟨x', f, s, inner', delivered, change, books, soundings, ⟨e₁, heard, counts⟩, recalled, moored',
    onward⟩ := callback_lowest (alert_of_manned (q.unguarded r (within sound listens)) manned sound wraps
      listens) q.monitored holder moored widened mem inert x.engine.registries.entries.length serial
  have known : ∀ r', x'.engine.dispatchOf r' = x.engine.dispatchOf r' := by
    intro r'
    by_cases here : r' = r
    · rw [here]
      exact change.own
    · exact change.others r' here
  have same : ∀ kind ∈ ourKinds, inner' kind = inner kind := by
    intro kind mem
    rcases onward with ⟨-, same, -⟩ | ⟨-, same, -⟩
    · rw [same]
    · rw [same]
      exact succeeding_own rfl
  have again : ∀ kind ∈ ourKinds, f.callback? Facility.profilerTool kind =
      x.engine.facility.callback? Facility.profilerTool kind := by
    intro kind mem
    rcases onward with ⟨-, -, same⟩ | ⟨-, -, registered⟩
    · rw [same]
    · exact registered kind mem
  refine ⟨x', announce_callback q.monitored (stand_others q held)
    (stand_hears q clear mem pile) mine delivered, change.toAbides, ?_, ?_,
    soundings, ⟨_, e₁, heard, next_ground clear ground mem⟩, ?_⟩
  · exact manned.resaved fun r _ => ⟨_, _, known r⟩
  · exact books.congr (anyOn_one manned (within sound listens) pile)
  · rw [q.borrowed.restarts] at moored'
    refine ⟨fun r' within => change.unguarded r' (q.unguarded r' within),
      change.monitored.trans q.monitored, change.slot.trans q.bare, ?_,
      ⟨inner', ground.mono (fun torn => torn.mono heard) same, ?_⟩, fun r' within absent => ?_, q.once⟩
    · rw [change.facility]
      exact q.borrowed.recalled recalled
    · have tiered : Tiered x'.engine f₀ inner' [r] (x.engine.facility.callback? Facility.profilerTool) := by
        refine ⟨inner', ?_, fun _ _ => rfl⟩
        rw [change.share]
        exact moored'
      rw [pile, change.facility]
      exact tiered.congr (fun _ _ => rfl) again
    · rw [change.shares r' ((alone r').mp absent)]
      exact (q.idle r' within absent).mono fun torn =>
        torn_of_silent manned sound within absent counts heard torn

/-- Both registries listen. If the callback below was asked, it is that of the upper one
afterwards. -/
theorem tool_heeded_both (differ : r₂ ≠ r₁) (pile : m.pile = [r₂, r₁]) :
    ∃ x', answer (Overheard.scripts.announceEvent event) x = (.ok (), x') ∧
      Announced .tool (listener f₀ event) (.monitor event) a b (ToolStand f₀ a b) m x x' := by
  obtain ⟨bottom, ground, tiered⟩ := q.tiered
  rw [pile] at tiered
  obtain ⟨hooks₁, moored₂, inner, moored₁, below⟩ := tiered
  have ground : Ground [a, b] f₀ (Torn a b x) inner := ground.mono id below
  obtain ⟨listens₂, listens₁, mem₂, mem₁, which⟩ := doubled sound differ pile
  have apart := on_apart manned sound differ mem₂ mem₁
  obtain ⟨serial, mine⟩ := moored₂.own event.kind mem
  have inert : ∀ hook, inner event.kind = some hook → (∃ id, hook = .script id) ∨
      ∃ r' serial, hook = .profiler r' serial ∧ (r' = r₁ ∨ r' = r₂) := by
    intro hook there
    refine (ground_callback held ground mem there).imp_right ?_
    rintro ⟨r', serial, same, -, within⟩
    exact ⟨r', serial, same, which r' within⟩
  have holder : (x.engine.facility.holder? Facility.profilerTool).isSome := by
    rw [q.borrowed.holder]
    exact taken
  have widened := q.borrowed.events
  rw [pile] at widened
  obtain ⟨hops, enough⟩ : ∃ hops, x.engine.registries.entries.length + 1 = hops + 2 := by
    have there := (q.unguarded r₁ mem₁).present
    cases none : x.engine.registries.entries with
    | nil =>
      unfold Assoc.get? at there
      rw [none] at there
      cases there
    | cons first rest => exact ⟨rest.length, rfl⟩
  rw [← q.borrowed.restarts] at moored₁ moored₂
  obtain ⟨x', inner', delivered, abides, monitored, slot, unguarded, own₂, own₁, books, soundings,
    ⟨e₁, heard, counts⟩, recalled, again, moored₂', moored₁', onward⟩ := callback_upper differ
      (alert_of_manned (q.unguarded r₂ mem₂) manned sound wraps listens₂)
      (alert_of_manned (q.unguarded r₁ mem₁) manned sound wraps listens₁) q.monitored holder moored₂
      moored₁ widened (fun _ _ => rfl) mem inert apart hops serial
  rw [← enough] at delivered
  refine ⟨x', announce_callback q.monitored (stand_others q held) (stand_hears q clear mem pile) mine
    delivered, abides, ?_, ?_, soundings, ⟨_, e₁, heard, next_ground clear ground mem⟩, ?_⟩
  · refine manned.resaved fun r mem => ?_
    rcases which r mem with rfl | rfl
    · exact ⟨_, _, own₁⟩
    · exact ⟨_, _, own₂⟩
  · exact books.congr (anyOn_two manned mem₂ mem₁ pile)
  · rw [q.borrowed.restarts] at moored₁' moored₂'
    refine ⟨fun r' within => unguarded r' (q.unguarded r' within), monitored.trans q.monitored,
      slot.trans q.bare, q.borrowed.recalled recalled, ⟨inner', ?_, ?_⟩, fun r' within absent => ?_,
      q.once⟩
    · rcases onward with ⟨-, same⟩ | ⟨asked, upper⟩
      · rw [same]
        exact ground.mono (fun torn => torn.mono heard) fun _ _ => rfl
      · refine .inr ⟨?_, r₂, mem₂, fun kind mem => ?_⟩
        · obtain ⟨hook, there⟩ := Option.isSome_iff_exists.mp asked
          rcases ground_callback held ground mem (inner_of_next there) with ⟨id, rfl⟩ | ⟨-, -, -, torn, -⟩
          · -- the script was told while both were on
            refine ⟨(id, ⟨e₁, .monitor event⟩), ?_,
              overlaps_of manned sound differ pile (List.contains_iff_mem.mpr mem) counts⟩
            rw [heard, there]
            exact List.mem_cons_self
          · exact torn.mono heard
        · rw [upper kind mem]
          exact moored₂.own kind mem
    · have tiered : Tiered x'.engine f₀ inner' [r₂, r₁]
          (x.engine.facility.callback? Facility.profilerTool) :=
        ⟨hooks₁, moored₂', inner', moored₁', fun _ _ => rfl⟩
      rw [pile]
      exact tiered.congr (fun _ _ => rfl) again
    · refine absurd ?_ absent
      rcases which r' within with rfl | rfl
      · exact listens₁
      · exact listens₂

end

/-- **A monitoring event** is booked by those who are on, and the tool hears of it. -/
theorem tool_heeded (held : HeldByTool f₀) (clear : f₀.Clear)
    (taken : (f₀.holder? Facility.profilerTool).isSome)
    (q : ToolStand f₀ a b (Torn a b x) m.pile x.engine) (manned : Manned [a, b] m x.engine)
    (sound : m.Sound (Own a b owner)) (wraps : Wraps m x.engine) (event : MonitorEvent) :
    ∃ x', answer (Overheard.scripts.announceEvent event) x = (.ok (), x') ∧
      Announced .tool (listener f₀ event) (.monitor event) a b (ToolStand f₀ a b) m x x' := by
  by_cases mem : event.kind ∈ ourKinds
  · rcases pile_cases sound with none | ⟨r, pile⟩ | ⟨r₂, r₁, differ, pile⟩
    · exact tool_heeded_inert q manned sound held (.inl none)
    · exact tool_heeded_one q manned sound held clear taken wraps mem pile
    · exact tool_heeded_both q manned sound held clear taken wraps mem differ pile
  · exact tool_heeded_inert q manned sound held (.inr mem)

/-- **A trace event** finds no hook. -/
theorem tool_unheard {frame : Frame} (lit : frame.linesOn = true)
    (q : ToolStand f₀ a b (Torn a b x) m.pile x.engine) (manned : Manned [a, b] m x.engine)
    (event : TraceEvent) :
    answer (Overheard.scripts.announceTrace frame event) x = (.ok true, x) ∧
      Announced .tool none (.trace frame event) a b (ToolStand f₀ a b) m x x := by
  have bare : (Overheard.scripts.engine x).traceHook? = none := q.bare
  refine ⟨?_, .refl _, manned, .nothing rfl _, rfl, ⟨none, x.engine, rfl, .inl rfl⟩, q⟩
  rw [Scripts.answer_announceTrace, bare]
  exact congrArg (fun on => (Except.ok on, x)) lit

end LineClock.Course

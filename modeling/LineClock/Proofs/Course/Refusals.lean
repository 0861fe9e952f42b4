import LineClock.Proofs.Course.Lifecycle
import LineClock.Proofs.Engine.FailedInstall
import LineClock.Proofs.Engine.FailedUninstall

/-!
# Switching that fails

Another tool holds the profilers' id, and one call of the facility is refused while a profiler is
switched on or off. When the switching fails, the dispatch of all threads is right, but the id is not
rolled back: what the other tool has in the end depends on which call was refused.

Main statements: `enable_refused` and `disable_refused`.
-/

namespace LineClock

open Machine Engine

variable {registry : RegistryId} {r : Refusal}

/-! ## Switching on -/

/-- No profiler of a registry is on, and it listens on no thread. -/
structure Idle (registry : RegistryId) (e : Engine) : Prop where
  nobody : Nobody registry e
  off : ∀ th, (e.dispatchAt th registry).activated = false
  idle : ∀ th, (e.dispatchAt th registry).busy = false
  nowhere : (e.share registry).threads = 0

theorem Idle.balanced {e : Engine} (h : Idle registry e) : Balanced registry e := fun th =>
  (h.off th).trans (h.nobody th).symm

/-- **Switching a profiler on that fails** leaves all counts as they were. It leaves the profilers' id
as it was, now and after any switching on and off later, if the refusal came before the first change
at the id, and only then. -/
theorem enable_refused {e e' : Engine} (h : Refusable registry r e)
    (foreign : e.facility.Foreign registry) {p : ProfilerId} {err : ProfilerError}
    (failed : answer (enable registry p) e = (.error err, e')) :
    e'.dispatch = e.dispatch ∧ (e'.share registry).threads = (e.share registry).threads ∧
      (e.facility.Alike e'.facility ↔ r.Early e.facility) ∧
      ((e.facility.holder? Facility.profilerTool).isSome → Idle registry e →
        ∀ l, Nobody registry (switches registry l e') →
          (e.facility.Alike (switches registry l e').facility ↔ r.Early e.facility)) := by
  have g := h.guarded_calm
  rw [← h.eq_withRefusals] at failed
  obtain ⟨f, ⟨hooks, s, r', spent, threads⟩, holder, early⟩ :=
    g.enable_fails h.monitored h.once foreign failed
  have share : ((retooled registry (e.withRefusals []) hooks f s).withRefusals [r']).share registry = s :=
    share_retooled g.unguarded hooks f s
  refine ⟨rfl, (congrArg ToolShare.threads share).trans threads, early, fun held idle l nobody => ?_⟩
  have there := Stationed.of_nobody ((g.retooled hooks f s).spent spent) h.monitored idle.idle
    idle.off ((congrArg ToolShare.threads share).trans (threads.trans idle.nowhere))
  have vacant : f.Vacant := fun free =>
    absurd ((holder held).symm.trans free) (Option.isSome_iff_ne_none.mp held)
  have alike : f.Alike _ := there.switches_alike vacant idle.balanced l nobody
  refine Iff.trans ?_ early
  exact ⟨fun same => same.trans alike.symm, fun same => same.trans alike⟩

/-- A machine on which another tool holds the profilers' id, with a refusal to come. -/
def lending (refusals : List Refusal) : Engine where
  registries := ⟨[(Course.registry, { backend := .tool, wrap := true, guarded := true })]⟩
  facility :=
    { holders := ⟨[(Facility.profilerTool, "coverage")]⟩
      events := ⟨[(Facility.profilerTool, .ofList [.line])]⟩
      callbacks := ⟨[((Facility.profilerTool, .line), .script 7)]⟩ }
  refusals := refusals

theorem lending_scripted (refusals : List Refusal) : (lending refusals).facility.Scripted := by
  intro tool kind hook there
  have there : (if (Facility.profilerTool, EventKind.line) = (tool, kind) then
    some (ToolHook.script 7) else none) = some hook := there
  split at there
  · exact ⟨7, (Option.some.inj there).symm⟩
  · cases there

/-- A profiler is switched on and off on one thread. -/
def onAndOff : List Switch := [⟨0, 4, true⟩, ⟨0, 4, false⟩]

/-- Where a registry is known on one thread only, and nobody is on there. -/
theorem nobody_of_dispatch {e : Engine} (d : Dispatch)
    (known : e.dispatch = ⟨[((0, registry), d)]⟩) (off : d.isActive = false) : Nobody registry e := by
  intro th
  have read : e.dispatchAt th registry = (if (0, registry) = (th, registry) then some d else none).getD {} := by
    unfold dispatchAt
    rw [known]
    rfl
  rw [read]
  split
  · exact off
  · rfl

theorem failed_of_toBool {ε α : Type} {x : Except ε α × Engine} (h : x.1.toBool = false) :
    ∃ err, x = (.error err, x.2) := by
  obtain ⟨_ | _, _⟩ := x
  · exact ⟨_, rfl⟩
  · cases h

/-- The kinds of the tool cannot be read. -/
def unreadable : Refusal := { call := .getEvents, error := .invalidTool 2 }

/-- What an attempt to switch a profiler on leaves. -/
def attempted (refusal : Refusal) : Engine :=
  (answer (enable Course.registry 4) (lending [refusal])).2

theorem enable_refused_unreadable :
    Refusable Course.registry unreadable (lending [unreadable]) ∧
      (lending [unreadable]).facility.Foreign Course.registry ∧
      (∃ err, answer (enable Course.registry 4) (lending [unreadable]) =
        (.error err, attempted unreadable)) ∧
      Idle Course.registry (lending [unreadable]) ∧
      Nobody Course.registry (switches Course.registry onAndOff (attempted unreadable)) ∧
      (lending [unreadable]).facility.Alike
        (switches Course.registry onAndOff (attempted unreadable)).facility := by
  have refusable : Refusable Course.registry unreadable (lending [unreadable]) :=
    ⟨rfl, rfl, rfl, rfl, rfl, rfl, Nat.le_refl 1⟩
  have foreign : (lending [unreadable]).facility.Foreign Course.registry := by
    intro kind serial stands
    obtain ⟨id, script⟩ := lending_scripted _ _ _ _ stands
    cases script
  obtain ⟨err, failed⟩ := failed_of_toBool (x := answer (enable Course.registry 4) (lending [unreadable]))
    (by decide +kernel)
  have idle : Idle Course.registry (lending [unreadable]) :=
    ⟨fun _ => rfl, fun _ => rfl, fun _ => rfl, rfl⟩
  have nobody : Nobody Course.registry (switches Course.registry onAndOff (attempted unreadable)) :=
    nobody_of_dispatch {} (by decide +kernel) rfl
  refine ⟨refusable, foreign, ⟨err, failed⟩, idle, nobody, ?_⟩
  exact ((enable_refused refusable foreign failed).2.2.2 rfl idle onAndOff nobody).mpr trivial

/-- The second callback is not registered. -/
def secondRefused : Refusal := { call := .register, skip := 1, error := .toolNotInUse 2 }

/-- Switching on fails, and from then on the tool has lost its callback. -/
theorem callback_taken :
    (answer (enable Course.registry 4) (lending [secondRefused])).1.toBool = false ∧
      (lending [secondRefused]).facility.callback? Facility.profilerTool .line = some (.script 7) ∧
      (attempted secondRefused).facility.callback? Facility.profilerTool .line =
        some (.profiler Course.registry 0) ∧
      (switches Course.registry onAndOff (attempted secondRefused)).facility.callback?
        Facility.profilerTool .line = some (.profiler Course.registry 0) := by
  decide +kernel

/-! ## Switching off -/

namespace ToolAmid

variable {f₀ : Facility} {held : ThreadKey → Option TraceHook} {e : Engine}

/-- Switching the last profiler off on a thread is to stop listening there. -/
theorem deactivates (h : ToolAmid registry f₀ held e) (balanced : Balanced registry e)
    {p : ProfilerId} {err : ProfilerError} {e' : Engine}
    (failed : answer (disable registry p) (e.withRefusals [r]) = (.error err, e')) :
    ∃ on, ({ active := on } : Dispatch).isActive = false ∧
      (e.dispatchOf registry).activated = true ∧
      answer (deactivateTool registry) ((e.withDispatch registry
        { e.dispatchOf registry with active := on, activated := false }).withRefusals [r]) =
          (.error err, e') := by
  let d := (e.dispatchOf registry).lower p ((e.dispatchOf registry).countOf p - 1)
  obtain ⟨on, nobody, asked⟩ := deactivate_of_error failed
  have lower : d = { e.dispatchOf registry with active := d.active } := Dispatch.lower_eq _ _ _
  have listens : (e.dispatchOf registry).activated = true :=
    (balanced e.thread).trans (Dispatch.isActive_of_isOn on)
  have known : ((e.withDispatch registry d).withRefusals [r]).dispatchOf registry = d :=
    withDispatch_dispatchOf registry e d
  have activated : (((e.withDispatch registry d).withRefusals [r]).dispatchOf registry).activated =
      true := by
    rw [known, lower]
    exact listens
  have backend : (((e.withDispatch registry d).withRefusals [r]).registry registry).backend = .tool :=
    h.stationed.unguarded.backend
  have twice : (e.withDispatch registry d).withDispatch registry { d with activated := false } =
      e.withDispatch registry { e.dispatchOf registry with active := d.active, activated := false } := by
    rw [lower]
    exact congrArg (fun dispatch => { e with dispatch }) (Assoc.set_set _ _ _ _)
  refine ⟨d.active, nobody, listens, ?_⟩
  change answer (deactivate registry) ((e.withDispatch registry d).withRefusals [r]) = _ at asked
  rw [answer_deactivate_tool backend activated, known] at asked
  rw [← twice]
  exact asked

/-- What the tool before has of the id that was not given back as a whole. -/
theorem unreturned_alike (h : ToolAmid registry f₀ held e) (foreign : f₀.Foreign registry)
    (tenant : (f₀.holder? Facility.profilerTool).isSome) (on : 0 < (e.share registry).threads)
    {f : Facility}
    (holder : f.holder? Facility.profilerTool = e.facility.holder? Facility.profilerTool)
    (unreturned : Guarded.Unreturned registry r e f) :
    f₀.Alike f ↔ r.call = .setEvents ∧
      (f₀.eventsOf Facility.profilerTool).union ourEvents = f₀.eventsOf Facility.profilerTool := by
  obtain ⟨f₁, alike, installs⟩ := h.stationed.place.on on
  have tenant₁ : (f₁.holder? Facility.profilerTool).isSome := by
    rw [alike.holder]
    exact tenant
  cases unreturned with
  | callback call stays =>
    obtain ⟨serial, ours, -⟩ := installs.ours .unwind (by decide)
    refine iff_of_false (foreign.not_alike (stays.trans ours)) fun h => ?_
    rw [call] at h
    cases h.1
  | events call stays callbacks =>
    have events : f.eventsOf Facility.profilerTool =
        (f₀.eventsOf Facility.profilerTool).union ourEvents := by
      rw [stays, installs.events, installs.wrappedEvents, if_pos tenant₁, alike.events]
    refine ⟨fun same => ⟨call, events.symm.trans same.events⟩, fun h => ⟨?_, ?_, ?_⟩⟩
    · exact holder.trans (Hosted.holder_kept alike installs tenant₁)
    · exact Hosted.callbacks_back alike installs callbacks
    · exact events.trans h.2

section

variable {d : Dispatch} {r' : Refusal}

/-- What is known of the threads when one of them stopped to listen. -/
theorem marked_dispatchAt (e : Engine) (d : Dispatch) (r' : Refusal) (th : ThreadKey) :
    ((e.withDispatch registry d).withRefusals [r']).dispatchAt th registry =
      if th = e.thread then d else e.dispatchAt th registry :=
  withDispatch_dispatchAt registry e d th

/-- Where the facility was not found, the thread stays counted. -/
theorem stranded (h : ToolAmid registry f₀ held e) (listens : (e.dispatchOf registry).activated = true)
    (off : d.activated = false) (unguarded : Unguarded registry ((e.withDispatch registry d).withRefusals [r'])) :
    Stranded registry e.facility ((e.withDispatch registry d).withRefusals [r']) := by
  obtain ⟨ths, distinct, mem, length⟩ := h.stationed.threads
  have here : e.thread ∈ ths := (mem e.thread).mpr listens
  refine ⟨unguarded, h.stationed.monitored, rfl, ths.erase e.thread, distinct.erase _, fun th => ?_, ?_⟩
  · rw [distinct.mem_erase_iff, mem, marked_dispatchAt]
    split
    · rename_i this
      simp [this, off]
    · rename_i other
      simp [other]
  · have some : 0 < ths.length := List.length_pos_of_mem here
    have counted : ths.length = (((e.withDispatch registry d).withRefusals [r']).share registry).threads :=
      length
    rw [List.length_erase_of_mem here, ← counted]
    exact Nat.sub_lt some Nat.one_pos

/-- Where the last thread stopped, no thread listens. -/
theorem off_everywhere (h : ToolAmid registry f₀ held e) (r' : Refusal)
    (listens : (e.dispatchOf registry).activated = true) (off : d.activated = false)
    (last : (e.share registry).threads - 1 = 0) (th : ThreadKey) :
    (((e.withDispatch registry d).withRefusals [r']).dispatchAt th registry).activated = false := by
  obtain ⟨ths, -, mem, length⟩ := h.stationed.threads
  have here : e.thread ∈ ths := (mem e.thread).mpr listens
  have some : 0 < ths.length := List.length_pos_of_mem here
  obtain ⟨only, one⟩ := List.length_eq_one_iff.mp (by omega : ths.length = 1)
  rw [one, List.mem_singleton] at here
  rw [marked_dispatchAt]
  split
  · exact off
  · rename_i other
    rw [← Bool.not_eq_true]
    intro on
    have listed := (mem th).mpr on
    rw [one, List.mem_singleton] at listed
    exact other (listed.trans here.symm)

end

/-- What a tool has in the end after switching off failed, from the engine that this left. -/
theorem disable_fails (h : ToolAmid registry f₀ held e) (balanced : Balanced registry e)
    (guarded : (e.registry registry).guarded = true) (foreign : f₀.Foreign registry)
    (tenant : (f₀.holder? Facility.profilerTool).isSome) (once : r.count ≤ 1) {p : ProfilerId}
    {err : ProfilerError} {e' : Engine}
    (failed : answer (disable registry p) (e.withRefusals [r]) = (.error err, e'))
    (l : List Switch) (nobody : Nobody registry (switches registry l e')) :
    f₀.Alike (switches registry l e').facility ↔ r.call = .setEvents ∧
      (f₀.eventsOf Facility.profilerTool).union ourEvents = f₀.eventsOf Facility.profilerTool := by
  obtain ⟨on, nobodyHere, listens, asked⟩ := h.deactivates balanced failed
  generalize hd : ({ e.dispatchOf registry with active := on, activated := false } : Dispatch) = d at asked
  let e₁ := e.withDispatch registry d
  have g : Guarded registry e₁ := ⟨h.stationed.unguarded.same rfl rfl, guarded⟩
  have off : d.activated = false := by rw [← hd]
  have idle : d.busy = false := by
    rw [← hd]
    exact h.stationed.idle e.thread
  have balanced' : Balanced registry e₁ := by
    intro th
    rw [withDispatch_dispatchAt registry e d]
    split
    · rw [off, ← hd]
      exact nobodyHere.symm
    · exact balanced th
  have some : 0 < (e.share registry).threads := by
    obtain ⟨ths, -, mem, length⟩ := h.stationed.threads
    rw [← length]
    exact List.length_pos_of_mem ((mem e.thread).mpr listens)
  obtain ⟨f₁, alike, installs⟩ := h.stationed.place.on some
  have tenant₁ : (f₁.holder? Facility.profilerTool).isSome := by
    rw [alike.holder]
    exact tenant
  have isHeld : (e.facility.holder? Facility.profilerTool).isSome := by
    rw [Hosted.holder_kept alike installs tenant₁]
    exact tenant
  have shared : (e.share registry).owned = false := by
    rw [installs.owned]
    exact Option.isNone_eq_false_iff.mpr tenant₁
  rcases g.deactivateTool_fails h.stationed.monitored once shared installs.reclaimed isHeld asked with
    ⟨r', call, spent, rfl⟩ | ⟨hooks, f, s, r', rfl, spent, last, nowhere, holder, unreturned⟩
  · -- the facility stays as it is from now on
    have stranded := h.stranded listens off (g.spent spent)
    obtain ⟨after, -⟩ := (Stranded.switching registry e.facility).switches (fun h => h.moveTo) stranded
      balanced' l
    obtain ⟨serial, ours, -⟩ := installs.ours .line (by decide)
    refine iff_of_false (fun same => ?_) fun h => ?_
    · rw [after.facility] at same
      exact foreign.not_alike ours same
    · rw [call] at h
      cases h.1
  · -- what comes later takes the facility for the tool's own and puts it back
    have there : Stationed (Hosted registry f) (fun th => e.slots.get? th) registry
        ((retooled registry e₁ hooks f s).withRefusals [r']) := by
      refine Stationed.of_nobody ((g.retooled hooks f s).spent spent) h.stationed.monitored
        (fun th => ?_) (h.off_everywhere r' listens off last)
        ((congrArg ToolShare.threads (share_retooled g.unguarded hooks f s)).trans nowhere)
      refine (congrArg Dispatch.busy (marked_dispatchAt e d r' th)).trans ?_
      split
      · exact idle
      · exact h.stationed.idle th
    have vacant : f.Vacant := fun free =>
      absurd (holder.symm.trans free) (Option.isSome_iff_ne_none.mp isHeld)
    have back := there.switches_alike vacant balanced' l nobody
    have same : f₀.Alike (switches registry l ((retooled registry e₁ hooks f s).withRefusals
        [r'])).facility ↔ f₀.Alike f :=
      ⟨fun same => same.trans back.symm, fun same => same.trans back⟩
    rw [same]
    have unreturned : Guarded.Unreturned registry r e f := by
      cases unreturned with
      | callback call same => exact .callback call same
      | events call same callbacks => exact .events call same callbacks
    exact h.unreturned_alike foreign tenant some holder unreturned

end ToolAmid

namespace Lifecycle

variable {σ : Type} {s : Scripts σ}

/-- An engine on which another tool holds the profilers' id and no profiler of a registry was on yet.
Nothing is refused so far. The hooks of others are scripts. -/
structure Lent (registry : RegistryId) (e : Engine) : Prop where
  present : (e.registries.get? registry).isSome
  backend : (e.registry registry).backend = .tool
  released : (e.registry registry).released = false
  monitored : e.monitored = true
  refusals : e.refusals = []
  unused : (e.share registry).threads = 0
  unknown : ∀ th, e.dispatchAt th registry = {}
  others : ∀ th other, other ≠ registry → (e.dispatchAt th other).activated = false
  hooks : Scripted fun th => e.slots.get? th
  callbacks : e.facility.Scripted
  tenant : (e.facility.holder? Facility.profilerTool).isSome

namespace Lent

variable {e : Engine}

theorem vacant (lent : Lent registry e) : e.facility.Vacant := fun free =>
  absurd free (Option.isSome_iff_ne_none.mp lent.tenant)

/-- A callback of the registry is none of the tool's. -/
theorem foreign (lent : Lent registry e) : e.facility.Foreign registry := by
  intro kind serial stands
  obtain ⟨id, script⟩ := lent.callbacks _ _ _ stands
  cases script

theorem alive (lent : Lent registry e) :
    Alive registry (ToolAmid registry e.facility) (fun th => e.slots.get? th) (fun _ _ => 0) e := by
  have unguarded : Unguarded registry e :=
    ⟨lent.present, lent.backend, fun _ r mem => absurd mem (by simp [lent.refusals]), lent.released⟩
  refine ⟨⟨⟨unguarded, lent.monitored, fun _ => rfl, fun th => ?_,
    ⟨[], List.nodup_nil, fun th => ?_, lent.unused.symm⟩, fun _ => .refl _,
    fun on => absurd lent.unused (Nat.ne_of_gt on)⟩, lent.others⟩, lent.hooks, fun th => ?_,
    fun th => ?_, fun th p => ?_⟩
  · rw [lent.unknown]
  · rw [lent.unknown]
    simp
  · rw [lent.unknown]
    rfl
  · rw [lent.unknown]
    exact .nil
  · rw [lent.unknown]
    rfl

end Lent

end Lifecycle

open Lifecycle in
/-- **Switching a profiler off that fails.** Whatever happened to the profilers before, and however
they are switched on and off later, once nobody is on the tool has all of its own again if all of its
callbacks were given back and the event set that was not is its own, and only then. -/
theorem disable_refused {σ : Type} {s : Scripts σ} (meek : s.Meek) {x : σ}
    (lent : Lent registry (s.engine x)) (turns : List Turn) (th : ThreadKey) (once : r.count ≤ 1)
    {p : ProfilerId} {err : ProfilerError} {e' : Engine}
    (failed : answer (disable registry p)
      { s.engine (play s registry turns x) with thread := th, refusals := [r] } = (.error err, e'))
    (l : List Switch) (nobody : Nobody registry (switches registry l e')) :
    let f₀ := (s.engine x).facility
    f₀.Alike (switches registry l e').facility ↔ r.call = .setEvents ∧
      (f₀.eventsOf Facility.profilerTool).union ourEvents = f₀.eventsOf Facility.profilerTool := by
  intro f₀
  have living : Living s registry (ToolAmid registry f₀) :=
    ToolAmid.living meek lent.vacant lent.callbacks
  have alive := (lent.alive.play living meek.get_put turns).moveTo living th
  generalize hc : ({ s.engine (play s registry turns x) with thread := th } : Engine) = c at alive
  have given : ({ s.engine (play s registry turns x) with thread := th, refusals := [r] } : Engine) =
    c.withRefusals [r] := by rw [← hc]; rfl
  rw [given] at failed
  have there := alive.there
  cases guarded : (c.registry registry).guarded with
  | true => exact there.disable_fails alive.balanced guarded lent.foreign lent.tenant once failed l nobody
  | false =>
    -- a registry that is not guarded is refused nothing
    have unguarded := there.stationed.unguarded
    have free : Unguarded registry (c.withRefusals [r]) := by
      refine ⟨unguarded.present, unguarded.backend, fun on => ?_, unguarded.released⟩
      exact absurd (on.symm.trans guarded) (by decide)
    have there' : ToolAmid registry f₀ _ (c.withRefusals [r]) :=
      ⟨⟨free, there.stationed.monitored, there.stationed.slots, there.stationed.idle,
        there.stationed.threads, there.stationed.place⟩, there.others⟩
    obtain ⟨e₁, disabled, -⟩ :=
      (ToolAmid.switching registry lent.vacant _).disable there' alive.balanced p
    cases disabled.symm.trans failed

open Lifecycle in
theorem lent_lending : Lent Course.registry (lending []) := by
  refine ⟨rfl, rfl, rfl, rfl, rfl, rfl, fun _ => rfl, fun _ _ _ => rfl, fun th hook there => ?_,
    lending_scripted [], rfl⟩
  cases there

/-- The event set of the tool cannot be given back. -/
def unsettable : Refusal := { call := .setEvents, error := .toolNotInUse 2 }

/-- A profiler was switched on, and then there is a refusal to come. -/
def listening (refusal : Refusal) : Engine :=
  { Lifecycle.play Scripts.quiet Course.registry [⟨0, .enable 4⟩] (lending []) with
    thread := 0, refusals := [refusal] }

/-- What an attempt to switch it off leaves. -/
def attemptedOff (refusal : Refusal) : Engine :=
  (answer (disable Course.registry 4) (listening refusal)).2

theorem disable_refused_unsettable :
    Scripts.quiet.Meek ∧ Lifecycle.Lent Course.registry (lending []) ∧
      (∃ err, answer (disable Course.registry 4) (listening unsettable) =
        (.error err, attemptedOff unsettable)) ∧
      Nobody Course.registry (switches Course.registry onAndOff (attemptedOff unsettable)) ∧
      ¬ (lending []).facility.Alike
        (switches Course.registry onAndOff (attemptedOff unsettable)).facility := by
  obtain ⟨err, failed⟩ := failed_of_toBool (x := answer (disable Course.registry 4) (listening unsettable))
    (by decide +kernel)
  have nobody : Nobody Course.registry (switches Course.registry onAndOff (attemptedOff unsettable)) :=
    nobody_of_dispatch {} (by decide +kernel) rfl
  refine ⟨Scripts.meek_quiet, lent_lending, ⟨err, failed⟩, nobody, fun alike => ?_⟩
  have same := (disable_refused (s := Scripts.quiet) (x := lending []) Scripts.meek_quiet lent_lending
    [⟨0, .enable 4⟩] 0 (Nat.le_refl 1) failed onAndOff nobody).mp alike
  exact absurd same.2 (by decide +kernel)

/-- The first callback is not given back. -/
def firstRefused : Refusal := { call := .register, error := .toolNotInUse 2 }

/-- Switching off fails, and from then on the tool has neither its callback nor its event set. -/
theorem callback_not_returned :
    (answer (disable Course.registry 4) (listening firstRefused)).1.toBool = false ∧
      (switches Course.registry onAndOff (attemptedOff firstRefused)).facility.callback?
        Facility.profilerTool .line = some (.profiler Course.registry 0) ∧
      (switches Course.registry onAndOff (attemptedOff firstRefused)).facility.eventsOf
        Facility.profilerTool ≠ (lending []).facility.eventsOf Facility.profilerTool := by
  decide +kernel

end LineClock

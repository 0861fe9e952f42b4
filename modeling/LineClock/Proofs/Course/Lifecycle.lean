import LineClock.Proofs.Course.Basic
import LineClock.Proofs.Engine.Living

/-!
# The life of profilers, whatever happens

Profilers of one registry on any number of threads, with meek hooks of others in the trace slots and
at the tool ids. Whatever happens and in whatever order, the counts are what is due, the registry
listens where some count is not zero, and where it does not listen everything is as it was.

Main statement: `lifecycle`.
-/

namespace LineClock

open Machine Engine Lifecycle

variable {σ : Type} {s : Scripts σ} {registry : RegistryId}

namespace Facility

/-- Only the holder of an id subscribes to events under it. -/
def Subscribed (f : Facility) : Prop := ∀ tool, f.holder? tool = none → f.eventsOf tool = .empty

/-! No operation of the facility ends this. -/

namespace Subscribed

variable {f f' : Facility}

/-- A facility that nobody used. -/
theorem empty : ({} : Facility).Subscribed := fun _ _ => rfl

theorem claim (h : f.Subscribed) {tool : ToolId} {name : String}
    (done : f.claim tool name = .ok f') : f'.Subscribed := by
  have claimed : f' = { f with holders := f.holders.set tool name } := by
    unfold Facility.claim at done
    cases inside : check tool with
    | error err =>
      rw [inside] at done
      cases done
    | ok =>
      rw [inside] at done
      cases held : (f.holder? tool).isSome <;> rw [held] at done <;> cases done
      rfl
  intro other free
  rw [claimed] at free ⊢
  have free : (f.holders.set tool name).get? other = none := free
  rw [Assoc.get?_set] at free
  split at free
  · cases free
  · exact h other free

theorem free (h : f.Subscribed) (tool : ToolId) : (f.free tool).Subscribed := by
  intro other free
  have free : (f.holders.erase tool).get? other = none := free
  show (f.events.erase tool).getD other .empty = .empty
  rw [Assoc.get?_erase] at free
  rw [Assoc.getD, Assoc.get?_erase]
  split
  · rfl
  · rename_i differ
    rw [if_neg differ] at free
    exact h other free

theorem register (h : f.Subscribed) {tool : ToolId} {kind : EventKind} {hook previous : Option ToolHook}
    (done : f.register tool kind hook = .ok (previous, f')) : f'.Subscribed := by
  unfold Facility.register at done
  cases inside : check tool <;> rw [inside] at done <;> cases done
  exact h

theorem setEvents (h : f.Subscribed) {tool : ToolId} {events : EventSet}
    (done : f.setEvents tool events = .ok f') : f'.Subscribed := by
  unfold Facility.setEvents at done
  cases inside : check tool with
  | error err =>
    rw [inside] at done
    cases done
  | ok =>
    rw [inside] at done
    cases held : f.holder? tool with
    | none =>
      rw [held] at done
      cases done
    | some name =>
      rw [held] at done
      cases done
      intro other free
      have differ : tool ≠ other := by
        rintro rfl
        cases held.symm.trans free
      show (f.events.set tool events).getD other .empty = .empty
      rw [Assoc.getD_set, if_neg differ]
      exact h other free

theorem disable (h : f.Subscribed) (tool : ToolId) (location : Location) :
    (f.disable tool location).Subscribed := by
  unfold Facility.disable
  split
  · exact h
  · exact h

theorem silence (h : f.Subscribed) (tool : ToolId) : (f.silence tool).Subscribed := by
  intro other free
  show (f.events.set tool .empty).getD other .empty = .empty
  rw [Assoc.getD_set]
  split
  · rfl
  · exact h other free

theorem restart (h : f.Subscribed) : f.restart.Subscribed := h

end Subscribed

end Facility

namespace SlotAmid

variable {facility : Facility} {held : ThreadKey → Option TraceHook} {e : Engine}

/-- What is known of another engine in the same way is known of the facility and the tool id. -/
theorem receding {held' : ThreadKey → Option TraceHook} {e' : Engine}
    (h : SlotAmid registry facility held e) (h' : SlotAmid registry facility held' e') :
    Receding registry e e' :=
  ⟨Nat.le_of_eq (h'.nowhere.trans h.nowhere.symm), .inl (h'.facility.trans h.facility.symm)⟩

/-- Listening through the trace slots is a way to live. -/
theorem living (meek : s.Meek) (scripted : facility.Scripted) :
    Living s registry (SlotAmid registry facility) where
  switching := switching registry facility
  others h := h.others
  moveTo h _ := ⟨h.backend, h.facility, h.nowhere, h.others, h.thread⟩
  forget {held e} h dispatch own others := by
    refine ⟨h.backend, h.facility, h.nowhere, others, fun th => ?_⟩
    have known : ({ e with dispatch } : Engine).dispatchAt th registry =
      dispatch.getD (th, registry) {} := rfl
    rw [known]
    rcases own th with same | ⟨blank, off⟩
    · rw [same]
      exact h.thread th
    · rw [blank]
      exact ⟨rfl, fun on => (by cases on), fun _ => (h.thread th).off off⟩
  unhook {held e} h off := by
    refine ⟨h.backend, h.facility, h.nowhere, h.others, fun th => ?_⟩
    rw [withHook_slots]
    split
    · rename_i here
      have off : ((e.withHook none).dispatchAt th registry).activated = false := here ▸ off
      exact ⟨(h.thread th).idle, fun on => absurd (on.symm.trans off) (by simp), fun _ => rfl⟩
    · exact h.thread th
  trace h hooks frame event := by
    obtain ⟨there, calm⟩ := h.announceTrace meek hooks frame event
    exact ⟨there, calm, there.facility.trans h.facility.symm⟩
  monitor h event := by
    obtain ⟨there, calm⟩ := h.announceEvent meek scripted event
    exact ⟨there, calm, there.facility.trans h.facility.symm⟩
  raises {held e} h balanced p := by
    obtain ⟨e', enabled, there, -⟩ := (switching registry facility held).enable h balanced p
    rw [enabled]
    exact .inl (there.facility.trans h.facility.symm)
  recedes {held e} h balanced p left := by
    obtain ⟨e', lowered, there, -⟩ := (switching registry facility held).lower h balanced p left
    rw [lowered]
    exact h.receding there
  forgets {held e} h balanced := by
    obtain ⟨e', forgotten, there, -⟩ := (switching registry facility held).forget h balanced
    rw [forgotten]
    exact (h.receding there).trans (.of_same rfl rfl)

end SlotAmid

namespace ToolAmid

variable {f₀ : Facility}

/-- Listening through the tool id is a way to live. -/
theorem living (meek : s.Meek) (vacant : f₀.Vacant) (scripted : f₀.Scripted) :
    Living s registry (ToolAmid registry f₀) where
  switching := switching registry vacant
  others h := h.others
  moveTo h _ :=
    ⟨⟨h.stationed.unguarded.same rfl rfl, h.stationed.monitored, h.stationed.slots, h.stationed.idle,
      h.stationed.threads, h.stationed.place⟩, h.others⟩
  forget {held e} h dispatch own others := by
    obtain ⟨ths, distinct, mem, length⟩ := h.stationed.threads
    refine ⟨⟨h.stationed.unguarded.same rfl rfl, h.stationed.monitored, h.stationed.slots, fun th => ?_,
      ⟨ths, distinct, fun th => ?_, length⟩, h.stationed.place⟩, others⟩
    · rcases own th with same | ⟨blank, -⟩
      · exact (congrArg Dispatch.busy same).trans (h.stationed.idle th)
      · exact congrArg Dispatch.busy blank
    · rw [mem]
      rcases own th with same | ⟨blank, off⟩
      · exact iff_of_eq (congrArg (fun d : Dispatch => d.activated = true) same.symm)
      · rw [off]
        exact iff_of_eq (congrArg (fun d : Dispatch => d.activated = true) blank.symm)
  unhook {held e} h off := by
    refine ⟨⟨h.stationed.unguarded.same rfl rfl, h.stationed.monitored, fun th => ?_, h.stationed.idle,
      h.stationed.threads, h.stationed.place⟩, h.others⟩
    rw [withHook_slots]
    split
    · rfl
    · exact h.stationed.slots th
  trace {held x} h hooks frame event := by
    have same := h.announceTrace meek hooks frame event
    simp only [same]
    exact ⟨h, .refl registry _, trivial⟩
  monitor h event := h.announceEvent meek scripted event
  raises h balanced p := h.enable_facility vacant balanced p
  recedes h balanced p left := h.receding_lower vacant balanced p left
  forgets h _ := h.receding_forget vacant

end ToolAmid

namespace Lifecycle

/-- An engine on which no profiler of a registry was on yet, and where nobody else listens. The hooks
of others are scripts, and nothing is registered under the profilers' id if nobody holds it. -/
structure Fresh (registry : RegistryId) (e : Engine) : Prop where
  present : (e.registries.get? registry).isSome
  guarded : (e.registry registry).guarded = false
  released : (e.registry registry).released = false
  monitored : (e.registry registry).backend = .tool → e.monitored = true
  unused : (e.share registry).threads = 0
  unknown : ∀ th, e.dispatchAt th registry = {}
  others : ∀ th other, other ≠ registry → (e.dispatchAt th other).activated = false
  hooks : Scripted fun th => e.slots.get? th
  callbacks : e.facility.Scripted
  vacant : e.facility.holder? Facility.profilerTool = none →
    ∀ kind, e.facility.callback? Facility.profilerTool kind = none
  subscribed : e.facility.Subscribed

/-- Whether someone is on on a thread. -/
def Active (registry : RegistryId) (e : Engine) (th : ThreadKey) : Prop :=
  (e.dispatchAt th registry).isActive = true

/-- The trace slots hold the profilers' hooks where someone is on, and elsewhere what belongs
there. -/
structure AtSlots (registry : RegistryId) (held : ThreadKey → Option TraceHook) (f₀ : Facility)
    (e : Engine) : Prop where
  ours : ∀ th, (∃ serial, e.slots.get? th = some (.profiler registry serial)) ↔ Active registry e th
  theirs : ∀ th, ¬ Active registry e th → e.slots.get? th = held th
  facility : e.facility = f₀

/-- The profilers' id carries the callbacks of a registry for its kinds, and these kinds are
subscribed to. -/
def Carries (registry : RegistryId) (f : Facility) : Prop :=
  ∀ kind ∈ ourKinds, (f.eventsOf Facility.profilerTool).contains kind = true ∧
    ∃ serial, f.callback? Facility.profilerTool kind = some (.profiler registry serial)

/-- The profilers' id carries what the registry needs while someone is on somewhere, besides what it
carried before, and otherwise it is as it was. -/
structure AtId (registry : RegistryId) (held : ThreadKey → Option TraceHook) (f₀ : Facility)
    (e : Engine) : Prop where
  threads : ∃ ths : List ThreadKey, ths.Nodup ∧ (∀ th, th ∈ ths ↔ Active registry e th) ∧
    (e.share registry).threads = ths.length
  ours : Carries registry e.facility ↔ ∃ th, Active registry e th
  shared : (∃ th, Active registry e th) →
    e.facility.holder? Facility.profilerTool =
        some ((f₀.holder? Facility.profilerTool).getD toolName) ∧
      e.facility.eventsOf Facility.profilerTool =
        (f₀.eventsOf Facility.profilerTool).union ourEvents ∧
      ∀ tool kind, ¬ (tool = Facility.profilerTool ∧ kind ∈ ourKinds) →
        e.facility.callback? tool kind = f₀.callback? tool kind
  theirs : (∀ th, ¬ Active registry e th) → f₀.Alike e.facility
  slots : ∀ th, e.slots.get? th = held th

/-- How things stand after several things happened to a registry that was fresh. -/
structure Settled (registry : RegistryId) (e₀ : Engine) (turns : List Turn) (e : Engine) : Prop where
  counted : ∀ th p, (e.dispatchAt th registry).countOf p = counts turns th p
  active : ∀ th, Active registry e th ↔ ∃ p, 0 < counts turns th p
  once : ∀ th, ((e.dispatchAt th registry).active.map Prod.fst).Nodup
  entries : ∀ th p n, (p, n) ∈ (e.dispatchAt th registry).active ↔ 0 < n ∧ counts turns th p = n
  listens : match (e₀.registry registry).backend with
    | .slot => AtSlots registry (home (fun th => e₀.slots.get? th) turns) e₀.facility e
    | .tool => AtId registry (home (fun th => e₀.slots.get? th) turns) e₀.facility e

variable {L : Way} {held : ThreadKey → Option TraceHook} {due : Counts} {e e' e₀ : Engine}

/-- Someone is on where some count is not zero. -/
theorem Alive.active_iff (h : Alive registry L held due e) (th : ThreadKey) :
    Active registry e th ↔ ∃ p, 0 < due th p := by
  refine (h.fair th).isActive_iff.trans (exists_congr fun p => ?_)
  rw [← h.counted th p]
  rfl

/-- What is known of the trace slots while someone is on or nobody is. -/
theorem Alive.atSlots {facility : Facility} (h : Alive registry (SlotAmid registry facility) held due e) :
    AtSlots registry held facility e := by
  have on : ∀ th, Active registry e th ↔ (e.dispatchAt th registry).activated = true := by
    intro th
    rw [h.balanced th]
    rfl
  refine ⟨fun th => ⟨?_, fun active => ?_⟩, fun th off => ?_, h.there.facility⟩
  · rintro ⟨serial, stands⟩
    rw [on]
    -- a hook that is not a script does not belong there
    refine Decidable.not_not.mp fun off => ?_
    rw [Bool.not_eq_true] at off
    obtain ⟨id, script⟩ := h.scripted th _ (((h.there.thread th).off off).symm.trans stands)
    cases script
  · obtain ⟨-, -, serial, mine, slot⟩ := (h.there.thread th).listening ((on th).mp active)
    exact ⟨serial, slot.trans mine⟩
  · rw [on, Bool.not_eq_true] at off
    exact (h.there.thread th).off off

/-- What is known of the tool id while someone is on or nobody is. -/
theorem Alive.atId {f₀ : Facility} (vacant : f₀.Vacant) (scripted : f₀.Scripted)
    (h : Alive registry (ToolAmid registry f₀) held due e) : AtId registry held f₀ e := by
  obtain ⟨ths, distinct, mem, length⟩ := h.there.stationed.threads
  have place := h.there.stationed.place
  have here : ∀ th, th ∈ ths ↔ Active registry e th := by
    intro th
    rw [mem, h.balanced th]
    rfl
  have somewhere : (∃ th, Active registry e th) → 0 < (e.share registry).threads := by
    rintro ⟨th, active⟩
    rw [← length]
    exact List.length_pos_of_mem ((here th).mpr active)
  have nowhere : (¬ ∃ th, Active registry e th) → (e.share registry).threads = 0 := by
    intro nobody
    rw [← length, List.length_eq_zero_iff, List.eq_nil_iff_forall_not_mem]
    exact fun th listed => nobody ⟨th, (here th).mp listed⟩
  refine ⟨⟨ths, distinct, here, length.symm⟩, ⟨fun carries => ?_, fun active kind mine => ?_⟩,
    fun active => ?_, fun nobody => ?_, h.there.stationed.slots⟩
  · refine Classical.byContradiction fun nobody => ?_
    obtain ⟨-, serial, stands⟩ := carries .line (by decide)
    rw [(place.off (nowhere nobody)).callbacks] at stands
    obtain ⟨id, script⟩ := scripted _ _ _ stands
    cases script
  · have own := place.held (somewhere active)
    obtain ⟨serial, stands, -⟩ := own.ours kind mine
    exact ⟨own.subscribed mine, serial, stands⟩
  · obtain ⟨f₁, alike, installs⟩ := place.on (somewhere active)
    refine ⟨?_, ?_, fun tool kind other => ?_⟩
    · rw [installs.holder, alike.holder]
    · rw [installs.events, installs.wrappedEvents, alike.events, alike.holder]
      split
      · rfl
      · rename_i free
        rw [Option.not_isSome_iff_eq_none] at free
        rw [(vacant free).2]
    · rw [installs.others tool kind other, alike.callbacks]
  · exact place.off (nowhere fun ⟨th, active⟩ => nobody th active)

theorem counts_append (turns : List Turn) (t : Turn) :
    counts (turns ++ [t]) = Turn.count (counts turns) t := List.foldl_append

/-- Where nothing happened, someone is on as before. -/
theorem Settled.elsewhere {turns : List Turn} {t : Turn} (before : Settled registry e₀ turns e)
    (after : Settled registry e₀ (turns ++ [t]) e') {th : ThreadKey} (other : th ≠ t.thread) :
    Active registry e' th ↔ Active registry e th := by
  rw [after.active, before.active, counts_append]
  refine exists_congr fun p => ?_
  unfold Turn.count
  rw [if_neg other]

/-- No thread listens through the tool id if nobody is on, and only then. -/
theorem AtId.nobody_iff {f₀ : Facility} (h : AtId registry held f₀ e) :
    (e.share registry).threads = 0 ↔ ∀ th, ¬ Active registry e th := by
  obtain ⟨ths, -, mem, length⟩ := h.threads
  rw [length, List.length_eq_zero_iff, List.eq_nil_iff_forall_not_mem]
  exact forall_congr' fun th => not_congr (mem th)

/-- Where someone is on at one time and nobody at another, and only one thread makes a difference, it
is on that thread. -/
theorem active_iff_eq {th₀ : ThreadKey}
    (elsewhere : ∀ th, th ≠ th₀ → (Active registry e' th ↔ Active registry e th))
    (nobody : ∀ th, ¬ Active registry e th) (someone : ¬ ∀ th, ¬ Active registry e' th)
    (th : ThreadKey) : Active registry e' th ↔ th = th₀ := by
  have only : ∀ th, Active registry e' th → th = th₀ := by
    intro th active
    refine Decidable.not_not.mp fun other => ?_
    exact nobody th ((elsewhere th other).mp active)
  obtain ⟨th', active⟩ := Classical.not_forall_not.mp someone
  refine ⟨only th, ?_⟩
  rintro rfl
  exact only th' active ▸ active

/-- The facility changes when the first thread starts to listen through the tool id and when the last
one stops, and it is the thread on which something happened. -/
theorem Steady.one {turns : List Turn} {t : Turn} (steady : Steady registry e e')
    (before : Settled registry e₀ turns e) (after : Settled registry e₀ (turns ++ [t]) e')
    (changed : e'.facility ≠ e.facility) :
    (∀ th, ¬ Active registry e th) ∧ (∀ th, Active registry e' th ↔ th = t.thread) ∨
      (∀ th, Active registry e th ↔ th = t.thread) ∧ ∀ th, ¬ Active registry e' th := by
  have listens := before.listens
  have listens' := after.listens
  cases backend : (e₀.registry registry).backend with
  | slot =>
    simp only [backend] at listens listens'
    exact absurd (listens'.facility.trans listens.facility.symm) changed
  | tool =>
    simp only [backend] at listens listens'
    rcases steady with same | ⟨none, some⟩ | ⟨some, none⟩
    · exact absurd same changed
    · have nobody := listens.nobody_iff.mp none
      have someone := mt listens'.nobody_iff.mpr (Nat.ne_of_gt some)
      exact .inl ⟨nobody, active_iff_eq (fun _ => before.elsewhere after) nobody someone⟩
    · have nobody := listens'.nobody_iff.mp none
      have someone := mt listens.nobody_iff.mpr (Nat.ne_of_gt some)
      exact .inr ⟨active_iff_eq (fun _ other => (before.elsewhere after other).symm) nobody someone,
        nobody⟩

/-- How things stand, from what is known while a registry lives. -/
theorem Alive.settled {turns : List Turn}
    (h : Alive registry L (home (fun th => e₀.slots.get? th) turns) (counts turns) e)
    (listens : match (e₀.registry registry).backend with
      | .slot => AtSlots registry (home (fun th => e₀.slots.get? th) turns) e₀.facility e
      | .tool => AtId registry (home (fun th => e₀.slots.get? th) turns) e₀.facility e) :
    Settled registry e₀ turns e where
  counted := h.counted
  active := h.active_iff
  once th := (h.fair th).once
  entries th p n := by
    rw [← h.counted th p]
    exact (h.fair th).mem_iff p n
  listens := listens

namespace Fresh

/-- Nobody is on. -/
theorem alive (fresh : Fresh registry e) (there : L (fun th => e.slots.get? th) e) :
    Alive registry L (fun th => e.slots.get? th) (fun _ _ => 0) e := by
  refine ⟨there, fresh.hooks, fun th => ?_, fun th => ?_, fun th p => ?_⟩
  · rw [fresh.unknown]
    rfl
  · rw [fresh.unknown]
    exact .nil
  · rw [fresh.unknown]
    rfl

theorem slotAmid (fresh : Fresh registry e) (backend : (e.registry registry).backend = .slot) :
    SlotAmid registry e.facility (fun th => e.slots.get? th) e := by
  refine ⟨backend, rfl, fresh.unused, fresh.others, fun th => ?_⟩
  rw [fresh.unknown]
  exact ⟨rfl, fun on => (by cases on), fun _ => rfl⟩

theorem toolAmid (fresh : Fresh registry e) (backend : (e.registry registry).backend = .tool) :
    ToolAmid registry e.facility (fun th => e.slots.get? th) e := by
  have unrefused : (e.registry registry).guarded = true → ∀ r ∈ e.refusals, r.count = 0 := fun guarded =>
    absurd (guarded.symm.trans fresh.guarded) (by decide)
  refine ⟨⟨⟨fresh.present, backend, unrefused, fresh.released⟩, fresh.monitored backend,
    fun _ => rfl, fun th => ?_, ⟨[], List.nodup_nil, fun th => ?_, fresh.unused.symm⟩,
    fun _ => .refl _, fun on => absurd fresh.unused (Nat.ne_of_gt on)⟩, fresh.others⟩
  · rw [fresh.unknown]
  · rw [fresh.unknown]
    simp

theorem free (fresh : Fresh registry e) : e.facility.Vacant := fun none =>
  ⟨fresh.vacant none, fresh.subscribed _ none⟩

/-- A fresh registry lives in one way or another, in which things stand as they should. -/
theorem way (meek : s.Meek) (fresh : Fresh registry e) :
    ∃ L : Way, Living s registry L ∧ Alive registry L (fun th => e.slots.get? th) (fun _ _ => 0) e ∧
      ∀ turns e', Alive registry L (home (fun th => e.slots.get? th) turns) (counts turns) e' →
        Settled registry e turns e' := by
  cases backend : (e.registry registry).backend with
  | slot =>
    refine ⟨_, SlotAmid.living meek fresh.callbacks, fresh.alive (fresh.slotAmid backend),
      fun turns e' alive => alive.settled ?_⟩
    rw [backend]
    exact alive.atSlots
  | tool =>
    refine ⟨_, ToolAmid.living meek fresh.free fresh.callbacks, fresh.alive (fresh.toolAmid backend),
      fun turns e' alive => alive.settled ?_⟩
    rw [backend]
    exact alive.atId fresh.free fresh.callbacks

end Fresh

/-- **The life of profilers.** -/
theorem lifecycle (meek : s.Meek) {x : σ} (fresh : Fresh registry (s.engine x)) (turns : List Turn) :
    Settled registry (s.engine x) turns (s.engine (play s registry turns x)) ∧
      ∀ t : Turn,
        let before := play s registry turns x
        let out := (t.perform s registry).run before
        out.1 = t.answer (counts (turns ++ [t])) ∧
          ((s.engine out.2).facility ≠ (s.engine before).facility →
            (∀ th, ¬ Active registry (s.engine before) th) ∧
                (∀ th, Active registry (s.engine out.2) th ↔ th = t.thread) ∨
              (∀ th, Active registry (s.engine before) th ↔ th = t.thread) ∧
                ∀ th, ¬ Active registry (s.engine out.2) th) := by
  obtain ⟨L, living, start, settles⟩ := fresh.way meek
  have alive := start.play living meek.get_put turns
  have settled := settles turns _ alive
  refine ⟨settled, fun t => ?_⟩
  obtain ⟨answers, alive', steady⟩ := alive.turn living meek.get_put t
  have homes : home (fun th => (s.engine x).slots.get? th) (turns ++ [t]) = _ := List.foldl_append
  have settled' := settles (turns ++ [t]) _ (by rw [counts_append, homes]; exact alive')
  refine ⟨?_, steady.one settled settled'⟩
  rw [counts_append]
  exact answers

/-- A machine on which another tool holds the profilers' id, and another hook is in a trace slot. -/
def tenanted : Engine :=
  { Course.start .tool true true with
    facility :=
      { holders := ⟨[(Facility.profilerTool, "other")]⟩
        events := ⟨[(Facility.profilerTool, .ofList [.line, .start])]⟩
        callbacks := ⟨[((Facility.profilerTool, .line), .script 7)]⟩ }
    slots := ⟨[(1, .script 3)]⟩ }

/-- Two threads switch a profiler on; then it goes away on one of them, and the other ends. -/
def twoThreads : List Turn :=
  [⟨0, .enable 4⟩, ⟨1, .enable 4⟩, ⟨0, .enable 4⟩, ⟨0, .drop 4⟩, ⟨1, .ends⟩]

theorem lifecycle_two_threads :
    Scripts.quiet.Meek ∧ Fresh Course.registry tenanted ∧
      (∀ th p, counts twoThreads th p = 0) ∧
      tenanted.facility.Alike (play Scripts.quiet Course.registry twoThreads tenanted).facility := by
  have fresh : Fresh Course.registry tenanted := by
    refine ⟨rfl, rfl, rfl, fun _ => rfl, rfl, fun _ => rfl, fun _ _ _ => rfl, fun th hook there => ?_,
      fun tool kind hook there => ?_, fun free => (by cases free), fun tool free => ?_⟩
    · have there : (if 1 = th then some (TraceHook.script 3) else none) = some hook := there
      split at there
      · exact ⟨3, (Option.some.inj there).symm⟩
      · cases there
    · have there : (if (Facility.profilerTool, EventKind.line) = (tool, kind) then
        some (ToolHook.script 7) else none) = some hook := there
      split at there
      · exact ⟨7, (Option.some.inj there).symm⟩
      · cases there
    · have free : (if Facility.profilerTool = tool then some "other" else none) = none := free
      have read : tenanted.facility.eventsOf tool =
        (if Facility.profilerTool = tool then some (EventSet.ofList [.line, .start]) else none).getD
          .empty := rfl
      split at free
      · cases free
      · rename_i differ
        rw [read, if_neg differ]
        rfl
  have undone : ∀ th p, counts twoThreads th p = 0 := by
    intro th p
    simp only [counts, twoThreads, List.foldl_cons, List.foldl_nil, Turn.count, Act.count]
    by_cases first : th = 0
    · by_cases mine : 4 = p <;> simp [first, mine]
    · by_cases second : th = 1 <;> simp [first, second]
  obtain ⟨settled, -⟩ := lifecycle Scripts.meek_quiet fresh twoThreads
  have atId : AtId Course.registry _ tenanted.facility _ := settled.listens
  refine ⟨Scripts.meek_quiet, fresh, undone, atId.theirs fun th active => ?_⟩
  obtain ⟨p, some⟩ := (settled.active th).mp active
  exact absurd (undone th p) (Nat.ne_of_gt some)

end Lifecycle

end LineClock

import LineClock.Proofs.Course.Overhearing
import LineClock.Proofs.Engine.SlotPile

/-!
# Trace events under two registries

A trace event goes down a pile of registries at the trace slot to the hook below. One registry has
its hook in the slot when that hook has answered, and nothing changed. Of two the lower one finds the
hook of the upper one in the slot, takes it for a hook that came instead of the one below, and loses
that one.

Main statement: `slot_heeded`.
-/

namespace LineClock.Course

open Machine Engine

variable {a b r r₁ r₂ : RegistryId} {m : Muster} {owner : ProfilerId → RegistryId}
  {x y : Overheard} {frame : Frame} {bottom hook found : TraceHook}

/-- The script of a hook. -/
def voice : TraceHook → Option ScriptId
  | .script id => some id
  | .profiler _ _ => none

/-- The hook below the pile: the one that was there before, or, once the pile is torn, that of a
registry. -/
def Bottom (rs : List RegistryId) (h : ScriptId) (torn : Prop) (bottom : TraceHook) : Prop :=
  bottom = .script h ∨ torn ∧ ∃ r ∈ rs, ∃ serial, bottom = .profiler r serial

/-- Nothing changed that matters to events. -/
structure Unmoved (e e' : Engine) : Prop extends Abides e e' where
  registries : e'.registries = e.registries
  facility : e'.facility = e.facility
  dispatch : ∀ r, e'.dispatchOf r = e.dispatchOf r
  slot : e'.traceHook? = e.traceHook?
  profilers : e'.profilers = e.profilers

/-- The hook below the pile is asked while all of the pile wait: a script is told, and the hook of a
registry lets the event pass. -/
theorem ask_below (lit : frame.linesOn = true)
    (deaf : ∀ r serial, bottom = .profiler r serial →
      Deaf (y.engine.dispatchOf r) ∧ (y.engine.dispatchOf r).muted = []) (event : TraceEvent)
    (hops : Nat) :
    ∃ y', answer (Overheard.scripts.deliverTrace hops bottom frame event) y = (.ok true, y') ∧
      Unmoved y.engine y'.engine ∧ y'.soundings = y.soundings ∧
      y'.heard = notes (voice bottom) ⟨y.engine, .trace frame event⟩ ++ y.heard := by
  have still : Unmoved y.engine y.engine := ⟨.refl _, rfl, rfl, fun _ => rfl, rfl, rfl⟩
  cases bottom with
  | script id =>
    refine ⟨y.tell id (.trace frame event), ?_, still, rfl, rfl⟩
    rw [← lit]
    cases hops <;> rfl
  | profiler r serial =>
    cases hops with
    | zero =>
      refine ⟨y, ?_, still, rfl, rfl⟩
      rw [← lit]
      rfl
    | succ hops =>
      obtain ⟨deaf, clean⟩ := deaf r serial rfl
      obtain ⟨e₁, taken, kept, profilers⟩ := deaf.takes clean frame event
      refine ⟨{ y with engine := e₁ }, ?_, ⟨kept.toAbides, kept.registries, kept.facility,
        fun r' => ?_, kept.slot, profilers⟩, rfl, rfl⟩
      · rw [← lit]
        exact Overheard.scripts.answer_deliverTrace_kept taken hops serial
      · by_cases here : r' = r
        · rw [here]
          exact kept.own
        · exact kept.others r' here

/-- Who can take an event and pass it on: somebody is on, everybody wraps, and no other hook runs. -/
structure Fit (r : RegistryId) (e : Engine) : Prop where
  on : (e.dispatchOf r).activated = true
  idle : (e.dispatchOf r).busy = false
  clean : (e.dispatchOf r).muted = []
  somebody : (e.dispatchOf r).active ≠ []
  once : ((e.dispatchOf r).active.map Prod.fst).Nodup
  wraps : ∀ p, (e.dispatchOf r).isOn p = true → (e.profiler p).wrap = true

/-- Others recorded an event meanwhile. -/
theorem Fit.beside {e e₁ : Engine} {t : Tidings} {on : ProfilerId → Bool} (fit : Fit r e)
    (same : e₁.dispatchOf r = e.dispatchOf r) (books : Books t on e e₁) : Fit r e₁ := by
  refine ⟨?_, ?_, ?_, ?_, ?_, fun p on => ?_⟩
  all_goals rw [same] at *
  · exact fit.on
  · exact fit.idle
  · exact fit.clean
  · exact fit.somebody
  · exact fit.once
  · exact (books.wrap p).trans (fit.wraps p on)

theorem fit_of_manned {e : Engine} (manned : Manned [a, b] m e) (sound : m.Sound (Own a b owner))
    (wraps : Wraps m e) (listens : r ∈ m.pile) : Fit r e := by
  have mem := within sound listens
  refine ⟨?_, manned.idle r mem, manned.muted r mem, ?_, ?_, fun p on => ?_⟩
  · rw [manned.activated r mem]
    exact decide_eq_true listens
  · rw [manned.active r mem]
    exact (sound.listens r).mp listens
  · rw [manned.active r mem]
    exact (sound.fair r).once
  · rw [manned.isOn mem] at on
    exact wraps r p on

/-- **An event at the hook of the lowest registry.** It is recorded, and the hook below is asked. If
another hook than its own was in the slot, the registry takes that for the one to go on to. -/
theorem hook_lowest (lit : frame.linesOn = true) (fit : Fit r y.engine)
    (perched : Perched r bottom hook (y.engine.dispatchOf r))
    (deaf : ∀ r' serial, bottom = .profiler r' serial →
      r' = r ∨ Deaf (y.engine.dispatchOf r') ∧ (y.engine.dispatchOf r').muted = [])
    (slot : y.engine.traceHook? = some found) (event : TraceEvent) (hops : Nat) :
    ∃ y', answer (Overheard.scripts.deliverTrace (hops + 1) hook frame event) y = (.ok true, y') ∧
      Slotted r ((y.engine.dispatchOf r).before (if found = hook then bottom else found)) (some hook)
        y.engine y'.engine ∧
      Books (event.tidings frame) (y.engine.dispatchOf r).isOn y.engine y'.engine ∧
      y'.soundings = y.soundings ∧
      ∃ e₁, y'.heard = notes (voice bottom) ⟨e₁, .trace frame event⟩ ++ y.heard ∧
        ∀ r', (e₁.dispatchOf r').active = (y.engine.dispatchOf r').active := by
  obtain ⟨e₁, taken, busy, books⟩ :=
    perched.takes fit.idle fit.clean fit.somebody fit.once fit.wraps frame event
  let y₁ : Overheard := { y with engine := e₁ }
  have deaf₁ : ∀ r' serial, bottom = .profiler r' serial →
      Deaf (e₁.dispatchOf r') ∧ (e₁.dispatchOf r').muted = [] := by
    intro r' serial same
    by_cases here : r' = r
    · rw [here, busy.own]
      exact ⟨.inl rfl, fit.clean⟩
    · rw [busy.others r' here]
      exact (deaf r' serial same).resolve_left here
  obtain ⟨y₂, asked, unmoved, soundings, heard⟩ := ask_below (y := y₁) lit deaf₁ event hops
  have found₂ : y₂.engine.traceHook? = some found := (unmoved.slot.trans busy.slot).trans slot
  have known : y₂.engine.dispatchOf r = { y.engine.dispatchOf r with busy := true } :=
    (unmoved.dispatch r).trans busy.own
  obtain ⟨e₃, absorbed, again, profilers⟩ := perched.absorbs fit.idle fit.on known found₂ frame
  obtain ⟨serial, rfl⟩ := perched.own
  have passed := Overheard.scripts.answer_deliverTrace_passed taken hops serial
  refine ⟨{ y₂ with engine := e₃ }, ?_, ?_, (books.same unmoved.profilers).same profilers, soundings,
    e₁, heard, fun r' => ?_⟩
  · rw [passed]
    simp only
    have asked : answer (Overheard.scripts.deliverTrace hops bottom frame event)
      (Overheard.scripts.withEngine y e₁) = (.ok true, y₂) := asked
    have absorbed : answer (absorbTrace r frame (.ok true)) (Overheard.scripts.engine y₂) =
      (.ok true, e₃) := absorbed
    rw [asked, Scripts.answer_tryRun, absorbed]
    rfl
  · refine ⟨(busy.toAbides.trans unmoved.toAbides).trans again.toAbides,
      (again.registries.trans unmoved.registries).trans busy.registries,
      (again.facility.trans unmoved.facility).trans busy.facility, fun r' differ => ?_, again.own,
      again.slot⟩
    rw [again.others r' differ, unmoved.dispatch, busy.others r' differ]
  · by_cases here : r' = r
    · rw [here, busy.own]
    · rw [busy.others r' here]

/-- **An event at the upper of two registries.** Both record it, and the lower one goes on to the
upper one afterwards. -/
theorem hook_upper (lit : frame.linesOn = true) (differ : r₂ ≠ r₁) (fit₂ : Fit r₂ y.engine)
    (fit₁ : Fit r₁ y.engine) {hook₁ : TraceHook}
    (perched₂ : Perched r₂ hook₁ hook (y.engine.dispatchOf r₂))
    (perched₁ : Perched r₁ bottom hook₁ (y.engine.dispatchOf r₁))
    (deaf : ∀ r' serial, bottom = .profiler r' serial → r' = r₁ ∨ r' = r₂)
    (slot : y.engine.traceHook? = some hook)
    (apart : ∀ p, (y.engine.dispatchOf r₂).isOn p = true → (y.engine.dispatchOf r₁).isOn p = false)
    (event : TraceEvent) (hops : Nat) :
    ∃ y', answer (Overheard.scripts.deliverTrace (hops + 2) hook frame event) y = (.ok true, y') ∧
      Abides y.engine y'.engine ∧ y'.engine.registries = y.engine.registries ∧
      y'.engine.facility = y.engine.facility ∧
      y'.engine.dispatchOf r₂ = (y.engine.dispatchOf r₂).before hook₁ ∧
      y'.engine.dispatchOf r₁ = (y.engine.dispatchOf r₁).before hook ∧
      y'.engine.traceHook? = some hook ∧
      Books (event.tidings frame)
        (fun p => (y.engine.dispatchOf r₂).isOn p || (y.engine.dispatchOf r₁).isOn p) y.engine
        y'.engine ∧
      y'.soundings = y.soundings ∧
      ∃ e₁, y'.heard = notes (voice bottom) ⟨e₁, .trace frame event⟩ ++ y.heard ∧
        ∀ r', (e₁.dispatchOf r').active = (y.engine.dispatchOf r').active := by
  obtain ⟨e₁, taken, busy, books⟩ :=
    perched₂.takes fit₂.idle fit₂.clean fit₂.somebody fit₂.once fit₂.wraps frame event
  let y₁ : Overheard := { y with engine := e₁ }
  have lower : e₁.dispatchOf r₁ = y.engine.dispatchOf r₁ := busy.others r₁ differ.symm
  have fit : Fit r₁ y₁.engine := fit₁.beside lower books
  have perched : Perched r₁ bottom hook₁ (y₁.engine.dispatchOf r₁) := by
    rw [lower]
    exact perched₁
  have slot₁ : y₁.engine.traceHook? = some hook := busy.slot.trans slot
  have deaf₁ : ∀ r' serial, bottom = .profiler r' serial →
      r' = r₁ ∨ Deaf (y₁.engine.dispatchOf r') ∧ (y₁.engine.dispatchOf r').muted = [] := by
    intro r' serial same
    refine (deaf r' serial same).imp_right fun here => ?_
    rw [here, busy.own]
    exact ⟨.inl rfl, fit₂.clean⟩
  obtain ⟨y₂, delivered, put, books₁, soundings, e₂, heard, counts⟩ :=
    hook_lowest lit fit perched deaf₁ slot₁ event hops
  obtain ⟨serial₂, rfl⟩ := perched₂.own
  obtain ⟨serial₁, rfl⟩ := perched₁.own
  have other : TraceHook.profiler r₂ serial₂ ≠ .profiler r₁ serial₁ := by
    rintro ⟨⟩
    exact differ rfl
  rw [if_neg other, lower] at put
  have known : y₂.engine.dispatchOf r₂ = { y.engine.dispatchOf r₂ with busy := true } :=
    (put.others r₂ differ).trans busy.own
  obtain ⟨e₃, absorbed, again, profilers⟩ :=
    perched₂.absorbs fit₂.idle fit₂.on known put.slot frame
  rw [if_neg other.symm] at again
  have passed := Overheard.scripts.answer_deliverTrace_passed taken (hops + 1) serial₂
  rw [lower] at books₁
  have both := books.trans books₁ busy.thread busy.clock apart
  refine ⟨{ y₂ with engine := e₃ }, ?_, (busy.toAbides.trans put.toAbides).trans again.toAbides,
    (again.registries.trans put.registries).trans busy.registries,
    (again.facility.trans put.facility).trans busy.facility, again.own,
    (again.others r₁ differ.symm).trans put.own, again.slot, both.same profilers, soundings, e₂, heard,
    fun r' => ?_⟩
  · rw [passed]
    simp only
    have delivered : answer (Overheard.scripts.deliverTrace (hops + 1) (.profiler r₁ serial₁) frame event)
      (Overheard.scripts.withEngine y e₁) = (.ok true, y₂) := delivered
    have absorbed : answer (absorbTrace r₂ frame (.ok true)) (Overheard.scripts.engine y₂) =
      (.ok true, e₃) := absorbed
    rw [delivered, Scripts.answer_tryRun, absorbed]
    rfl
  · rw [counts r']
    by_cases here : r' = r₂
    · rw [here, busy.own]
    · exact congrArg Dispatch.active (busy.others r' here)

/-! ## At the top -/

theorem Bottom.mono {rs : List RegistryId} {h : ScriptId} {torn torn' : Prop} (below : Bottom rs h torn bottom)
    (worn : torn → torn') : Bottom rs h torn' bottom :=
  below.imp_right fun there => ⟨worn there.1, there.2⟩

variable {registries : Assoc RegistryId Registry} {facility : Facility} {h : ScriptId}

/-- The pile of two registries above the hook `h`. -/
abbrev SlotStand (registries : Assoc RegistryId Registry) (facility : Facility) (h : ScriptId)
    (a b : RegistryId) (torn : Prop) : List RegistryId → Engine → Prop :=
  SlotPile registries facility (Bottom [a, b] h torn)

/-- What the hook below is told, and whether it is the one that was there before. -/
theorem told_below {torn : Prop} (below : Bottom [a, b] h torn bottom) : voice bottom = some h ∨ torn := by
  rcases below with rfl | there
  · exact .inl rfl
  · exact .inr there.1

/-- The registry of a hook below the pile is one of the two. -/
theorem Bottom.belongs {torn : Prop} {serial : Nat} (below : Bottom [a, b] h torn bottom)
    (same : bottom = .profiler r serial) : r ∈ [a, b] := by
  rcases below with scripted | ⟨-, r', mem, serial', same'⟩
  · rw [same] at scripted
    cases scripted
  · rw [same] at same'
    cases same'
    exact mem

section

variable (q : SlotStand registries facility h a b (Torn a b x) m.pile x.engine)
  (manned : Manned [a, b] m x.engine) (sound : m.Sound (Own a b owner)) (lit : frame.linesOn = true)

include q manned sound lit

/-- Nobody listens. -/
theorem slot_heeded_none (pile : m.pile = []) (event : TraceEvent) (hops : Nat) :
    ∃ hook x', x.engine.traceHook? = some hook ∧
      answer (Overheard.scripts.deliverTrace (hops + 2) hook frame event) x = (.ok true, x') ∧
      Announced .slot (some h) (.trace frame event) a b (SlotStand registries facility h a b) m x x' := by
  obtain ⟨bottom, hook, below, slot, stacked⟩ := q.stacked
  rw [pile] at stacked
  obtain rfl : hook = bottom := stacked
  have deaf : ∀ r serial, hook = .profiler r serial →
      Deaf (x.engine.dispatchOf r) ∧ (x.engine.dispatchOf r).muted = [] := by
    intro r serial same
    have mem := below.belongs same
    refine ⟨deaf_of_silent manned sound mem ?_, manned.muted r mem⟩
    rw [pile]
    exact List.not_mem_nil
  obtain ⟨x', asked, unmoved, soundings, heard⟩ := ask_below lit deaf event (hops + 2)
  refine ⟨hook, x', slot, asked, unmoved.toAbides, ?_, ?_, soundings, ⟨_, _, heard, told_below below⟩, ?_⟩
  · exact manned.resaved fun r _ => ⟨_, _, unmoved.dispatch r⟩
  · refine Books.nobody (fun p => ?_) unmoved.profilers
    unfold anyOn
    rw [pile]
    rfl
  · refine ⟨unmoved.registries.trans q.registries, unmoved.facility.trans q.facility,
      ⟨hook, hook, below.mono fun torn => torn.mono heard, unmoved.slot.trans slot, ?_⟩, q.once⟩
    rw [pile]
    rfl

/-- One registry listens. -/
theorem slot_heeded_one (wraps : Wraps m x.engine) (pile : m.pile = [r]) (event : TraceEvent)
    (hops : Nat) :
    ∃ hook x', x.engine.traceHook? = some hook ∧
      answer (Overheard.scripts.deliverTrace (hops + 2) hook frame event) x = (.ok true, x') ∧
      Announced .slot (some h) (.trace frame event) a b (SlotStand registries facility h a b) m x x' := by
  obtain ⟨bottom, hook, below, slot, stacked⟩ := q.stacked
  rw [pile] at stacked
  obtain ⟨inner, perched, rfl⟩ := stacked
  have listens : r ∈ m.pile := by
    rw [pile]
    exact List.mem_singleton_self r
  have mem := within sound listens
  have deaf : ∀ r' serial, inner = .profiler r' serial →
      r' = r ∨ Deaf (x.engine.dispatchOf r') ∧ (x.engine.dispatchOf r').muted = [] := by
    intro r' serial same
    by_cases here : r' = r
    · exact .inl here
    · have mem' := below.belongs same
      refine .inr ⟨deaf_of_silent manned sound mem' ?_, manned.muted r' mem'⟩
      rw [pile, List.mem_singleton]
      exact here
  obtain ⟨x', delivered, put, books, soundings, e₁, heard, -⟩ := hook_lowest lit
    (fit_of_manned manned sound wraps listens) perched deaf slot event (hops + 1)
  rw [if_pos rfl] at put
  have again : (x.engine.dispatchOf r).before inner = x.engine.dispatchOf r := by
    have saved := perched.saved
    have wrapped := perched.wrapped
    generalize x.engine.dispatchOf r = d at saved wrapped
    obtain ⟨active, busy, activated, _, _, ours, muted⟩ := d
    cases saved
    cases wrapped
    rfl
  rw [again] at put
  have known : ∀ r', x'.engine.dispatchOf r' = x.engine.dispatchOf r' := by
    intro r'
    by_cases here : r' = r
    · rw [here]
      exact put.own
    · exact put.others r' here
  refine ⟨hook, x', slot, delivered, put.toAbides, ?_, ?_, soundings,
    ⟨_, _, heard, told_below below⟩, ?_⟩
  · exact manned.resaved fun r _ => ⟨_, _, known r⟩
  · exact books.congr (anyOn_one manned mem pile)
  · refine ⟨put.registries.trans q.registries, put.facility.trans q.facility,
      ⟨inner, hook, below.mono fun torn => torn.mono heard, put.slot, ?_⟩, q.once⟩
    rw [pile]
    refine ⟨inner, ?_, rfl⟩
    rw [known]
    exact perched

/-- Both registries listen. Afterwards the hook below the pile is that of the upper one. -/
theorem slot_heeded_both (wraps : Wraps m x.engine) (differ : r₂ ≠ r₁) (pile : m.pile = [r₂, r₁])
    (event : TraceEvent) (hops : Nat) :
    ∃ hook x', x.engine.traceHook? = some hook ∧
      answer (Overheard.scripts.deliverTrace (hops + 2) hook frame event) x = (.ok true, x') ∧
      Announced .slot (some h) (.trace frame event) a b (SlotStand registries facility h a b) m x x' := by
  obtain ⟨bottom, hook, below, slot, stacked⟩ := q.stacked
  rw [pile] at stacked
  obtain ⟨hook₁, perched₂, inner, perched₁, rfl⟩ := stacked
  obtain ⟨listens₂, listens₁, mem₂, mem₁, which⟩ := doubled sound differ pile
  have apart := on_apart manned sound differ mem₂ mem₁
  obtain ⟨x', delivered, abides, registries', facility', own₂, own₁, slot', books, soundings, e₁, heard,
    counts⟩ := hook_upper lit differ (fit_of_manned manned sound wraps listens₂)
      (fit_of_manned manned sound wraps listens₁) perched₂ perched₁
      (fun r' _ same => which r' (below.belongs same)) slot apart event hops
  -- who was told was told while both were on
  have torn : Torn a b x' := by
    cases spoken : voice inner with
    | none =>
      refine ((told_below below).resolve_left fun said => ?_).mono heard
      rw [spoken] at said
      cases said
    | some id =>
      refine ⟨(id, ⟨e₁, .trace frame event⟩), ?_,
        overlaps_of manned sound differ pile rfl counts⟩
      rw [heard, spoken]
      exact List.mem_cons_self
  refine ⟨hook, x', slot, delivered, abides, ?_, ?_, soundings, ⟨_, _, heard, told_below below⟩, ?_⟩
  · refine manned.resaved fun r mem => ?_
    rcases which r mem with rfl | rfl
    · exact ⟨_, _, own₁⟩
    · exact ⟨_, _, own₂⟩
  · exact books.congr (anyOn_two manned mem₂ mem₁ pile)
  · obtain ⟨serial, mine⟩ := perched₂.own
    refine ⟨registries'.trans q.registries, facility'.trans q.facility,
      ⟨hook, hook, .inr ⟨torn, r₂, mem₂, serial, mine⟩, slot', ?_⟩, q.once⟩
    rw [pile]
    refine ⟨hook₁, ?_, hook, ?_, rfl⟩
    · rw [own₂]
      exact perched₂.before hook₁
    · rw [own₁]
      exact perched₁.before hook

/-- **A trace event** is booked by those who are on, and the hook below hears of it. -/
theorem slot_heeded (there : 0 < registries.entries.length) (wraps : Wraps m x.engine)
    (event : TraceEvent) :
    ∃ x', answer (Overheard.scripts.announceTrace frame event) x = (.ok true, x') ∧
      Announced .slot (some h) (.trace frame event) a b (SlotStand registries facility h a b) m x x' := by
  obtain ⟨hops, enough⟩ : ∃ hops, Overheard.scripts.hopsAt x = hops + 2 := by
    refine ⟨registries.entries.length - 1, ?_⟩
    show x.engine.registries.entries.length + 1 = _
    rw [q.registries]
    omega
  have delivered : ∃ hook x', x.engine.traceHook? = some hook ∧
      answer (Overheard.scripts.deliverTrace (hops + 2) hook frame event) x = (.ok true, x') ∧
      Announced .slot (some h) (.trace frame event) a b (SlotStand registries facility h a b) m x x' := by
    rcases pile_cases sound with pile | ⟨r, pile⟩ | ⟨r₂, r₁, differ, pile⟩
    · exact slot_heeded_none q manned sound lit pile event hops
    · exact slot_heeded_one q manned sound lit wraps pile event hops
    · exact slot_heeded_both q manned sound lit wraps differ pile event hops
  obtain ⟨hook, x', slot, delivered, heeded⟩ := delivered
  have slot : (Overheard.scripts.engine x).traceHook? = some hook := slot
  refine ⟨x', ?_, heeded⟩
  rw [Scripts.answer_announceTrace, slot]
  simp only
  rw [enough, delivered]

end

/-- **A monitoring event** finds no callback. -/
theorem slot_unheard (silent : ∀ tool kind, facility.callback? tool kind = none)
    (q : SlotStand registries facility h a b (Torn a b x) m.pile x.engine)
    (manned : Manned [a, b] m x.engine) (event : MonitorEvent) :
    answer (Overheard.scripts.announceEvent event) x = (.ok (), x) ∧
      Announced .slot none (.monitor event) a b (SlotStand registries facility h a b) m x x := by
  have targets : (Overheard.scripts.engine x).facility.targets event = [] := by
    refine targets_silent (fun tool kind => ?_) event
    have same : (Overheard.scripts.engine x).facility = facility := q.facility
    rw [same]
    exact silent tool kind
  refine ⟨?_, .refl _, manned, .nothing rfl _, rfl, ⟨none, x.engine, rfl, .inl rfl⟩, q⟩
  rw [Scripts.answer_announceEvent, targets]
  exact ite_self _

end LineClock.Course

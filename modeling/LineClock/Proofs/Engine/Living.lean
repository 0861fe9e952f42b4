import LineClock.Proofs.Engine.Counts
import LineClock.Proofs.Engine.ToolAmid

/-!
# The life of the profilers of a registry

What happens to the profilers of a registry on several threads: they are switched on and off, guards
and profilers go away, threads end, and in between events come by. The counts that are due at any
time are a function of what happened.

A way to listen is `Living` if nothing of this ends it. Main statements: `Alive.turn`, what one thing
that happens leaves, and `Alive.play`.
-/

namespace LineClock.Lifecycle

open Machine Engine

/-- What can happen on a thread. -/
inductive Act where
  | enable (p : ProfilerId)
  | disable (p : ProfilerId)
  /-- A guard goes away that kept a profiler on. -/
  | release (p : ProfilerId)
  /-- A profiler goes away. -/
  | drop (p : ProfilerId)
  /-- The thread ends. -/
  | ends
  | trace (frame : Frame) (event : TraceEvent)
  | monitor (event : MonitorEvent)

/-- Something that happens on a thread. -/
structure Turn where
  thread : ThreadKey
  act : Act

variable {σ : Type}

/-- Let something happen on the running thread. Switching answers how often the profiler is on. -/
def Act.perform (s : Scripts σ) (registry : RegistryId) :
    Act → StateM σ (Option (Except ProfilerError Nat))
  | .enable p => some <$> s.run (Engine.enable registry p).run
  | .disable p | .release p => some <$> s.run (Engine.disable registry p).run
  | .drop p => some <$> s.run (Engine.remove registry p).run
  | .ends => (fun _ => none) <$> s.run Engine.endThread
  | .trace frame event => (fun _ => none) <$> (s.announceTrace frame event).run
  | .monitor event => (fun _ => none) <$> (s.announceEvent event).run

/-- Let something happen. -/
def Turn.perform (s : Scripts σ) (registry : RegistryId) (t : Turn) :
    StateM σ (Option (Except ProfilerError Nat)) := do
  s.run (modify fun e => { e with thread := t.thread })
  t.act.perform s registry

/-- The state after several things happened. -/
def play (s : Scripts σ) (registry : RegistryId) : List Turn → σ → σ
  | [], x => x
  | t :: rest, x => play s registry rest ((t.perform s registry).run x).2

/-! ## What is due -/

/-- For each thread and profiler, how many times it was switched on there and not off again. -/
abbrev Counts := ThreadKey → ProfilerId → Nat

/-- The count of a profiler after something happened on the thread. -/
def Act.count (p : ProfilerId) (n : Nat) : Act → Nat
  | .enable q => if q = p then n + 1 else n
  | .disable q | .release q => if q = p then n - 1 else n
  | .drop q => if q = p then 0 else n
  | .ends => 0
  | .trace _ _ | .monitor _ => n

def Turn.count (counts : Counts) (t : Turn) : Counts := fun th p =>
  if th = t.thread then t.act.count p (counts th p) else counts th p

/-- The counts after several things happened. -/
def counts (turns : List Turn) : Counts := turns.foldl Turn.count fun _ _ => 0

/-- What switching answers, from the counts that are due afterwards. -/
def Turn.answer (t : Turn) (counts : Counts) : Option (Except ProfilerError Nat) :=
  match t.act with
  | .enable p | .disable p | .release p | .drop p => some (.ok (counts t.thread p))
  | .ends | .trace _ _ | .monitor _ => none

/-- What belongs into the trace slots while nobody is on: nothing once the thread has ended. -/
def Turn.home (held : ThreadKey → Option TraceHook) (t : Turn) : ThreadKey → Option TraceHook :=
  match t.act with
  | .ends => fun th => if th = t.thread then none else held th
  | _ => held

/-- What belongs into the trace slots after several things happened. -/
def home (held : ThreadKey → Option TraceHook) (turns : List Turn) : ThreadKey → Option TraceHook :=
  turns.foldl Turn.home held

/-! ## Ways to live -/

/-- All hooks are scripts. -/
def Scripted (held : ThreadKey → Option TraceHook) : Prop :=
  ∀ th hook, held th = some hook → ∃ id, hook = .script id

/-- What something that happens makes of the facility: it changes when the first thread starts to
listen through the tool id and when the last one stops. -/
def Steady (registry : RegistryId) (e e' : Engine) : Prop :=
  e'.facility = e.facility ∨
    ((e.share registry).threads = 0 ∧ 0 < (e'.share registry).threads) ∨
    (0 < (e.share registry).threads ∧ (e'.share registry).threads = 0)

/-- A way in which a registry stands, with hooks that belong into the trace slots. -/
abbrev Way := (ThreadKey → Option TraceHook) → Engine → Prop

/-- A way to stand that nothing ends which can happen. -/
structure Living (s : Scripts σ) (registry : RegistryId) (L : Way) : Prop where
  switching : ∀ held, Switching registry (L held)
  others : ∀ {held e}, L held e → ∀ th other, other ≠ registry →
    (e.dispatchAt th other).activated = false
  moveTo : ∀ {held e}, L held e → ∀ th, L held { e with thread := th }
  forget : ∀ {held e}, L held e → ∀ dispatch : Assoc (ThreadKey × RegistryId) Dispatch,
    (∀ th, dispatch.getD (th, registry) {} = e.dispatchAt th registry ∨
      dispatch.getD (th, registry) {} = {} ∧ (e.dispatchAt th registry).activated = false) →
    (∀ th other, other ≠ registry → (dispatch.getD (th, other) {}).activated = false) →
    L held { e with dispatch }
  unhook : ∀ {held e}, L held e → (e.dispatchOf registry).activated = false →
    L (fun th => if th = e.thread then none else held th) (e.withHook none)
  trace : ∀ {held x}, L held (s.engine x) → Scripted held → ∀ frame event,
    let x' := (answer (s.announceTrace frame event) x).2
    L held (s.engine x') ∧ Undisturbed registry (s.engine x) (s.engine x') ∧
      (s.engine x').facility = (s.engine x).facility
  monitor : ∀ {held x}, L held (s.engine x) → ∀ event,
    let x' := (answer (s.announceEvent event) x).2
    L held (s.engine x') ∧ Undisturbed registry (s.engine x) (s.engine x') ∧
      (s.engine x').facility = (s.engine x).facility
  raises : ∀ {held e}, L held e → Balanced registry e → ∀ p,
    let e' := (answer (enable registry p) e).2
    e'.facility = e.facility ∨
      (e.share registry).threads = 0 ∧ 0 < (e'.share registry).threads
  recedes : ∀ {held e}, L held e → Balanced registry e → ∀ p left,
    Receding registry e (answer (lower registry p left) e).2
  forgets : ∀ {held e}, L held e → Balanced registry e →
    Receding registry e ((Engine.forget registry).run e).2

/-- How a registry stands when its counts are what is due. -/
structure Alive (registry : RegistryId) (L : Way) (held : ThreadKey → Option TraceHook)
    (counts : Counts) (e : Engine) : Prop where
  there : L held e
  scripted : Scripted held
  balanced : Balanced registry e
  fair : ∀ th, Scene.Fair (e.dispatchAt th registry).active
  counted : ∀ th p, (e.dispatchAt th registry).countOf p = counts th p

namespace Alive

variable {s : Scripts σ} {registry : RegistryId} {L : Way} {held : ThreadKey → Option TraceHook}
  {due : Counts} {e e' : Engine}

/-- Other counts on the running thread. -/
theorem switch (h : Alive registry L held due e) {on : List (ProfilerId × Nat)} {due' : Counts}
    (there : L held e') (balanced : Balanced registry e')
    (scene : e'.scene registry = (e.scene registry).switch on) (fair : Scene.Fair on)
    (here : ∀ p, ({ active := on } : Dispatch).countOf p = due' e.thread p)
    (elsewhere : ∀ th, th ≠ e.thread → due' th = due th) : Alive registry L held due' e' := by
  have active : ∀ th, (e'.dispatchAt th registry).active =
      if th = e.thread then on else (e.dispatchAt th registry).active := by
    intro th
    exact congrFun (congrArg Scene.active scene) th
  refine ⟨there, h.scripted, balanced, fun th => ?_, fun th p => ?_⟩
  · rw [active]
    split
    · exact fair
    · exact h.fair th
  · unfold Dispatch.countOf
    rw [active]
    split
    · rename_i this
      rw [this]
      exact here p
    · rename_i other
      rw [elsewhere th other]
      exact h.counted th p

/-- An event disturbs nobody. -/
theorem undisturbed (h : Alive registry L held due e) (there : L held e')
    (calm : Undisturbed registry e e') : Alive registry L held due e' := by
  refine ⟨there, h.scripted, calm.balanced h.balanced, fun th => ?_, fun th p => ?_⟩
  · rw [calm.active]
    exact h.fair th
  · unfold Dispatch.countOf
    rw [calm.active]
    exact h.counted th p

/-- The counts on the running thread. -/
theorem here (h : Alive registry L held due e) (p : ProfilerId) :
    (e.scene registry).count p = due e.thread p := h.counted e.thread p

/-- What is due on the running thread after something happened there. -/
theorem count_here (due : Counts) (th : ThreadKey) (act : Act) (p : ProfilerId) :
    Turn.count due ⟨th, act⟩ th p = act.count p (due th p) := if_pos rfl

/-- What is due on other threads. -/
theorem count_elsewhere (due : Counts) {th th' : ThreadKey} (act : Act) (other : th' ≠ th) :
    Turn.count due ⟨th, act⟩ th' = due th' := by
  funext p
  exact if_neg other

/-- Switching a profiler on. -/
theorem enable (living : Living s registry L) (h : Alive registry L held due e) (p : ProfilerId) :
    let due' := Turn.count due ⟨e.thread, .enable p⟩
    ∃ e', answer (Engine.enable registry p) e = (.ok (due' e.thread p), e') ∧
      Alive registry L held due' e' ∧ Steady registry e e' := by
  intro due'
  obtain ⟨e', enabled, there, balanced, scene⟩ := (living.switching held).enable h.there h.balanced p
  let d : Dispatch := { active := (e.scene registry).here }
  have counted : ∀ q, (d.raise p).countOf q = due' e.thread q := by
    intro q
    have before : d.countOf q = due e.thread q := h.here q
    refine Eq.trans ?_ (count_here due e.thread (.enable p) q).symm
    rw [Dispatch.countOf_raise, before]
    rfl
  have facility := living.raises h.there h.balanced p
  have answer : ((e.scene registry).raise p).count p = due' e.thread p := by
    rw [← counted]
    unfold Scene.count Scene.raise
    rw [Scene.switch_here]
    rfl
  rw [enabled] at facility
  refine ⟨e', ?_, h.switch there balanced scene ((h.fair e.thread).raise p) counted
    fun th other => count_elsewhere due _ other, facility.imp_right .inl⟩
  rw [enabled, answer]

/-- Switching a profiler off, as far as is asked for. -/
theorem lower (living : Living s registry L) (h : Alive registry L held due e) (act : Act)
    (p : ProfilerId) (left : Nat → Nat) (none : left 0 = 0)
    (cuts : ∀ q n, act.count q n = if p = q then left n else n) :
    let due' := Turn.count due ⟨e.thread, act⟩
    ∃ e', answer (Engine.lower registry p left) e = (.ok (due' e.thread p), e') ∧
      Alive registry L held due' e' ∧ Steady registry e e' := by
  intro due'
  obtain ⟨e', lowered, there, balanced, scene⟩ :=
    (living.switching held).lower h.there h.balanced p left
  have recedes := living.recedes h.there h.balanced p left
  rw [lowered] at recedes
  let d : Dispatch := { active := (e.scene registry).here }
  have before : ∀ q, d.countOf q = due e.thread q := h.here
  have after : ∀ q, due' e.thread q = if p = q then left (d.countOf q) else d.countOf q := by
    intro q
    refine (count_here due e.thread act q).trans ?_
    rw [cuts, before]
  have steady : Steady registry e e' := recedes.facility.imp_right .inr
  have elsewhere : ∀ th, th ≠ e.thread → due' th = due th := fun th other =>
    count_elsewhere due act other
  have answer : (if (e.scene registry).isOn p then left ((e.scene registry).count p) else 0) =
      due' e.thread p := by
    rw [after, if_pos rfl]
    split
    · rfl
    · rename_i off
      have zero : d.countOf p = 0 := Dispatch.countOf_of_not_isOn (Bool.not_eq_true _ ▸ off)
      rw [zero, none]
  refine ⟨e', by rw [lowered, answer], ?_, steady⟩
  by_cases on : (e.scene registry).isOn p
  · have switched : e'.scene registry =
        (e.scene registry).switch (d.lower p (left (d.countOf p))).active := scene.trans (if_pos on)
    refine h.switch there balanced switched ((h.fair e.thread).lower p _) (fun q => ?_) elsewhere
    rw [after]
    refine (Dispatch.countOf_lower (d := d) on _ q).trans ?_
    split
    · rename_i same
      rw [same]
    · rfl
  · have switched : e'.scene registry = (e.scene registry).switch d.active :=
      (scene.trans (if_neg on)).trans (e.scene registry).switch_self.symm
    refine h.switch there balanced switched (h.fair e.thread) (fun q => ?_) elsewhere
    rw [after]
    split
    · rename_i same
      have zero : d.countOf p = 0 := Dispatch.countOf_of_not_isOn (Bool.not_eq_true _ ▸ on)
      rw [← same, zero, none]
    · rfl

/-! ## The end of a thread -/

/-- What is due when a thread ended is nothing, also if it ended before. -/
theorem count_ends_twice (due : Counts) (th : ThreadKey) :
    Turn.count (Turn.count due ⟨th, .ends⟩) ⟨th, .ends⟩ = Turn.count due ⟨th, .ends⟩ := by
  funext th' p
  unfold Turn.count
  simp only
  split
  · rfl
  · rfl

/-- What threads know of registries after one of them forgot one. -/
theorem getD_erase (dispatch : Assoc (ThreadKey × RegistryId) Dispatch) (th th' : ThreadKey)
    (r r' : RegistryId) : (dispatch.erase (th, r)).getD (th', r') {} =
      if th' = th ∧ r' = r then {} else dispatch.getD (th', r') {} := by
  unfold Assoc.getD
  rw [Assoc.get?_erase]
  by_cases key : (th, r) = (th', r')
  · cases key
    simp
  · have differ : ¬ (th' = th ∧ r' = r) := by
      rintro ⟨rfl, rfl⟩
      exact key rfl
    rw [if_neg key, if_neg differ]

/-- Forgetting another registry, which does not listen. -/
theorem forget_other (living : Living s registry L) (h : Alive registry L held due e)
    {other : RegistryId} (differ : other ≠ registry) :
    ∃ e', (Engine.forget other).run e = ((), e') ∧ e'.thread = e.thread ∧
      Receding registry e e' ∧ Alive registry L held due e' := by
  let d : Dispatch := { e.dispatchOf other with active := [] }
  let dispatch := (e.dispatch.set (e.thread, other) d).erase (e.thread, other)
  have off : d.activated = false := living.others h.there e.thread other differ
  have known : (e.withDispatch other d).dispatchOf other = d := withDispatch_dispatchOf other e d
  have forgotten : (Engine.forget other).run e = ((), { e with dispatch }) :=
    run_forget (answer_deactivate_off ((congrArg Dispatch.activated known).trans off))
  have read : ∀ th r, dispatch.getD (th, r) {} =
      if th = e.thread ∧ r = other then {} else e.dispatchAt th r := by
    intro th r
    refine (getD_erase _ _ _ _ _).trans ?_
    split
    · rfl
    · rename_i key
      rw [Assoc.getD_set, if_neg]
      · rfl
      · rintro ⟨⟩
        exact key ⟨rfl, rfl⟩
  have own : ∀ th, dispatch.getD (th, registry) {} = e.dispatchAt th registry := fun th =>
    (read th registry).trans (if_neg fun key => differ key.2.symm)
  refine ⟨{ e with dispatch }, forgotten, rfl, .of_same rfl rfl, h.undisturbed ?_ ?_⟩
  · refine living.forget h.there dispatch (fun th => .inl (own th)) fun th r this => ?_
    rw [read]
    split
    · rfl
    · exact living.others h.there th r this
  · exact ⟨rfl, fun th => congrArg Dispatch.active (own th),
      fun th => congrArg Dispatch.activated (own th)⟩

/-- Forgetting the registry. -/
theorem forget_own (living : Living s registry L) (h : Alive registry L held due e) :
    ∃ e', (Engine.forget registry).run e = ((), e') ∧ e'.thread = e.thread ∧
      Receding registry e e' ∧ Alive registry L held (Turn.count due ⟨e.thread, .ends⟩) e' := by
  obtain ⟨e₂, forgotten, there, balanced, scene⟩ :=
    (living.switching held).forget h.there h.balanced
  have thread : e₂.thread = e.thread := congrArg Scene.thread scene
  have alive : Alive registry L held (Turn.count due ⟨e.thread, .ends⟩) e₂ :=
    h.switch there balanced scene .nil (fun p => (count_here due e.thread .ends p).symm)
      fun th other => count_elsewhere due _ other
  have recedes := living.forgets h.there h.balanced
  rw [forgotten] at recedes
  refine ⟨_, forgotten, thread, recedes, ?_⟩
  have none : (e₂.dispatchAt e₂.thread registry).active = [] := by
    have active : (e₂.scene registry).active e₂.thread = ((e.scene registry).switch []).active e.thread := by
      rw [scene, thread]
    exact active.trans (if_pos rfl)
  have off : (e₂.dispatchAt e₂.thread registry).activated = false := by
    rw [balanced]
    exact Dispatch.isActive_eq_false_iff.mpr none
  have own : ∀ th, (e₂.dispatch.erase (e₂.thread, registry)).getD (th, registry) {} =
      if th = e₂.thread then {} else e₂.dispatchAt th registry := by
    intro th
    refine (getD_erase _ _ _ _ _).trans ?_
    by_cases here : th = e₂.thread
    · rw [if_pos ⟨here, rfl⟩, if_pos here]
    · rw [if_neg fun h => here h.1, if_neg here]
      rfl
  refine alive.undisturbed (living.forget there _ (fun th => ?_) fun th r other => ?_)
    ⟨rfl, fun th => ?_, fun th => ?_⟩
  · by_cases here : th = e₂.thread
    · exact .inr ⟨(own th).trans (if_pos here), here ▸ off⟩
    · exact .inl ((own th).trans (if_neg here))
  · rw [getD_erase, if_neg fun h => other h.2]
    exact living.others there th r other
  · refine (congrArg Dispatch.active (own th)).trans ?_
    split
    · rename_i here
      rw [here, none]
    · rfl
  · refine (congrArg Dispatch.activated (own th)).trans ?_
    split
    · rename_i here
      rw [here, off]
    · rfl

/-- Forgetting several registries one after the other. -/
theorem forget_all (living : Living s registry L) (l : List RegistryId)
    (h : Alive registry L held due e) :
    ∃ e', (l.forM Engine.forget).run e = ((), e') ∧ e'.thread = e.thread ∧ Receding registry e e' ∧
      Alive registry L held (if registry ∈ l then Turn.count due ⟨e.thread, .ends⟩ else due) e' := by
  induction l generalizing e due with
  | nil => exact ⟨e, rfl, rfl, .of_same rfl rfl, h⟩
  | cons r rest ih =>
    have next : ∀ {e₁ : Engine}, (Engine.forget r).run e = ((), e₁) →
        ((r :: rest).forM Engine.forget).run e = (rest.forM Engine.forget).run e₁ := by
      intro e₁ first
      show (Engine.forget r >>= fun _ => rest.forM Engine.forget).run e = _
      rw [run_state_bind first]
    by_cases own : r = registry
    · subst own
      obtain ⟨e₁, first, thread, recedes, alive⟩ := h.forget_own living
      obtain ⟨e₂, others, thread', recedes', alive'⟩ := ih alive
      rw [thread, count_ends_twice, ite_self] at alive'
      refine ⟨e₂, (next first).trans others, thread'.trans thread, recedes.trans recedes', ?_⟩
      rw [if_pos List.mem_cons_self]
      exact alive'
    · obtain ⟨e₁, first, thread, recedes, alive⟩ := h.forget_other living own
      obtain ⟨e₂, others, thread', recedes', alive'⟩ := ih alive
      rw [thread] at alive'
      refine ⟨e₂, (next first).trans others, thread'.trans thread, recedes.trans recedes', ?_⟩
      have same : registry ∈ r :: rest ↔ registry ∈ rest := by
        rw [List.mem_cons]
        exact or_iff_right (Ne.symm own)
      simp only [same]
      exact alive'

/-- The end of a thread. -/
theorem ends (living : Living s registry L) (h : Alive registry L held due e) :
    ∃ e', endThread.run e = ((), e') ∧
      Alive registry L (fun th => if th = e.thread then none else held th)
        (Turn.count due ⟨e.thread, .ends⟩) e' ∧ Steady registry e e' := by
  let due' := Turn.count due ⟨e.thread, .ends⟩
  let here := e.dispatch.keys.filterMap fun k => if k.1 = e.thread then some k.2 else none
  obtain ⟨e₁, forgotten, thread, recedes, alive⟩ :=
    h.forget_all living (here.mergeSort fun a b => a ≤ b)
  have alive' : Alive registry L held due' e₁ := by
    split at alive
    · exact alive
    · rename_i absent
      -- nobody is on for a registry of which the thread knows nothing
      have unknown : e.dispatch.get? (e.thread, registry) = none := by
        rw [Assoc.get?_eq_none_iff]
        intro known
        refine absent (List.mem_mergeSort.mpr (List.mem_filterMap.mpr ⟨_, known, ?_⟩))
        exact if_pos rfl
      have blank : e.dispatchAt e.thread registry = {} := Assoc.getD_of_get?_none unknown {}
      have same : due' = due := by
        funext th p
        by_cases this : th = e.thread
        · rw [this]
          refine (count_here due e.thread .ends p).trans ?_
          rw [← h.counted, blank]
          rfl
        · exact congrFun (count_elsewhere due .ends this) p
      rw [same]
      exact alive
  have off : (e₁.dispatchOf registry).activated = false := by
    have nobody : (e₁.dispatchOf registry).isActive = false := by
      rw [← Bool.not_eq_true]
      intro active
      obtain ⟨p, some⟩ := (alive'.fair e₁.thread).isActive_iff.mp active
      have zero : (e₁.dispatchAt e₁.thread registry).countOf p = 0 := by
        rw [alive'.counted, thread]
        exact count_here due e.thread .ends p
      exact absurd zero (Nat.ne_of_gt some)
    exact (alive'.balanced e₁.thread).trans nobody
  refine ⟨e₁.withHook none, ?_, ?_, ?_⟩
  · unfold endThread
    rw [run_state_get_bind, run_state_bind forgotten, run_setTraceHook]
  · refine ⟨thread ▸ living.unhook alive'.there off, fun th hook there => ?_, alive'.balanced,
      alive'.fair, alive'.counted⟩
    split at there
    · cases there
    · exact h.scripted th hook there
  · exact recedes.facility.imp_right .inr

/-! ## Everything that happens -/

/-- The thread that runs does not matter. -/
theorem moveTo (living : Living s registry L) (h : Alive registry L held due e) (th : ThreadKey) :
    Alive registry L held due { e with thread := th } :=
  ⟨living.moveTo h.there th, h.scripted, h.balanced, h.fair, h.counted⟩

/-- An event changes no counts. -/
theorem count_event (due : Counts) (th : ThreadKey) {act : Act} (event : ∀ p n, act.count p n = n) :
    Turn.count due ⟨th, act⟩ = due := by
  funext th' p
  unfold Turn.count
  simp only [event, ite_self]

/-- One of the ways in which a profiler is switched off happens. -/
theorem act_lower (living : Living s registry L) (put : ∀ x e, s.engine (s.withEngine x e) = e)
    {x : σ} (h : Alive registry L held due (s.engine x)) {t : Turn} (p : ProfilerId)
    (left : Nat → Nat) (here : t.thread = (s.engine x).thread) (none : left 0 = 0)
    (cuts : ∀ q n, t.act.count q n = if p = q then left n else n)
    (performs : t.act.perform s registry = some <$> s.run (Engine.lower registry p left).run)
    (answers : ∀ due, t.answer due = some (.ok (due t.thread p))) (stays : t.home held = held) :
    let out := (t.act.perform s registry).run x
    out.1 = t.answer (Turn.count due t) ∧
      Alive registry L (t.home held) (Turn.count due t) (s.engine out.2) ∧
      Steady registry (s.engine x) (s.engine out.2) := by
  intro out
  obtain ⟨thread, act⟩ := t
  have here : thread = (s.engine x).thread := here
  subst here
  obtain ⟨e', lowered, alive, steady⟩ := h.lower living act p left none cuts
  have ran : out = (some (answer (Engine.lower registry p left) (s.engine x)).1,
      s.withEngine x (answer (Engine.lower registry p left) (s.engine x)).2) := by
    unfold out
    rw [performs]
    rfl
  rw [ran, lowered, put, answers, stays]
  exact ⟨rfl, alive, steady⟩

/-- What happens on the running thread. -/
theorem act (living : Living s registry L) (put : ∀ x e, s.engine (s.withEngine x e) = e) {x : σ}
    (h : Alive registry L held due (s.engine x)) (t : Turn) (here : t.thread = (s.engine x).thread) :
    let out := (t.act.perform s registry).run x
    out.1 = t.answer (Turn.count due t) ∧
      Alive registry L (t.home held) (Turn.count due t) (s.engine out.2) ∧
      Steady registry (s.engine x) (s.engine out.2) := by
  obtain ⟨thread, act⟩ := t
  have here : thread = (s.engine x).thread := here
  subst here
  cases act with
  | enable p =>
    obtain ⟨e', enabled, alive, steady⟩ := h.enable living p
    have ran : (Act.perform s registry (.enable p)).run x =
        (some (answer (Engine.enable registry p) (s.engine x)).1,
          s.withEngine x (answer (Engine.enable registry p) (s.engine x)).2) := rfl
    simp only [ran, enabled, put]
    exact ⟨rfl, alive, steady⟩
  | disable p | release p =>
    exact h.act_lower living put p (fun n => n - 1) rfl rfl (fun _ _ => rfl) rfl (fun _ => rfl) rfl
  | drop p =>
    exact h.act_lower living put p (fun _ => 0) rfl rfl (fun _ _ => rfl) rfl (fun _ => rfl) rfl
  | ends =>
    obtain ⟨e', ended, alive, steady⟩ := h.ends living
    have ran : (Act.perform s registry .ends).run x =
        (none, s.withEngine x (endThread.run (s.engine x)).2) := rfl
    simp only [ran, ended, put]
    exact ⟨rfl, alive, steady⟩
  | trace frame event =>
    obtain ⟨there, calm, facility⟩ := living.trace h.there h.scripted frame event
    rw [count_event due _ fun _ _ => rfl]
    exact ⟨rfl, h.undisturbed there calm, .inl facility⟩
  | monitor event =>
    obtain ⟨there, calm, facility⟩ := living.monitor h.there event
    rw [count_event due _ fun _ _ => rfl]
    exact ⟨rfl, h.undisturbed there calm, .inl facility⟩

/-- **What one thing that happens leaves.** -/
theorem turn (living : Living s registry L) (put : ∀ x e, s.engine (s.withEngine x e) = e) {x : σ}
    (h : Alive registry L held due (s.engine x)) (t : Turn) :
    let out := (t.perform s registry).run x
    out.1 = t.answer (Turn.count due t) ∧
      Alive registry L (t.home held) (Turn.count due t) (s.engine out.2) ∧
      Steady registry (s.engine x) (s.engine out.2) := by
  let x₁ := s.withEngine x { s.engine x with thread := t.thread }
  have there : s.engine x₁ = { s.engine x with thread := t.thread } := put _ _
  have h₁ : Alive registry L held due (s.engine x₁) := by
    rw [there]
    exact h.moveTo living t.thread
  have done := h₁.act living put t (by rw [there])
  rw [there] at done
  exact done

/-- **What all that happens leaves.** -/
theorem play (living : Living s registry L) (put : ∀ x e, s.engine (s.withEngine x e) = e) {x : σ}
    (h : Alive registry L held due (s.engine x)) (turns : List Turn) :
    Alive registry L (turns.foldl Turn.home held) (turns.foldl Turn.count due)
      (s.engine (Lifecycle.play s registry turns x)) := by
  induction turns generalizing x held due with
  | nil => exact h
  | cons t rest ih => exact ih (h.turn living put t).2.1

end Alive

end LineClock.Lifecycle

import LineClock.Proofs.Engine.Counts
import LineClock.Proofs.Engine.SlotAmid
import LineClock.Proofs.Engine.Switching

/-!
# Switching profilers of several registries

What switching a profiler on and off does on a thread on which several registries may listen. A
registry begins to listen with the first of its profilers and comes to lie on top of those that
listen already. With its last profiler it stops; what becomes of the others is known only if it lies
on top of them.

A `Muster` tells who is on for each registry on a thread, and which registries listen there, the one
that began last on top. A wrapper puts a registry on top or counts it once more, and takes it away
again when it is left.

Main statements: `Muster.lower_raise`, `Piling.enable` and `Piling.disable`.
-/

namespace LineClock

open Machine Engine

/-! ## Who is on -/

/-- Who is on for each registry, and the registries that listen, the one that began last first. -/
structure Muster where
  on : RegistryId → List (ProfilerId × Nat) := fun _ => []
  pile : List RegistryId := []

namespace Muster

/-- Other counts for a registry, which begins or stops to listen with them. -/
def put (m : Muster) (r : RegistryId) (on : List (ProfilerId × Nat)) : Muster where
  on := fun r' => if r' = r then on else m.on r'
  pile := if on = [] then m.pile.erase r else if r ∈ m.pile then m.pile else r :: m.pile

/-- Switch a profiler of a registry on once more. -/
def raise (m : Muster) (r : RegistryId) (p : ProfilerId) : Muster :=
  m.put r (({ active := m.on r } : Dispatch).raise p).active

/-- The counts of a registry once switching a profiler on was undone. -/
def lowered (m : Muster) (r : RegistryId) (p : ProfilerId) : List (ProfilerId × Nat) :=
  let d : Dispatch := { active := m.on r }
  (d.lower p (d.countOf p - 1)).active

/-- Undo switching a profiler of a registry on. -/
def lower (m : Muster) (r : RegistryId) (p : ProfilerId) : Muster :=
  if Scene.On (m.on r) p then m.put r (m.lowered r p) else m

/-- Whether a registry stops to listen with that. -/
def closes (m : Muster) (r : RegistryId) (p : ProfilerId) : Bool :=
  Scene.On (m.on r) p && (m.lowered r p).isEmpty

/-- Counts are fair, registries listen as long as somebody is on, and `may` tells who can be on. -/
structure Sound (may : RegistryId → ProfilerId → Prop) (m : Muster) : Prop where
  fair : ∀ r, Scene.Fair (m.on r)
  listens : ∀ r, r ∈ m.pile ↔ m.on r ≠ []
  once : m.pile.Nodup
  may : ∀ r p, Scene.On (m.on r) p = true → may r p

variable {m : Muster} {r r' : RegistryId} {p q : ProfilerId} {on : List (ProfilerId × Nat)}
  {may : RegistryId → ProfilerId → Prop}

theorem put_on_self (m : Muster) (r : RegistryId) (on : List (ProfilerId × Nat)) :
    (m.put r on).on r = on := if_pos rfl

theorem put_on_other (other : r' ≠ r) (on : List (ProfilerId × Nat)) :
    (m.put r on).on r' = m.on r' := if_neg other

/-- Putting the same counts back. -/
theorem put_put (on on' : List (ProfilerId × Nat)) : ((m.put r on).put r on').on = (m.put r on').on := by
  funext r'
  by_cases here : r' = r
  · rw [here, put_on_self, put_on_self]
  · rw [put_on_other here, put_on_other here, put_on_other here]

theorem put_self (m : Muster) (r : RegistryId) : (m.put r (m.on r)).on = m.on := by
  funext r'
  by_cases here : r' = r
  · rw [here, put_on_self]
  · rw [put_on_other here]

/-- After a switching on somebody is on. -/
theorem raised_ne_nil (on : List (ProfilerId × Nat)) (p : ProfilerId) :
    (({ active := on } : Dispatch).raise p).active ≠ [] :=
  Dispatch.isActive_iff_ne_nil.mp (Dispatch.isActive_raise { active := on } p)

/-- Who is on after a switching on. -/
theorem on_raise (h : Scene.On (({ active := on } : Dispatch).raise p).active q = true) :
    q = p ∨ Scene.On on q = true := by
  unfold Scene.On at h ⊢
  rw [Dispatch.isOn_iff] at h ⊢
  unfold Dispatch.raise at h
  split at h
  · have keys : (Dispatch.bump p on).map Prod.fst = on.map Prod.fst := Dispatch.map_fst_bump
    exact .inr (keys ▸ h)
  · simp only [List.map_append, List.map_cons, List.map_nil, List.mem_append,
      List.mem_singleton] at h
    exact h.symm

/-- Who is on after one switching on was undone was on before. -/
theorem on_lower {n : Nat} (h : Scene.On (({ active := on } : Dispatch).lower p n).active q = true) :
    Scene.On on q = true := by
  unfold Scene.On at h ⊢
  rw [Dispatch.isOn_iff] at h ⊢
  unfold Dispatch.lower at h
  split at h
  · obtain ⟨a, mem, here⟩ := List.mem_map.mp h
    exact List.mem_map.mpr ⟨a, (List.mem_filter.mp mem).1, here⟩
  · have keys : (Dispatch.put p n on).map Prod.fst = on.map Prod.fst := Dispatch.map_fst_put
    exact keys ▸ h

/-! ### What switching keeps -/

/-- Nobody is on. -/
theorem Sound.nobody (may : RegistryId → ProfilerId → Prop) : Sound may {} :=
  ⟨fun _ => .nil, fun _ => by simp, List.nodup_nil, fun _ _ on => by cases on⟩

theorem Sound.mono {may' : RegistryId → ProfilerId → Prop} (h : m.Sound may)
    (allowed : ∀ r p, may r p → may' r p) : m.Sound may' :=
  ⟨h.fair, h.listens, h.once, fun r p on => allowed r p (h.may r p on)⟩

/-- Who listens after other counts were put in. -/
theorem mem_pile_put (once : m.pile.Nodup) (r : RegistryId) (on : List (ProfilerId × Nat))
    (r' : RegistryId) :
    r' ∈ (m.put r on).pile ↔ if r' = r then on ≠ [] else r' ∈ m.pile := by
  show r' ∈ (if on = [] then m.pile.erase r else if r ∈ m.pile then m.pile else r :: m.pile) ↔ _
  by_cases here : r' = r
  · rw [if_pos here, here]
    split
    · rename_i none
      simp [none, once.mem_erase_iff]
    · rename_i some
      split
      · rename_i there
        simp [some, there]
      · simp [some]
  · rw [if_neg here]
    split
    · simp [once.mem_erase_iff, here]
    · split
      · exact Iff.rfl
      · simp [here]

theorem Sound.put (h : m.Sound may) (fair : Scene.Fair on)
    (allowed : ∀ q, Scene.On on q = true → may r q) : (m.put r on).Sound may := by
  refine ⟨fun r' => ?_, fun r' => ?_, ?_, fun r' q here => ?_⟩
  · by_cases here : r' = r
    · rw [here, put_on_self]
      exact fair
    · rw [put_on_other here]
      exact h.fair r'
  · rw [mem_pile_put h.once]
    by_cases here : r' = r
    · rw [if_pos here, here, put_on_self]
    · rw [if_neg here, put_on_other here]
      exact h.listens r'
  · show (if on = [] then m.pile.erase r else if r ∈ m.pile then m.pile else r :: m.pile).Nodup
    split
    · exact h.once.erase r
    · split
      · exact h.once
      · rename_i absent
        exact List.nodup_cons.mpr ⟨absent, h.once⟩
  · by_cases this : r' = r
    · rw [this, put_on_self] at here
      rw [this]
      exact allowed q here
    · rw [put_on_other this] at here
      exact h.may r' q here

theorem Sound.raise (h : m.Sound may) (allowed : may r p) : (m.raise r p).Sound may := by
  refine h.put ((h.fair r).raise p) fun q here => ?_
  rcases on_raise here with rfl | before
  · exact allowed
  · exact h.may r q before

theorem Sound.lower (h : m.Sound may) (r : RegistryId) (p : ProfilerId) : (m.lower r p).Sound may := by
  unfold Muster.lower
  split
  · exact h.put ((h.fair r).lower p _) fun q here => h.may r q (on_lower here)
  · exact h

theorem lower_of_off (off : Scene.On (m.on r) p = false) : m.lower r p = m := by
  unfold lower
  rw [off]
  rfl

theorem lower_of_on (on : Scene.On (m.on r) p = true) : m.lower r p = m.put r (m.lowered r p) :=
  if_pos on

/-- The pile once other counts were put in for a registry that listens. -/
theorem pile_put (there : r ∈ m.pile) (on : List (ProfilerId × Nat)) :
    (m.put r on).pile = if on = [] then m.pile.erase r else m.pile := by
  show (if on = [] then m.pile.erase r else if r ∈ m.pile then m.pile else r :: m.pile) = _
  rw [if_pos there]

/-- A registry for which somebody is on listens. -/
theorem Sound.mem_pile (h : m.Sound may) (on : Scene.On (m.on r) p = true) : r ∈ m.pile := by
  refine (h.listens r).mpr fun none => ?_
  rw [none] at on
  cases on

/-- **What a wrapper changes is put back** when it is left. -/
theorem lower_raise (h : m.Sound may) (r : RegistryId) (p : ProfilerId) :
    (m.raise r p).lower r p = m := by
  have some := raised_ne_nil (m.on r) p
  have back : (m.raise r p).lowered r p = m.on r := by
    unfold Muster.lowered
    rw [raise, put_on_self]
    exact (h.fair r).lower_raise p
  have on : Scene.On ((m.raise r p).on r) p = true := by
    rw [raise, put_on_self]
    exact Scene.Fair.isOn_raise (m.on r) p
  have pile : ((m.raise r p).put r (m.on r)).pile = m.pile := by
    have raised : (m.raise r p).pile = if r ∈ m.pile then m.pile else r :: m.pile := if_neg some
    show (if m.on r = [] then (m.raise r p).pile.erase r
      else if r ∈ (m.raise r p).pile then (m.raise r p).pile else r :: (m.raise r p).pile) = _
    rw [raised]
    by_cases listens : r ∈ m.pile
    · rw [if_neg ((h.listens r).mp listens), if_pos listens, if_pos listens]
    · have none : m.on r = [] :=
        Decidable.byContradiction fun some => listens ((h.listens r).mpr some)
      rw [if_pos none, if_neg listens, List.erase_cons_head]
  have counts : ((m.raise r p).put r (m.on r)).on = m.on := (put_put _ _).trans (put_self m r)
  unfold Muster.lower
  rw [if_pos on, back]
  generalize (m.raise r p).put r (m.on r) = m' at pile counts
  obtain ⟨on', pile'⟩ := m'
  cases pile
  cases counts
  rfl

/-- A registry that a wrapper puts on the pile is on top. -/
theorem top_raise (h : m.Sound may) (closes : (m.raise r p).closes r p = true) :
    (m.raise r p).pile.head? = some r := by
  have back := congrArg (fun m => m.on r) (lower_raise h r p)
  unfold Muster.closes at closes
  rw [Bool.and_eq_true, List.isEmpty_iff] at closes
  obtain ⟨on, none⟩ := closes
  unfold Muster.lower at back
  rw [if_pos on, none, put_on_self] at back
  have absent : r ∉ m.pile := fun there => (h.listens r).mp there back.symm
  have raised : (m.raise r p).pile = if r ∈ m.pile then m.pile else r :: m.pile :=
    if_neg (raised_ne_nil _ _)
  rw [raised, if_neg absent]
  rfl

end Muster

/-! ## How a thread gets from one muster to another -/

namespace Engine

/-- What neither listening nor recording changes. -/
structure Abides (e e' : Engine) : Prop where
  clock : e'.clock = e.clock
  frames : e'.frames = e.frames
  code : e'.code = e.code
  routines : e'.routines = e.routines
  thread : e'.thread = e.thread

namespace Abides

variable {e e' e'' : Engine}

theorem refl (e : Engine) : Abides e e := ⟨rfl, rfl, rfl, rfl, rfl⟩

theorem trans (h : Abides e e') (h' : Abides e' e'') : Abides e e'' :=
  ⟨h'.clock.trans h.clock, h'.frames.trans h.frames, h'.code.trans h.code,
    h'.routines.trans h.routines, h'.thread.trans h.thread⟩

theorem routine (h : Abides e e') (id : RoutineId) : e'.routine id = e.routine id :=
  routine_congr h.routines id

theorem codeOf (h : Abides e e') (id : RoutineId) : e'.codeOf id = e.codeOf id := by
  unfold Engine.codeOf slotCode
  rw [h.routine, h.code]

end Abides

/-- How the running thread gets to other counts for a registry, which listens there afterwards or
does not. -/
structure Switched (r : RegistryId) (on : List (ProfilerId × Nat)) (listens : Bool)
    (e e' : Engine) : Prop extends Abides e e' where
  profilers : e'.profilers = e.profilers
  others : ∀ r', r' ≠ r → e'.dispatchOf r' = e.dispatchOf r'
  active : (e'.dispatchOf r).active = on
  activated : (e'.dispatchOf r).activated = listens
  busy : (e'.dispatchOf r).busy = (e.dispatchOf r).busy
  muted : (e.dispatchOf r).muted = [] → (e'.dispatchOf r).muted = []

variable {r : RegistryId} {on on' : List (ProfilerId × Nat)} {listens listens' : Bool}
  {e e' e'' : Engine}

theorem Switched.trans (h : Switched r on listens e e') (h' : Switched r on' listens' e' e'') :
    Switched r on' listens' e e'' :=
  ⟨h.toAbides.trans h'.toAbides, h'.profilers.trans h.profilers,
    fun r' differ => (h'.others r' differ).trans (h.others r' differ), h'.active, h'.activated,
    h'.busy.trans h.busy, fun none => h'.muted (h.muted none)⟩

/-- Other counts change nothing else. -/
theorem Switched.counts (r : RegistryId) (on : List (ProfilerId × Nat)) (e : Engine) :
    Switched r on (e.dispatchOf r).activated e
      (e.withDispatch r { e.dispatchOf r with active := on }) := by
  have known := withDispatch_dispatchOf r e { e.dispatchOf r with active := on }
  refine ⟨⟨rfl, rfl, rfl, rfl, rfl⟩, rfl, fun r' differ => ?_, ?_, ?_, ?_, fun none => ?_⟩
  · exact withDispatch_others differ e _ e.thread
  all_goals rw [known]
  exact none

/-- Switching a profiler on once more changes the counts. -/
theorem withDispatch_raise (r : RegistryId) (p : ProfilerId) (e : Engine) :
    e.withDispatch r ((e.dispatchOf r).raise p) = e.withDispatch r { e.dispatchOf r with
      active := (({ active := (e.dispatchOf r).active } : Dispatch).raise p).active } := by
  rw [Dispatch.raise_eq, Dispatch.active_raise]

end Engine

/-- Who is on for the registries `rs` on the running thread, and which of them listen. None waits for
another hook, and no frame is muted. -/
structure Manned (rs : List RegistryId) (m : Muster) (e : Engine) : Prop where
  active : ∀ r ∈ rs, (e.dispatchOf r).active = m.on r
  activated : ∀ r ∈ rs, (e.dispatchOf r).activated = decide (r ∈ m.pile)
  idle : ∀ r ∈ rs, (e.dispatchOf r).busy = false
  muted : ∀ r ∈ rs, (e.dispatchOf r).muted = []

/-- How registries lie one on the other: `Q` says how, for those that listen. -/
structure Piling (rs : List RegistryId) (Q : List RegistryId → Engine → Prop) : Prop where
  activate : ∀ {pile e r}, Q pile e → r ∈ rs → r ∉ pile → ∃ e', answer (activate r) e = (.ok (), e') ∧
    Q (r :: pile) e' ∧ Switched r (e.dispatchOf r).active true e e'
  deactivate : ∀ {pile e r}, Q (r :: pile) e → r ∈ rs → (e.dispatchOf r).activated = true →
    ∃ e', answer (deactivate r) e = (.ok (), e') ∧ Q pile e' ∧
      Switched r (e.dispatchOf r).active false e e'
  counts : ∀ {pile e} (r on), Q pile e → Q pile (e.withDispatch r { e.dispatchOf r with active := on })

variable {rs : List RegistryId} {Q : List RegistryId → Engine → Prop} {m : Muster}
  {may : RegistryId → ProfilerId → Prop} {e e' : Engine} {r : RegistryId} {p : ProfilerId}
  {on : List (ProfilerId × Nat)}

/-- Other counts for a registry, which listens as long as somebody is on. -/
theorem Manned.put (manned : Manned rs m e) (once : m.pile.Nodup)
    (switched : Switched r on (!on.isEmpty) e e') : Manned rs (m.put r on) e' := by
  refine ⟨fun r' mem => ?_, fun r' mem => ?_, fun r' mem => ?_, fun r' mem => ?_⟩
  · by_cases here : r' = r
    · rw [here, switched.active, Muster.put_on_self]
    · rw [switched.others r' here, Muster.put_on_other here]
      exact manned.active r' mem
  · have listens := Muster.mem_pile_put once r on r'
    have somebody : (!on.isEmpty) = decide (on ≠ []) := by
      cases on with
      | nil => rfl
      | cons _ _ => rfl
    by_cases here : r' = r
    · rw [if_pos here] at listens
      rw [decide_eq_decide.mpr listens, here, switched.activated, somebody]
    · rw [if_neg here] at listens
      rw [decide_eq_decide.mpr listens, switched.others r' here]
      exact manned.activated r' mem
  · by_cases here : r' = r
    · rw [here] at mem ⊢
      exact switched.busy.trans (manned.idle r mem)
    · rw [switched.others r' here]
      exact manned.idle r' mem
  · by_cases here : r' = r
    · rw [here] at mem ⊢
      exact switched.muted (manned.muted r mem)
    · rw [switched.others r' here]
      exact manned.muted r' mem

/-- Which hooks were saved does not matter. -/
theorem Manned.resaved (manned : Manned rs m e) (known : ∀ r ∈ rs, ∃ saved wrapped,
    e'.dispatchOf r = { e.dispatchOf r with saved, wrapped }) : Manned rs m e' := by
  refine ⟨fun r mem => ?_, fun r mem => ?_, fun r mem => ?_, fun r mem => ?_⟩
  all_goals
    obtain ⟨saved, wrapped, same⟩ := known r mem
    rw [same]
  · exact manned.active r mem
  · exact manned.activated r mem
  · exact manned.idle r mem
  · exact manned.muted r mem

theorem Manned.isOn (manned : Manned rs m e) (mem : r ∈ rs) :
    (e.dispatchOf r).isOn p = Scene.On (m.on r) p := by
  unfold Scene.On
  rw [← manned.active r mem]
  rfl

/-- The counts of a registry once one switching on was undone. -/
theorem Manned.lowered (manned : Manned rs m e) (mem : r ∈ rs) (p : ProfilerId) :
    let d := (e.dispatchOf r).lower p ((e.dispatchOf r).countOf p - 1)
    d.active = m.lowered r p ∧
      e.withDispatch r d = e.withDispatch r { e.dispatchOf r with active := m.lowered r p } := by
  have active := manned.active r mem
  have count : (e.dispatchOf r).countOf p = ({ active := m.on r } : Dispatch).countOf p := by
    rw [← active]
    rfl
  have lowered : ((e.dispatchOf r).lower p ((e.dispatchOf r).countOf p - 1)).active = m.lowered r p := by
    unfold Muster.lowered
    rw [Dispatch.active_lower, active, count]
  refine ⟨lowered, ?_⟩
  rw [← lowered]
  exact congrArg (e.withDispatch r) (Dispatch.lower_eq _ _ _)

namespace Piling

/-- **Switching a profiler on.** The first one of a registry puts it on top. -/
theorem enable (piling : Piling rs Q) (q : Q m.pile e) (manned : Manned rs m e)
    (sound : m.Sound may) (mem : r ∈ rs) (p : ProfilerId) :
    ∃ n e', answer (Engine.enable r p) e = (.ok n, e') ∧ Q (m.raise r p).pile e' ∧
      Manned rs (m.raise r p) e' ∧ Abides e e' ∧ e'.profilers = e.profilers := by
  have active := manned.active r mem
  have some := Muster.raised_ne_nil (m.on r) p
  have pile : (m.raise r p).pile = if r ∈ m.pile then m.pile else r :: m.pile := if_neg some
  generalize raised : (({ active := m.on r } : Dispatch).raise p).active = on at some
  have put : m.raise r p = m.put r on := by
    rw [← raised]
    rfl
  have listens : (!on.isEmpty) = true := by
    cases on with
    | nil => exact absurd rfl some
    | cons _ _ => rfl
  by_cases there : r ∈ m.pile
  · have somebody : (e.dispatchOf r).isActive = true := by
      rw [Dispatch.isActive_iff_ne_nil, active]
      exact (sound.listens r).mp there
    have switched := Switched.counts r on e
    rw [manned.activated r mem, decide_eq_true there, ← listens] at switched
    have done := answer_enable_active somebody p
    rw [withDispatch_raise, active, raised] at done
    rw [if_pos there] at pile
    refine ⟨_, _, done, ?_, ?_, switched.toAbides, switched.profilers⟩
    · rw [pile]
      exact piling.counts r on q
    · rw [put]
      exact manned.put sound.once switched
  · have nobody : m.on r = [] :=
      Decidable.byContradiction fun some => there ((sound.listens r).mpr some)
    have off : (e.dispatchOf r).isActive = false := by
      rw [Dispatch.isActive_eq_false_iff, active]
      exact nobody
    obtain ⟨e₁, activated, q₁, first⟩ := piling.activate q mem there
    have same : (e₁.dispatchOf r).active = m.on r := first.active.trans active
    have switched := first.trans (Switched.counts r on e₁)
    rw [first.activated, ← listens] at switched
    have done := answer_enable_first off activated p
    rw [withDispatch_raise, same, raised] at done
    rw [if_neg there] at pile
    refine ⟨_, _, done, ?_, ?_, switched.toAbides, switched.profilers⟩
    · rw [pile]
      exact piling.counts r on q₁
    · rw [put]
      exact manned.put sound.once switched

/-- Switching off a profiler that is not on. -/
theorem disable_off (q : Q m.pile e) (manned : Manned rs m e) (mem : r ∈ rs)
    (off : Scene.On (m.on r) p = false) :
    answer (Engine.disable r p) e = (.ok 0, e) ∧ Q (m.lower r p).pile e ∧
      Manned rs (m.lower r p) e := by
  rw [Muster.lower_of_off off]
  exact ⟨answer_lower_off ((manned.isOn mem).trans off) _, q, manned⟩

/-- Undoing one switching on where somebody is on afterwards. -/
theorem disable_more (piling : Piling rs Q) (q : Q m.pile e) (manned : Manned rs m e)
    (sound : m.Sound may) (mem : r ∈ rs) (on : Scene.On (m.on r) p = true)
    (more : m.lowered r p ≠ []) :
    ∃ n e', answer (Engine.disable r p) e = (.ok n, e') ∧ Q (m.lower r p).pile e' ∧
      Manned rs (m.lower r p) e' ∧ Abides e e' ∧ e'.profilers = e.profilers := by
  have there := sound.mem_pile on
  have somebody := List.isEmpty_eq_false_iff.mpr more
  obtain ⟨lowered, counted⟩ := manned.lowered mem p
  have switched := Switched.counts r (m.lowered r p) e
  rw [manned.activated r mem, decide_eq_true there] at switched
  have still : ((e.dispatchOf r).lower p ((e.dispatchOf r).countOf p - 1)).isActive = true :=
    Dispatch.isActive_iff_ne_nil.mpr (lowered.symm ▸ more)
  have done := answer_disable_active ((manned.isOn mem).trans on) still
  rw [counted] at done
  refine ⟨_, _, done, ?_, ?_, switched.toAbides, switched.profilers⟩
  · rw [Muster.lower_of_on on, Muster.pile_put there, if_neg more]
    exact piling.counts r _ q
  · rw [Muster.lower_of_on on]
    refine manned.put sound.once ?_
    rw [somebody]
    exact switched

/-- Undoing the last switching on of a registry that lies on top. -/
theorem disable_last (piling : Piling rs Q) {below : List RegistryId} (stack : m.pile = r :: below)
    (q : Q m.pile e) (manned : Manned rs m e) (sound : m.Sound may) (mem : r ∈ rs)
    (on : Scene.On (m.on r) p = true) (none : m.lowered r p = []) :
    ∃ n e', answer (Engine.disable r p) e = (.ok n, e') ∧ Q (m.lower r p).pile e' ∧
      Manned rs (m.lower r p) e' ∧ Abides e e' ∧ e'.profilers = e.profilers := by
  have there := sound.mem_pile on
  obtain ⟨lowered, counted⟩ := manned.lowered mem p
  have switched := Switched.counts r (m.lowered r p) e
  rw [manned.activated r mem, decide_eq_true there] at switched
  have q₁ := piling.counts r (m.lowered r p) q
  rw [stack] at q₁
  obtain ⟨e₂, deactivated, q₂, second⟩ := piling.deactivate q₁ mem switched.activated
  rw [switched.active.trans none] at second
  have off : ((e.dispatchOf r).lower p ((e.dispatchOf r).countOf p - 1)).isActive = false :=
    Dispatch.isActive_eq_false_iff.mpr (lowered.trans none)
  rw [← counted] at deactivated
  refine ⟨(e.dispatchOf r).countOf p - 1, e₂,
    answer_disable_last ((manned.isOn mem).trans on) off deactivated, ?_, ?_,
    switched.toAbides.trans second.toAbides, second.profilers.trans switched.profilers⟩
  · rw [Muster.lower_of_on on, Muster.pile_put there, if_pos none, stack, List.erase_cons_head]
    exact q₂
  · rw [Muster.lower_of_on on, none]
    exact manned.put sound.once (switched.trans second)

/-- **Switching a profiler off.** The last one of a registry takes it away, from the top. -/
theorem disable (piling : Piling rs Q) (q : Q m.pile e) (manned : Manned rs m e)
    (sound : m.Sound may) (mem : r ∈ rs) (p : ProfilerId)
    (last : m.closes r p = true → m.pile.head? = some r) :
    ∃ n e', answer (Engine.disable r p) e = (.ok n, e') ∧ Q (m.lower r p).pile e' ∧
      Manned rs (m.lower r p) e' ∧ Abides e e' ∧ e'.profilers = e.profilers := by
  cases on : Scene.On (m.on r) p with
  | false =>
    obtain ⟨done, q', manned'⟩ := disable_off q manned mem on
    exact ⟨0, e, done, q', manned', .refl e, rfl⟩
  | true =>
    by_cases none : m.lowered r p = []
    · have closes : m.closes r p = true := by
        unfold Muster.closes
        rw [on, none]
        rfl
      obtain ⟨below, stack⟩ := List.head?_eq_some_iff.mp (last closes)
      exact disable_last piling stack q manned sound mem on none
    · exact disable_more piling q manned sound mem on none

end Piling

end LineClock

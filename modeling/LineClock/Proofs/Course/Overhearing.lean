import LineClock.Proofs.Course.Scopes
import LineClock.Proofs.Engine.SlotPile

/-!
# Machines on which hooks only listen

A hook that only listens takes note of what it is told and leaves everything as it is. Beside the
engine it is kept what such hooks were told and what was announced, both with the engine at that
time. From the announcements it can be told what a profiler should have made of them.
-/

namespace LineClock

open Machine Engine

namespace Course

/-- What an announcement tells the profilers of a registry, by the way in which it listens. -/
def Announcement.tidings : Backend → Announcement → Tidings
  | .slot, .trace frame event => event.tidings frame
  | .tool, .monitor event => event.tidings
  | _, _ => .nothing

/-- Whether registries listen to such announcements. -/
def Announcement.passes : Announcement → Bool
  | .trace _ _ => true
  | .monitor event => ourKinds.contains event.kind

/-- An announcement and the engine when it is made. -/
structure Sounding where
  engine : Engine
  what : Announcement

/-- Whether an announcement passes two registries, of both of which profilers are on. -/
def Sounding.overlaps (a b : RegistryId) (x : Sounding) : Bool :=
  x.what.passes && ((x.engine.dispatchOf a).isActive && (x.engine.dispatchOf b).isActive)

/-- What a profiler that was `q` makes of announcements, the newest of them first: it books each one
that is made while it is on. -/
def booked (b : Backend) (p : ProfilerId) (q : Profiler) : List Sounding → Profiler
  | [] => q
  | x :: earlier =>
    let q := booked b p q earlier
    if (x.engine.dispatchOf q.registry).isOn p then
      (x.what.tidings b).book x.engine.thread (x.engine.now q) q
    else q

/-- An engine with hooks that listen, what they were told, and what was announced, the newest
first. -/
structure Overheard where
  engine : Engine
  heard : List (ScriptId × Sounding) := []
  soundings : List Sounding := []

namespace Overheard

/-- A hook is told of an announcement. -/
def tell (x : Overheard) (id : ScriptId) (what : Announcement) : Overheard :=
  { x with heard := (id, ⟨x.engine, what⟩) :: x.heard }

/-- Something is announced. -/
def sound (x : Overheard) (what : Announcement) : Overheard :=
  { x with soundings := ⟨x.engine, what⟩ :: x.soundings }

/-- Hooks that only listen. -/
def scripts : Scripts Overheard where
  engine := engine
  withEngine x e := { x with engine := e }
  trace id frame event := ExceptT.mk fun x => (.ok frame.linesOn, x.tell id (.trace frame event))
  monitor id event := ExceptT.mk fun x => (.ok .goOn, x.tell id (.monitor event))

/-- The machine's surroundings. Without profilers wrappers switch nothing. -/
def host (profiled : Bool) : Host Overheard :=
  { scripts.host with
    trace := fun frame event => do
      modify fun x => x.sound (.trace frame event)
      scripts.announceTrace frame event
    monitor := fun event => do
      modify fun x => x.sound (.monitor event)
      scripts.announceEvent event
    enter := fun routine => if profiled then scripts.host.enter routine else pure ()
    leave := fun routine => if profiled then scripts.host.leave routine else pure () }

/-- What hooks were told, the newest first. -/
def told (x : Overheard) : List (ScriptId × Announcement) := x.heard.map fun h => (h.1, h.2.what)

variable (x : Overheard)

theorem lawful (x : Overheard) : scripts.withEngine x (scripts.engine x) = x := rfl

theorem answer_trace (profiled : Bool) (frame : Frame) (event : TraceEvent) :
    answer ((host profiled).trace frame event) x =
      answer (scripts.announceTrace frame event) (x.sound (.trace frame event)) := rfl

theorem answer_monitor (profiled : Bool) (event : MonitorEvent) :
    answer ((host profiled).monitor event) x =
      answer (scripts.announceEvent event) (x.sound (.monitor event)) := rfl

theorem host_newFrame (profiled : Bool) : (host profiled).newFrame x = (x.engine.frames,
    { x with engine := { x.engine with frames := x.engine.frames + 1 } }) := rfl

theorem host_work (profiled : Bool) (n : UInt8) : ((host profiled).work n x).2 =
    { x with engine := { x.engine with
      clock := x.engine.clock.satAdd (n.toUInt64 * Scripts.ticksPerUnit) } } := rfl

end Overheard

/-! ## What an announcement leaves -/

/-- Whether a hook was told of something that passed two registries, of both of which profilers were
on. -/
def Torn (a b : RegistryId) (x : Overheard) : Prop := ∃ h ∈ x.heard, h.2.overlaps a b = true

/-- What is noted where a hook is told of something, or none is. -/
def notes (id : Option ScriptId) (s : Sounding) : List (ScriptId × Sounding) :=
  (id.map fun id => (id, s)).toList

/-- Who is on for a registry that listens. -/
def anyOn (m : Muster) (p : ProfilerId) : Bool := m.pile.any fun r => Scene.On (m.on r) p

/-- What an announcement leaves where two registries may listen in a pile, as `Q` says: the profilers
that are on book it, and the hook that would hear of it without them does so, unless something was
told before while both were on. -/
structure Announced (k : Backend) (audience : Option ScriptId) (what : Announcement) (a b : RegistryId)
    (Q : Prop → List RegistryId → Engine → Prop) (m : Muster) (x x' : Overheard) : Prop where
  abides : Abides x.engine x'.engine
  manned : Manned [a, b] m x'.engine
  books : Books (what.tidings k) (anyOn m) x.engine x'.engine
  soundings : x'.soundings = x.soundings
  heard : ∃ id e, x'.heard = notes id ⟨e, what⟩ ++ x.heard ∧ (id = audience ∨ Torn a b x)
  pile : Q (Torn a b x') m.pile x'.engine

/-- Who can be on for one of two registries: the profilers that belong to it. -/
def Own (a b : RegistryId) (owner : ProfilerId → RegistryId) (r : RegistryId) (p : ProfilerId) : Prop :=
  r ∈ [a, b] ∧ owner p = r

/-- Everybody who is on wraps. -/
def Wraps (m : Muster) (e : Engine) : Prop :=
  ∀ r p, Scene.On (m.on r) p = true → (e.profiler p).wrap = true

section

variable {a b r r₁ r₂ : RegistryId} {m : Muster} {owner : ProfilerId → RegistryId} {x x' : Overheard}
  {e e' : Engine}

/-- What was told is not taken back. -/
theorem Torn.mono (h : Torn a b x) {news : List (ScriptId × Sounding)}
    (heard : x'.heard = news ++ x.heard) : Torn a b x' := by
  obtain ⟨n, mem, overlaps⟩ := h
  refine ⟨n, ?_, overlaps⟩
  rw [heard]
  exact List.mem_append_right _ mem

/-- Registries that listen are among the two. -/
theorem within (sound : m.Sound (Own a b owner)) (listens : r ∈ m.pile) : r ∈ [a, b] := by
  have somebody := (sound.listens r).mp listens
  cases here : m.on r with
  | nil => exact absurd here somebody
  | cons p rest =>
    refine (sound.may r p.1 ?_).1
    rw [here]
    unfold Scene.On Dispatch.isOn
    simp

/-- None of them listens, or one, or both. -/
theorem pile_cases (sound : m.Sound (Own a b owner)) :
    m.pile = [] ∨ (∃ r, m.pile = [r]) ∨ ∃ r₂ r₁, r₂ ≠ r₁ ∧ m.pile = [r₂, r₁] := by
  have once := sound.once
  have mem : ∀ r ∈ m.pile, r = a ∨ r = b := fun r listens => by
    simpa using within sound listens
  generalize m.pile = pile at once mem
  rcases pile with _ | ⟨r₂, _ | ⟨r₁, _ | ⟨r₀, rest⟩⟩⟩
  · exact .inl rfl
  · exact .inr (.inl ⟨r₂, rfl⟩)
  · simp only [List.nodup_cons, List.mem_cons, List.not_mem_nil, or_false] at once
    exact .inr (.inr ⟨r₂, r₁, once.1, rfl⟩)
  · have first := mem r₂ (by simp)
    have second := mem r₁ (by simp)
    have third := mem r₀ (by simp)
    simp only [List.nodup_cons, List.mem_cons, not_or] at once
    grind

/-- A registry that does not listen has nobody on. -/
theorem deaf_of_silent (manned : Manned [a, b] m e) (sound : m.Sound (Own a b owner))
    (mem : r ∈ [a, b]) (absent : r ∉ m.pile) : Deaf (e.dispatchOf r) := by
  right
  rw [manned.active r mem]
  exact Decidable.byContradiction fun some => absent ((sound.listens r).mpr some)

/-- While a registry does not listen nothing is told under both. -/
theorem torn_of_silent (manned : Manned [a, b] m e) (sound : m.Sound (Own a b owner))
    (mem : r ∈ [a, b]) (absent : r ∉ m.pile) {id : Option ScriptId} {what : Announcement}
    (same : ∀ r, (e'.dispatchOf r).active = (e.dispatchOf r).active)
    (heard : x'.heard = notes id ⟨e', what⟩ ++ x.heard) (torn : Torn a b x') : Torn a b x := by
  obtain ⟨h, told, overlaps⟩ := torn
  rw [heard, List.mem_append] at told
  rcases told with new | old
  · have nobody : (e'.dispatchOf r).isActive = false := by
      rw [Dispatch.isActive_eq_false_iff, same, manned.active r mem]
      exact Decidable.byContradiction fun some => absent ((sound.listens r).mpr some)
    have here : h.2.engine = e' := by
      unfold notes at new
      cases id with
      | none => cases new
      | some id =>
        cases List.mem_singleton.mp new
        rfl
    unfold Sounding.overlaps at overlaps
    rw [here, Bool.and_eq_true, Bool.and_eq_true] at overlaps
    simp only [List.mem_cons, List.not_mem_nil, or_false] at mem
    rcases mem with rfl | rfl
    · rw [nobody] at overlaps
      cases overlaps.2.1
    · rw [nobody] at overlaps
      cases overlaps.2.2
  · exact ⟨h, old, overlaps⟩

/-- What is known where both of two registries listen, `r₂` above `r₁`. -/
structure Doubled (a b r₂ r₁ : RegistryId) (m : Muster) : Prop where
  upper : r₂ ∈ m.pile
  lower : r₁ ∈ m.pile
  upperMem : r₂ ∈ [a, b]
  lowerMem : r₁ ∈ [a, b]
  which : ∀ r ∈ [a, b], r = r₁ ∨ r = r₂

theorem doubled (sound : m.Sound (Own a b owner)) (differ : r₂ ≠ r₁) (pile : m.pile = [r₂, r₁]) :
    Doubled a b r₂ r₁ m := by
  have upper : r₂ ∈ m.pile := by
    rw [pile]
    exact List.mem_cons_self
  have lower : r₁ ∈ m.pile := by
    rw [pile]
    exact List.mem_cons_of_mem _ (List.mem_singleton_self r₁)
  have mem₂ := within sound upper
  have mem₁ := within sound lower
  refine ⟨upper, lower, mem₂, mem₁, fun r mem => ?_⟩
  simp only [List.mem_cons, List.not_mem_nil, or_false] at mem mem₁ mem₂
  grind

/-- Both of two registries listen. -/
theorem overlaps_of (manned : Manned [a, b] m e) (sound : m.Sound (Own a b owner)) (differ : r₂ ≠ r₁)
    (pile : m.pile = [r₂, r₁]) {what : Announcement} (passes : what.passes = true)
    (same : ∀ r, (e'.dispatchOf r).active = (e.dispatchOf r).active) :
    (Sounding.mk e' what).overlaps a b = true := by
  have both := doubled sound differ pile
  have listens : ∀ r ∈ [a, b], (e'.dispatchOf r).isActive = true := by
    intro r mem
    have there : r ∈ m.pile := by
      rcases both.which r mem with rfl | rfl
      · exact both.lower
      · exact both.upper
    refine Dispatch.isActive_iff_ne_nil.mpr ?_
    rw [same r, manned.active r mem]
    exact (sound.listens r).mp there
  unfold Sounding.overlaps
  rw [Bool.and_eq_true, Bool.and_eq_true]
  exact ⟨passes, listens a (by simp), listens b (by simp)⟩

/-- Who is on where one registry listens. -/
theorem anyOn_one (manned : Manned [a, b] m e) (mem : r ∈ [a, b]) (pile : m.pile = [r])
    (p : ProfilerId) : (e.dispatchOf r).isOn p = anyOn m p := by
  unfold anyOn
  rw [pile, manned.isOn mem, List.any_cons, List.any_nil, Bool.or_false]

/-- Who is on where both listen. -/
theorem anyOn_two (manned : Manned [a, b] m e) (mem₂ : r₂ ∈ [a, b]) (mem₁ : r₁ ∈ [a, b])
    (pile : m.pile = [r₂, r₁]) (p : ProfilerId) :
    ((e.dispatchOf r₂).isOn p || (e.dispatchOf r₁).isOn p) = anyOn m p := by
  unfold anyOn
  rw [pile, manned.isOn mem₂, manned.isOn mem₁, List.any_cons, List.any_cons, List.any_nil,
    Bool.or_false]

/-- Of two registries nobody is on in both: each profiler is of one of them. -/
theorem on_apart (manned : Manned [a, b] m e) (sound : m.Sound (Own a b owner)) (differ : r₂ ≠ r₁)
    (mem₂ : r₂ ∈ [a, b]) (mem₁ : r₁ ∈ [a, b]) (p : ProfilerId)
    (on : (e.dispatchOf r₂).isOn p = true) : (e.dispatchOf r₁).isOn p = false := by
  rw [manned.isOn mem₂] at on
  rw [manned.isOn mem₁, Bool.eq_false_iff]
  intro on'
  exact differ ((sound.may r₂ p on).2.symm.trans (sound.may r₁ p on').2)

end

end Course

end LineClock

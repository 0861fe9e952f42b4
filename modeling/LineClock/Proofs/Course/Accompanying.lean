import LineClock.Proofs.Course.SlotForwarding
import LineClock.Proofs.Course.ToolForwarding
import LineClock.Proofs.Machine.Rapport

/-!
# A machine with two registries beside one without

On one machine profilers of two registries are switched, on the other nobody is ever on; on both a
hook only listens. As long as that hook is told of nothing while both registries listen, it is told
of the same on both machines. Profilers book what is announced while they are on, whatever becomes
of the hook.

Main statement: `Accompanied.rapport`.
-/

namespace LineClock.Course

open Machine Engine

/-- Profilers of two registries that wrap. -/
def Wrapping (a b : RegistryId) (start : Engine) (r : RegistryId) (p : ProfilerId) : Prop :=
  Own a b (fun p => (start.profiler p).registry) r p ∧ (start.profiler p).wrap = true

instance (a b : RegistryId) (start : Engine) (r : RegistryId) (p : ProfilerId) :
    Decidable (Wrapping a b start r p) := by
  unfold Wrapping Own
  infer_instance

/-- How two registries attend to the hooks that were there on an engine before them: `Q` says how they
lie in a pile, and `audience` who hears of an announcement without them. -/
structure Attentive (k : Backend) (a b : RegistryId) (start : Engine)
    (audience : Announcement → Option ScriptId) (Q : Prop → List RegistryId → Engine → Prop) :
    Prop where
  piling : ∀ torn, Piling [a, b] (Q torn)
  spends : ∀ {torn pile e}, Q torn pile e → ∀ clock frames, Q torn pile { e with clock, frames }
  trace : ∀ {owner m x frame}, Q (Torn a b x) m.pile x.engine → Manned [a, b] m x.engine →
    m.Sound (Own a b owner) → Wraps m x.engine → frame.linesOn = true → ∀ event,
      ∃ x', answer (Overheard.scripts.announceTrace frame event) x = (.ok true, x') ∧
        Announced k (audience (.trace frame event)) (.trace frame event) a b Q m x x'
  monitor : ∀ {owner m x}, Q (Torn a b x) m.pile x.engine → Manned [a, b] m x.engine →
    m.Sound (Own a b owner) → Wraps m x.engine → ∀ event,
      ∃ x', answer (Overheard.scripts.announceEvent event) x = (.ok (), x') ∧
        Announced k (audience (.monitor event)) (.monitor event) a b Q m x x'
  traceAlone : ∀ {y : Overheard} {frame clock frames}, y.engine = { start with clock, frames } →
    frame.linesOn = true → ∀ event, answer (Overheard.scripts.announceTrace frame event) y =
      (.ok true, { y with
        heard := notes (audience (.trace frame event)) ⟨y.engine, .trace frame event⟩ ++ y.heard })
  monitorAlone : ∀ {y : Overheard} {clock frames}, y.engine = { start with clock, frames } →
    ∀ event, answer (Overheard.scripts.announceEvent event) y =
      (.ok (), { y with
        heard := notes (audience (.monitor event)) ⟨y.engine, .monitor event⟩ ++ y.heard })
  begins : ∀ torn, ¬ torn → Q torn [] start
  back : ∀ {torn e}, ¬ torn → Q torn [] e →
    e.traceHook? = start.traceHook? ∧ start.facility.Alike e.facility

section

variable {k : Backend} {a b : RegistryId} {p : ProfilerId} {q : Profiler} {m : Muster}
  {owner : ProfilerId → RegistryId}

theorem booked_cons (k : Backend) (p : ProfilerId) (q : Profiler) (x : Sounding)
    (earlier : List Sounding) : booked k p q (x :: earlier) =
      let q := booked k p q earlier
      if (x.engine.dispatchOf q.registry).isOn p then
        (x.what.tidings k).book x.engine.thread (x.engine.now q) q
      else q := rfl

/-- Booking changes tallies only. -/
theorem booked_bare (k : Backend) (p : ProfilerId) (q : Profiler) (l : List Sounding) :
    (booked k p q l).bare = q.bare := by
  induction l with
  | nil => rfl
  | cons x earlier ih =>
    rw [booked_cons]
    simp only
    split
    · exact (Tidings.book_bare _ _ _ _).trans ih
    · exact ih

theorem booked_registry (k : Backend) (p : ProfilerId) (q : Profiler) (l : List Sounding) :
    (booked k p q l).registry = q.registry := by
  have same := congrArg Profiler.registry (booked_bare k p q l)
  exact same

theorem booked_wrap (k : Backend) (p : ProfilerId) (q : Profiler) (l : List Sounding) :
    (booked k p q l).wrap = q.wrap := by
  have same := congrArg Profiler.wrap (booked_bare k p q l)
  exact same

/-- Who is on for a registry that listens is on for its own one. -/
theorem anyOn_eq (sound : m.Sound (Own a b owner)) (p : ProfilerId) :
    anyOn m p = Scene.On (m.on (owner p)) p := by
  unfold anyOn
  rw [Bool.eq_iff_iff, List.any_eq_true]
  constructor
  · rintro ⟨r, -, on⟩
    rw [(sound.may r p on).2]
    exact on
  · intro on
    refine ⟨owner p, (sound.listens _).mpr fun none => ?_, on⟩
    rw [none] at on
    cases on

end

/-- A machine on which profilers of two registries are switched, and one on which nobody is. -/
structure Accompanied (k : Backend) (a b : RegistryId) (start : Engine)
    (Q : Prop → List RegistryId → Engine → Prop) (m : Muster) (x y : Overheard) : Prop where
  alone : ∃ clock frames, y.engine = { start with clock, frames }
  abides : Abides y.engine x.engine
  manned : Manned [a, b] m x.engine
  sound : m.Sound (Wrapping a b start)
  pile : Q (Torn a b x) m.pile x.engine
  told : Torn a b x ∨ x.told = y.told
  booked : ∀ p, (start.profiler p).registry ∈ [a, b] →
    x.engine.profiler p = booked k p (start.profiler p) x.soundings

namespace Accompanied

variable {k : Backend} {a b r : RegistryId} {start e : Engine} {p : ProfilerId}
  {audience : Announcement → Option ScriptId} {Q : Prop → List RegistryId → Engine → Prop}
  {m : Muster} {x x' y : Overheard}

/-- Who is on belongs to its registry. -/
theorem owned (h : Accompanied k a b start Q m x y) :
    m.Sound (Own a b fun p => (start.profiler p).registry) :=
  h.sound.mono fun _ _ crew => crew.1

theorem wraps (h : Accompanied k a b start Q m x y) : Wraps m x.engine := by
  intro r p on
  have crew := h.sound.may r p on
  have own : (start.profiler p).registry ∈ [a, b] := by
    have mem := crew.1.1
    rw [← crew.1.2] at mem
    exact mem
  rw [h.booked p own, booked_wrap]
  exact crew.2

/-- The routines are those of the start. -/
theorem routine (h : Accompanied k a b start Q m x y) (id : RoutineId) :
    x.engine.routine id = start.routine id := by
  obtain ⟨clock, frames, alone⟩ := h.alone
  rw [h.abides.routine, alone]
  rfl

/-- What is announced on both. -/
theorem sounds (h : Accompanied k a b start Q m x y) {what : Announcement}
    (heeded : Announced k (audience what) what a b Q m (x.sound what) x') :
    Accompanied k a b start Q m x' { y.sound what with
      heard := notes (audience what) ⟨y.engine, what⟩ ++ y.heard } := by
  obtain ⟨id, e, heard, known⟩ := heeded.heard
  refine ⟨h.alone, h.abides.trans heeded.abides, heeded.manned, h.sound, heeded.pile, ?_, fun p own => ?_⟩
  · rcases known with same | torn
    · rcases h.told with torn | told
      · exact .inl (Torn.mono (x := x) torn heard)
      · right
        unfold Overheard.told at told ⊢
        rw [heard, List.map_append, List.map_append, same]
        have before : (x.sound what).heard.map (fun h => (h.1, h.2.what)) =
          y.heard.map fun h => (h.1, h.2.what) := told
        rw [before]
        cases audience what <;> rfl
    · exact .inl (torn.mono heard)
  · have here := h.booked p own
    have registry := booked_registry k p (start.profiler p) x.soundings
    have books := heeded.books p
    have on : anyOn m p = (x.engine.dispatchOf (start.profiler p).registry).isOn p := by
      rw [anyOn_eq h.owned, h.manned.isOn own]
    have before : (x.sound what).engine = x.engine := rfl
    rw [before, on, here] at books
    have news : (x.sound what).soundings = ⟨x.engine, what⟩ :: x.soundings := rfl
    rw [books, heeded.soundings, news, booked_cons]
    simp only
    rw [registry]

/-- Another engine, after switching. -/
theorem switched (h : Accompanied k a b start Q m x y) {m' : Muster} (manned : Manned [a, b] m' e)
    (sound : m'.Sound (Wrapping a b start)) (pile : Q (Torn a b x) m'.pile e)
    (abides : Abides x.engine e) (profilers : e.profilers = x.engine.profilers) :
    Accompanied k a b start Q m' { x with engine := e } y := by
  refine ⟨h.alone, h.abides.trans abides, manned, sound, pile, h.told, fun p own => ?_⟩
  exact (profiler_congr profilers p).trans (h.booked p own)

/-- A profiler is switched on. -/
theorem enable (h : Accompanied k a b start Q m x y) (attends : Attentive k a b start audience Q)
    (crew : Wrapping a b start r p) : ∃ n e, answer (Engine.enable r p) x.engine = (.ok n, e) ∧
      Accompanied k a b start Q (m.raise r p) { x with engine := e } y := by
  obtain ⟨n, e, enabled, pile, manned, abides, profilers⟩ :=
    (attends.piling _).enable h.pile h.manned h.sound crew.1.1 p
  exact ⟨n, e, enabled, h.switched manned (h.sound.raise crew) pile abides profilers⟩

/-- A profiler is switched off, the last one of its registry only if that began last. -/
theorem disable (h : Accompanied k a b start Q m x y) (attends : Attentive k a b start audience Q)
    (crew : Wrapping a b start r p) (order : m.closes r p = true → m.pile.head? = some r) :
    ∃ n e, answer (Engine.disable r p) x.engine = (.ok n, e) ∧
      Accompanied k a b start Q (m.lower r p) { x with engine := e } y := by
  obtain ⟨n, e, disabled, pile, manned, abides, profilers⟩ :=
    (attends.piling _).disable h.pile h.manned h.sound crew.1.1 p order
  exact ⟨n, e, disabled, h.switched manned (h.sound.lower r p) pile abides profilers⟩

/-- Time passes and frames are made on both. -/
theorem spends (h : Accompanied k a b start Q m x y) (attends : Attentive k a b start audience Q)
    {clock clock' : Counter} {frames frames' : Nat} (sameClock : clock = clock')
    (sameFrames : frames = frames') :
    Accompanied k a b start Q m { x with engine := { x.engine with clock, frames } }
      { y with engine := { y.engine with clock := clock', frames := frames' } } := by
  subst sameClock sameFrames
  obtain ⟨_, _, alone⟩ := h.alone
  refine ⟨⟨clock, frames, ?_⟩, ⟨rfl, rfl, h.abides.code, h.abides.routines, h.abides.thread⟩, ?_,
    h.sound, attends.spends h.pile clock frames, h.told, h.booked⟩
  · rw [alone]
  · exact ⟨h.manned.active, h.manned.activated, h.manned.idle, h.manned.muted⟩

variable (attends : Attentive k a b start audience Q)
  (scopes : ∀ id scope, (start.routine id).scope = some scope →
    Wrapping a b start scope.registry scope.profiler)

include attends scopes

/-- The scope of a routine is entered where profilers are switched. -/
theorem enter (h : Accompanied k a b start Q m x y) (routine : RoutineId) :
    ∃ m' x', answer ((Overheard.host true).enter routine) x = (.ok (), x') ∧
      Accompanied k a b start Q m' x' y ∧ ∀ {x y}, Accompanied k a b start Q m' x y →
        Accompanied k a b start Q m ((Overheard.host true).leave routine x).2 y := by
  have entered : answer ((Overheard.host true).enter routine) x =
    answer (Overheard.scripts.host.enter routine) x := rfl
  rw [entered, Scripts.answer_enter]
  cases known : (start.routine routine).scope with
  | none =>
    have here := congrArg Routine.scope (h.routine routine)
    rw [known] at here
    have here : ((Overheard.scripts.engine x).routine routine).scope = none := here
    rw [here]
    refine ⟨m, x, rfl, h, fun {x y} h => ?_⟩
    have there := congrArg Routine.scope (h.routine routine)
    rw [known] at there
    have there : ((Overheard.scripts.engine x).routine routine).scope = none := there
    have left : ((Overheard.host true).leave routine x).2 = (Overheard.scripts.host.leave routine x).2 :=
      rfl
    rw [left, Scripts.host_leave, there]
    exact h
  | some scope =>
    have crew := scopes routine scope known
    have here := congrArg Routine.scope (h.routine routine)
    rw [known] at here
    have here : ((Overheard.scripts.engine x).routine routine).scope = some scope := here
    obtain ⟨n, e, enabled, inside⟩ := h.enable attends crew
    have enabled : answer (Engine.enable scope.registry scope.profiler) (Overheard.scripts.engine x) =
      (.ok n, e) := enabled
    rw [here]
    simp only
    rw [enabled]
    refine ⟨_, _, rfl, inside, fun {x y} h' => ?_⟩
    have there := congrArg Routine.scope (h'.routine routine)
    rw [known] at there
    have there : ((Overheard.scripts.engine x).routine routine).scope = some scope := there
    obtain ⟨n, e, disabled, outside⟩ := h'.disable attends crew fun closes => Muster.top_raise h.sound closes
    have disabled : answer (Engine.disable scope.registry scope.profiler) (Overheard.scripts.engine x) =
      (.ok n, e) := disabled
    have left : ((Overheard.host true).leave routine x).2 = (Overheard.scripts.host.leave routine x).2 :=
      rfl
    rw [Muster.lower_raise h.sound] at outside
    rw [left, Scripts.host_leave, there]
    simp only
    rw [disabled]
    exact outside

/-- **The machines do the same.** -/
theorem rapport : Rapport (fun _ => False) (Accompanied k a b start Q) (Overheard.host true)
    (Overheard.host false) where
  keeps := Keeps.never _
  code h routine := h.abides.codeOf routine
  newFrame {_ x y} h := by
    have frames := h.abides.frames
    rw [Overheard.host_newFrame, Overheard.host_newFrame]
    exact ⟨frames, h.spends attends h.abides.clock (congrArg (· + 1) frames)⟩
  work {_ x y} h n := by
    rw [Overheard.host_work, Overheard.host_work]
    exact h.spends attends (congrArg (Counter.satAdd · _) h.abides.clock) h.abides.frames
  trace {m x y} h frame event on := by
    obtain ⟨clock, frames, alone⟩ := h.alone
    obtain ⟨x', told, heeded⟩ := attends.trace (x := x.sound (.trace frame event)) h.pile h.manned
      h.owned h.wraps on event
    have told' := attends.traceAlone (y := y.sound (.trace frame event)) alone on event
    exact .inr ⟨x', _, told, told', h.sounds heeded⟩
  monitor {m x y} h event := by
    obtain ⟨clock, frames, alone⟩ := h.alone
    obtain ⟨x', told, heeded⟩ := attends.monitor (x := x.sound (.monitor event)) h.pile h.manned
      h.owned h.wraps event
    have told' := attends.monitorAlone (y := y.sound (.monitor event)) alone event
    exact .inr ⟨x', _, told, told', h.sounds heeded⟩
  enter {m x y} h routine := by
    obtain ⟨m', x', entered, inside, back⟩ := h.enter attends scopes routine
    exact .inr ⟨m', x', y, entered, rfl, inside, back⟩

end Accompanied

end LineClock.Course

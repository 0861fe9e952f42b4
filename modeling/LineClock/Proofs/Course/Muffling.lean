import LineClock.Proofs.Course.Backends
import LineClock.Proofs.Course.Concert
import LineClock.Proofs.Course.Parallel
import LineClock.Proofs.Engine.Unfinished
import Mathlib.Data.List.Infix

/-!
# Frames that hooks want no lines of

Hooks of others are in the trace slots of some threads, and switch off line events of frames. Programs
run while profilers are switched on and off, by tasks, by wrappers and by the hooks themselves. A
frame whose lines were switched off is announced to no hook until its keeping lapses: the profilers
that keep its lines do so on one thread, and only until they stop listening there. The frames whose
lines they keep are not finished, unless that happened on another thread or the lines were off at the
very end.

Main statements: `InCustody.play`, `muted_until_ceased` and `muted_unfinished`.
-/

namespace LineClock.Course

open Machine Engine

/-! ## Courses with frames in custody -/

section

variable {σ : Type} {s : Scripts σ} {host : Host σ} {P : Flags → σ → Prop} {budget : Nat} {c : Flags}
  {st : Stage σ}

/-- Something that depends on the frames that are not finished, and that no move of a course ends. -/
structure Enduring (P : Flags → σ → Prop) (s : Scripts σ) (host : Host σ) : Prop where
  custody : Custody host P
  enter : ∀ {c x}, P c x → ∀ th, P c (s.withEngine x { s.engine x with thread := th })
  task : ∀ {c x}, P c x → ∀ t : Task, P c ((s.run t.act).run x).2

/-- A stage of which it holds, whose generators wait with the flags that are known. -/
structure InCustody (P : Flags → σ → Prop) (c : Flags) (st : Stage σ) : Prop where
  holds : P c st.state
  waits : ∀ (i : Nat) (g : Generator) (a : Activation), st.generators[i]? = some g →
    g.frame = some a → c a.frame.id = some a.frame.linesOn
  apart : ∀ (i j : Nat) (g g' : Generator) (a b : Activation), i ≠ j →
    st.generators[i]? = some g → st.generators[j]? = some g' →
      g.frame = some a → g'.frame = some b → a.frame.id ≠ b.frame.id

namespace InCustody

/-- Before any generator was made. -/
theorem nobody {x : σ} (holds : P c x) : InCustody P c ⟨x, []⟩ :=
  ⟨holds, fun _ _ _ there => (by cases there), fun _ _ _ _ _ _ _ there => by cases there⟩

/-- One generator was made or resumed, and the other frames wait as before. -/
theorem put (h : InCustody P c st) (i : Nat) {c' : Flags} {g : Generator} {x : σ} {gs : List Generator}
    (holds : P c' x) (at_ : ∀ j, gs[j]? = if j = i then some g else st.generators[j]?)
    (own : ∀ a, g.frame = some a → c' a.frame.id = some a.frame.linesOn)
    (others : ∀ j, j ≠ i → ∀ (k : Generator) (b : Activation), st.generators[j]? = some k →
      k.frame = some b → c' b.frame.id = c b.frame.id ∧
        ∀ a, g.frame = some a → b.frame.id ≠ a.frame.id) : InCustody P c' ⟨x, gs⟩ := by
  refine ⟨holds, fun j k a there found => ?_, apart_put h.apart at_ fun j other k a there found =>
    (others j other k a there found).2⟩
  rw [at_] at there
  by_cases this : j = i
  · rw [if_pos this] at there
    cases there
    exact own a found
  · rw [if_neg this] at there
    rw [(others j this k a there found).1]
    exact h.waits j k a there found

/-- A generator is made, with a new frame. -/
theorem generator (h : InCustody P c st) (custody : Custody host P) (routine : RoutineId) :
    ∃ c', InCustody P c' ((Move.generator routine).perform s host budget st).2 := by
  obtain ⟨free, holds⟩ := custody.newFrame h.holds
  refine ⟨_, h.put st.generators.length holds (getElem?_snoc st.generators _) (fun a made => ?_)
    fun j _ k b there found => ?_⟩
  · cases made
    exact Flags.put_self c _ true
  · have waits := h.waits j k b there found
    have other : b.frame.id ≠ (host.newFrame st.state).1 := by
      intro same
      rw [same, free] at waits
      cases waits
    refine ⟨Flags.put_of_ne other true, fun a made => ?_⟩
    cases made
    exact other

/-- A generator is resumed. -/
theorem resume (h : InCustody P c st) (custody : Custody host P) (i : Nat) :
    ∃ c', InCustody P c' ((Move.resume i).perform s host budget st).2 := by
  unfold Move.perform
  simp only
  cases there : st.generators[i]? with
  | none => exact ⟨c, h⟩
  | some g =>
    simp only
    cases found : g.frame with
    | none => exact ⟨c, h⟩
    | some a =>
      have waits := h.waits i g a there found
      have running : P ((c.drop a.frame.id).put a.frame.id a.frame.linesOn) st.state := by
        rw [Flags.put_drop waits]
        exact h.holds
      have stepped := custody.step budget g.routine (Flags.drop_self c a.frame.id) running
      -- the other frames wait as they did
      have others : ∀ j, j ≠ i → ∀ (k : Generator) (b : Activation), st.generators[j]? = some k →
          k.frame = some b → c.drop a.frame.id b.frame.id = c b.frame.id :=
        fun j differ k b here found' => Flags.drop_of_ne (h.apart j i k g b a differ here there found' found)
      -- the frame is finished
      have gone : ∀ {x}, P (c.drop a.frame.id) x →
          ∃ c', InCustody P c' ⟨x, st.generators.set i { g with frame := none }⟩ := fun holds =>
        ⟨_, h.put i holds (Parallel.getElem?_set_there there _) (fun _ none => by cases none)
          fun j differ k b here found' => ⟨others j differ k b here found', fun _ none => by cases none⟩⟩
      simp only
      rcases ran : (Machine.step host budget g.routine a).out st.state with ⟨_ | ⟨_ | _, a'⟩, x⟩ <;>
        rw [ran] at stepped
      · exact gone stepped
      · exact gone stepped
      · obtain ⟨free, holds⟩ := stepped
        refine ⟨_, h.put i holds (Parallel.getElem?_set_there there _) (fun b made => ?_)
          fun j differ k b here found' => ?_⟩
        · cases made
          exact Flags.put_self _ _ _
        · have kept := others j differ k b here found'
          have other : b.frame.id ≠ a'.frame.id := by
            intro same
            rw [← same, kept, h.waits j k b here found'] at free
            cases free
          refine ⟨(Flags.put_of_ne other _).trans kept, fun b' made => ?_⟩
          cases made
          exact other

/-- **Whatever a course does**, it holds of the frames that are not finished then. -/
theorem play (enduring : Enduring P s host) (budget : Nat) (turns : List Turn) (h : InCustody P c st) :
    ∃ c', InCustody P c' (Course.play s host budget turns st).2 := by
  induction turns generalizing c st with
  | nil => exact ⟨c, h⟩
  | cons turn rest ih =>
    have entered : InCustody P c (turn.enter s st) :=
      ⟨enduring.enter h.holds turn.thread, h.waits, h.apart⟩
    have stepped : ∃ c', InCustody P c' (turn.move.perform s host budget (turn.enter s st)).2 := by
      cases turn.move with
      | task t => exact ⟨c, enduring.task entered.holds t, entered.waits, entered.apart⟩
      | call routine =>
        exact ⟨c, enduring.custody.call budget routine entered.holds, entered.waits, entered.apart⟩
      | generator routine => exact entered.generator enduring.custody routine
      | resume i => exact entered.resume enduring.custody i
    obtain ⟨c', stepped⟩ := stepped
    exact ih stepped

end InCustody

end

variable {hooks : Meddlers} {c : Flags} {st : Stage Meddled}

/-- A task switches profilers of the registry, or leaves listening alone. -/
theorem turns_or_setup {x : Meddled} (h : Minds registry none c x) (t : Task) :
    SlotWraps.Turns registry x.engine (t.act.run x.engine).2 ∨ Setup registry t.act := by
  by_cases switches : t.switches
  · left
    cases t with
    | enable p =>
      rw [run_enable_act (h.sole.profilers p)]
      exact .enable h.backend h.here.balanced p
    | disable p =>
      rw [run_disable_act (h.sole.profilers p)]
      exact .disable h.backend h.here.balanced p
    | _ => cases switches
  · exact .inr (Task.setup (Bool.eq_false_iff.mpr switches))

/-- Who keeps the lines of frames is known whatever a course does. -/
theorem minds_enduring (hooks : Meddlers) :
    Enduring (Minds registry none) (Meddled.scripts registry hooks)
      (Meddled.scripts registry hooks).host where
  custody := Minds.custody registry hooks
  enter h th := h.setup (setup_enter th)
  task {c x} h t := by
    show Minds registry none c (x.moveTo registry (t.act.run x.engine).2)
    rcases turns_or_setup h t with turns | setup
    · exact h.turned turns
    · exact h.setup setup

/-- Muted frames are not finished, or strays, whatever a course does. -/
theorem filmed_enduring (calm : ∀ notes visit, (hooks notes visit).error = none) :
    Enduring (Filmed registry hooks) (Meddled.scripts registry hooks).filmed
      (Meddled.scripts registry hooks).film where
  custody := Filmed.custody registry calm
  enter h th := h.setup (setup_enter th) (h.minds.setup (setup_enter th)) fun _ _ none => none
  task {c x} h t := by
    show Filmed registry hooks c (x.push [] (x.now.state.moveTo registry (t.act.run x.now.state.engine).2))
    rcases turns_or_setup h.minds t with turns | setup
    · exact h.turned turns
    · exact h.setup setup (h.minds.setup setup) fun _ _ none => none

/-- A stage of which it is known who keeps the lines of frames that are not finished. -/
abbrev Muffled (c : Flags) (st : Stage Meddled) : Prop := InCustody (Minds registry none) c st

namespace Muffled

theorem minds (h : Muffled c st) : Minds registry none c st.state := h.holds

/-- **Whatever a course does**, it is known who keeps the lines of frames that are not finished. -/
theorem play (hooks : Meddlers) (budget : Nat) (turns : List Turn) (h : Muffled c st) :
    ∃ c', Muffled c' (Course.play (Meddled.scripts registry hooks)
      (Meddled.scripts registry hooks).host budget turns st).2 :=
  InCustody.play (minds_enduring hooks) budget turns h

end Muffled

/-! ## From the start -/

/-- Hooks of others in the trace slots of threads. -/
def hung (hooks : List (ThreadKey × ScriptId)) : Assoc ThreadKey TraceHook :=
  hooks.foldl (fun slots h => slots.set h.1 (.script h.2)) {}

theorem foreign_hung (hooks : List (ThreadKey × ScriptId)) (th : ThreadKey) :
    Foreign ((hung hooks).get? th) := by
  have all : ∀ slots : Assoc ThreadKey TraceHook, Foreign (slots.get? th) →
      Foreign ((hooks.foldl (fun slots h => slots.set h.1 (.script h.2)) slots).get? th) := by
    induction hooks with
    | nil => exact fun _ there => there
    | cons h rest ih =>
      refine fun slots there => ih _ ?_
      rw [Assoc.get?_set]
      split
      · exact ⟨some h.2, rfl⟩
      · exact there
  exact all {} ⟨none, rfl⟩

/-- The machine before anything was done, with hooks of others in trace slots. -/
def startHung (wrap : Bool) (slots : List (ThreadKey × ScriptId)) : Meddled where
  engine := { start .slot true wrap with slots := hung slots }

/-- Nothing is known on any thread. -/
theorem startHung_dispatchAt (wrap : Bool) (slots : List (ThreadKey × ScriptId)) (th : ThreadKey) :
    (startHung wrap slots).engine.dispatchAt th registry = {} := by
  show (start .slot true wrap).dispatchAt th registry = {}
  rw [start_eq .slot true wrap fun _ => rfl]
  rfl

theorem muffled_start (wrap : Bool) (slots : List (ThreadKey × ScriptId)) :
    Muffled (fun _ => none) ⟨startHung wrap slots, []⟩ := by
  have monitored : Backend.slot = .tool → true = true := fun _ => rfl
  obtain ⟨quiet, -, sole⟩ := seen_start .slot true wrap monitored
  have listens : SlotListens registry (start .slot true wrap) := quiet.listens
  refine .nobody ⟨listens.present, listens.backend, listens.silent, sole, fun _ live => absurd rfl live,
    fun _ _ => rfl, fun th => ?_, fun _ lit => (by cases lit), fun _ _ live => absurd rfl live,
    fun _ _ _ suffix => by cases List.suffix_nil.mp suffix⟩
  rw [ite_self, startHung_dispatchAt]
  exact ⟨rfl, rfl, fun _ => foreign_hung slots th, nofun, nofun⟩

/-- **A frame of which a hook wants no lines** is announced to no hook with a line, until its keeping
lapses. Hooks do what they like: they switch line events of frames off, put each other into the trace
slots, switch profilers on and off, and fail. A hook is told of a line of a frame after its lines were
switched off, and not on again, only if the profilers on some thread were handed the keeping since,
and that is another thread or they stopped listening there. -/
theorem muted_until_ceased (hooks : Meddlers) (wrap : Bool) (slots : List (ThreadKey × ScriptId))
    (budget : Nat) (turns : List Turn) {th : ThreadKey} {visit : Visit} {later earlier : List Note}
    (told : .told th visit :: (later ++ .sets visit.frame.id false :: earlier) <:+
      (play (Meddled.scripts registry hooks) (Meddled.scripts registry hooks).host budget turns
        ⟨startHung wrap slots, []⟩).2.state.notes)
    (line : visit.event = .line) (never : .sets visit.frame.id true ∉ later) :
    Lapsed visit.frame.id th later := by
  obtain ⟨c, muffled⟩ := (muffled_start wrap slots).play hooks budget turns
  obtain ⟨frame, thread⟩ := muffled.minds.heeded th visit _ told line
  exact keeper_lapsed never frame thread

/-- A hook that wants no lines of the frame of which it is told first. -/
def demure : Meddlers := fun notes _ => if notes = [] then { lines := some false } else {}

/-- A generator of two steps is made, and its first step is taken while a profiler is on. -/
def halfway : List Turn :=
  [{ move := .task (.profiler none .shared .files) },
    { move := .task (.define { name := "g", file := "g.py", firstLine := 1, generator := true
                               instrs := [⟨2, .yield⟩, ⟨3, .work 1⟩] }) },
    { move := .generator 0 }, { move := .task (.enable 0) }, { move := .resume 0 }]

/-- What is noted when a course is played before such hooks on two threads. -/
def notesOf (turns : List Turn) : List Note :=
  (play (Meddled.scripts registry demure) (Meddled.scripts registry demure).host 9 turns
    ⟨startHung true [(0, 7), (1, 8)], []⟩).2.state.notes

/-- Whether the last of some notes tells of a line, and lines of its frame were switched off `n` notes
before and not on again. -/
def toldAfter (n : Nat) : List Note → Bool
  | .told _ visit :: notes =>
    match notes.drop n with
    | .sets id false :: _ =>
      decide (id = visit.frame.id ∧ visit.event = .line ∧ .sets visit.frame.id true ∉ notes.take n)
    | _ => false
  | _ => false

theorem of_toldAfter {n : Nat} {notes : List Note} (told : toldAfter n notes = true) :
    ∃ th visit later earlier, notes = .told th visit :: (later ++ .sets visit.frame.id false :: earlier) ∧
      visit.event = .line ∧ .sets visit.frame.id true ∉ later := by
  unfold toldAfter at told
  split at told
  · rename_i th visit notes
    split at told
    · rename_i id earlier dropped
      obtain ⟨rfl, line, never⟩ := of_decide_eq_true told
      refine ⟨th, visit, notes.take n, earlier, ?_, line, never⟩
      rw [← dropped, List.take_append_drop]
    · cases told
  · cases told

/-- The second step is taken on another thread, and there the hook is told of its line. -/
theorem muted_until_ceased_elsewhere :
    ∃ th visit later earlier, .told th visit :: (later ++ .sets visit.frame.id false :: earlier) <:+
        notesOf (halfway ++ [{ thread := 1, move := .resume 0 }]) ∧
      visit.event = .line ∧ .sets visit.frame.id true ∉ later ∧ Lapsed visit.frame.id th later := by
  have found : ∃ notes ∈ (notesOf (halfway ++ [{ thread := 1, move := .resume 0 }])).tails,
      toldAfter 3 notes = true := by decide +kernel
  obtain ⟨notes, within, told⟩ := found
  obtain ⟨th, visit, later, earlier, rfl, line, never⟩ := of_toldAfter told
  have suffix := (List.mem_tails _ _).mp within
  exact ⟨th, visit, later, earlier, suffix, line, never,
    @muted_until_ceased demure true _ 9 _ th visit later earlier suffix line never⟩

/-- The profiler is switched off before the second step is taken: the hook is told of its line though
it wants no lines of that frame, which is not finished. -/
theorem muted_frame_told :
    ¬ ∀ th visit later earlier, .told th visit :: (later ++ .sets visit.frame.id false :: earlier) <:+
        notesOf (halfway ++ [{ move := .task (.disable 0) }, { move := .resume 0 }]) →
      .sets visit.frame.id true ∉ later → visit.event ≠ .line := by
  have found : ∃ notes ∈
      (notesOf (halfway ++ [{ move := .task (.disable 0) }, { move := .resume 0 }])).tails,
      toldAfter 4 notes = true := by decide +kernel
  intro silent
  obtain ⟨notes, within, told⟩ := found
  obtain ⟨th, visit, later, earlier, rfl, line, never⟩ := of_toldAfter told
  exact silent th visit later earlier ((List.mem_tails _ _).mp within) never line

/-! ## Muted frames at every moment -/

/-- A film is kept beside a course. -/
theorem film_overlies {σ : Type} (s : Scripts σ) :
    Overlies (fun x : Film σ => x.now.state) s.filmed s.film s s.host where
  atop := s.film_atop
  engine _ := rfl
  withEngine _ _ := rfl

/-- The film of a course. -/
def filmOf (hooks : Meddlers) (wrap : Bool) (slots : List (ThreadKey × ScriptId)) (budget : Nat)
    (turns : List Turn) : Film Meddled :=
  (play (Meddled.scripts registry hooks).filmed (Meddled.scripts registry hooks).film budget turns
    ⟨⟨⟨startHung wrap slots, []⟩, []⟩, []⟩).2.state

/-- The film ends with the state that the course leaves. -/
theorem filmOf_now (hooks : Meddlers) (wrap : Bool) (slots : List (ThreadKey × ScriptId))
    (budget : Nat) (turns : List Turn) :
    (filmOf hooks wrap slots budget turns).now.state =
      (play (Meddled.scripts registry hooks) (Meddled.scripts registry hooks).host budget turns
        ⟨startHung wrap slots, []⟩).2.state := by
  have same := (film_overlies (Meddled.scripts registry hooks)).play budget turns
    ⟨⟨⟨startHung wrap slots, []⟩, []⟩, []⟩
  exact (congrArg (fun p => p.2.state) same).symm

theorem filmed_start (hooks : Meddlers) (wrap : Bool) (slots : List (ThreadKey × ScriptId)) :
    Filmed registry hooks (fun _ => none) ⟨⟨startHung wrap slots, []⟩, []⟩ := by
  have none : ∀ th, ((startHung wrap slots).engine.dispatchAt th registry).muted = [] := fun th => by
    rw [startHung_dispatchAt]
  refine ⟨(muffled_start wrap slots).minds, fun th => .empty (none th), fun th id mem => ?_, nofun,
    nofun⟩
  have mem : id ∈ ((startHung wrap slots).engine.dispatchAt th registry).muted := mem
  rw [none] at mem
  cases mem

/-- **Frames that are muted are not finished**, but for strays. Hooks do not fail, and switch line
events of frames off at any event, put each other into the trace slots, and switch profilers. At
every moment between two events, a frame that is muted on a thread was announced and its last event was
not, or it was finished on another thread, or a hook that was told of its last event left its line
events off. Where there are no strays, no more frames are muted than are not finished. -/
theorem muted_unfinished (hooks : Meddlers) (calm : ∀ notes visit, (hooks notes visit).error = none)
    (wrap : Bool) (slots : List (ThreadKey × ScriptId)) (budget : Nat) (turns : List Turn)
    {m : Shot Meddled} (within : m ∈ (filmOf hooks wrap slots budget turns).shots) (th : ThreadKey) :
    let muted := (m.state.engine.dispatchAt th registry).muted
    (∀ id ∈ muted, id ∈ unfinished m.announced ∨ Stray hooks m th id) ∧
      ((∀ id ∈ muted, ¬ Stray hooks m th id) → muted.length ≤ (unfinished m.announced).card) := by
  obtain ⟨c, filmed⟩ := InCustody.play (filmed_enduring calm) budget turns
    (.nobody (filmed_start hooks wrap slots))
  obtain ⟨once, excused⟩ := filmed.holds.sorted m within th
  refine ⟨excused, fun sound => ?_⟩
  rw [← List.toFinset_card_of_nodup once]
  refine Finset.card_le_card fun id mem => ?_
  have mem := List.mem_toFinset.mp mem
  exact (excused id mem).resolve_right (sound id mem)

/-- A generator that a hook mutes when it is entered waits after its first step, muted. -/
theorem muted_unfinished_halfway :
    let m := (filmOf demure true [(0, 7)] 9 halfway).now
    (m.state.engine.dispatchAt 0 registry).muted = [0] ∧ unfinished m.announced = {0} ∧
      ∀ id ∈ (m.state.engine.dispatchAt 0 registry).muted,
        id ∈ unfinished m.announced ∨ Stray demure m 0 id := by
  have calm : ∀ notes visit, (demure notes visit).error = none := by
    intro notes visit
    unfold demure
    split <;> rfl
  exact ⟨by decide +kernel, by decide +kernel,
    (muted_unfinished demure calm true [(0, 7)] 9 halfway List.mem_cons_self 0).1⟩

/-- A hook that wants no lines of a frame at its end. -/
def parting : Meddlers := fun _ visit =>
  if closes visit.frame visit.event then { lines := some false } else {}

/-- A routine is called while a profiler is on. -/
def brief : List Turn :=
  [{ move := .task (.profiler none .shared .files) },
    { move := .task (.define { name := "f", file := "f.py", firstLine := 1, instrs := [⟨2, .work 1⟩] }) },
    { move := .task (.enable 0) }, { move := .call 0 }]

/-- A frame stays muted after it is finished: the profilers end the muting before they call the hook,
and mute the frame again when the hook has answered. -/
theorem finished_frame_muted :
    ¬ ∀ (hooks : Meddlers) (wrap : Bool) (slots : List (ThreadKey × ScriptId)) (budget : Nat)
        (turns : List Turn) (th : ThreadKey), (∀ notes visit, (hooks notes visit).error = none) →
      ∀ m ∈ (filmOf hooks wrap slots budget turns).shots,
        ∀ id ∈ (m.state.engine.dispatchAt th registry).muted, id ∈ unfinished m.announced := by
  intro sound
  have calm : ∀ notes visit, (parting notes visit).error = none := by
    intro notes visit
    unfold parting
    split <;> rfl
  have left : ∃ id ∈ ((filmOf parting true [(0, 7)] 9 brief).now.state.engine.dispatchAt 0
      registry).muted, id ∉ unfinished (filmOf parting true [(0, 7)] 9 brief).now.announced := by
    decide +kernel
  obtain ⟨id, muted, finished⟩ := left
  exact finished (sound parting true [(0, 7)] 9 brief 0 calm _ List.mem_cons_self id muted)

end LineClock.Course

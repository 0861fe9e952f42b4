import LineClock.Proofs.Course.Chronicle
import LineClock.Proofs.Course.Tampering
import LineClock.Proofs.Engine.Layers

/-!
# Layers over a tool's callbacks

A tool shares the profilers' id and switches locations off. Each time a registry stops listening and
hands such locations back it puts a layer over what it had wrapped, be it the callback of the tool or
that callback under the layers of earlier times: the layer answers in the place of the tool, so the
location is off for the registry again, and is handed back again. A callback is under at most as many
layers as there were such times since it was put there. Nobody takes layers off, so there may be as
many.

Main statements: `layers_handed_back` and `layers_pile_up`.
-/

namespace LineClock.Course

open Machine Engine

variable {kind : EventKind} {hook own : ToolHook} {n : Nat} {e e' since : Engine}
  {before later older : List Engine}

/-! ## What becomes of callbacks -/

theorem Task.hands (t : Task) (e : Engine) : Hands e (t.act.run e).2 := by
  cases t with
  | enable p =>
    exact (Leads.get.bind fun _ => (Familiar.enable _ p).bind fun _ => Leads.pure _ :
      Leads Familiar (Task.enable p).act) e |>.hands
  | disable p =>
    exact (Leads.get.bind fun _ => (Recedes.lower _ p _).bind fun _ => Leads.pure _ :
      Leads Recedes (Task.disable p).act) e |>.hands
  | _ => exact (Task.enlisted Familiar.enlists rfl e).hands

/-- Whatever happens is the work of profilers, or they have no part in it. -/
theorem Happens.hands (h : Happens e e') :
    Hands e e' ∨ e'.profilers = e.profilers ∧ e'.dispatch = e.dispatch := by
  cases h with
  | task t => exact .inl (t.hands e)
  | enable registry p => exact .inl (Familiar.enable registry p e).hands
  | disable registry p => exact .inl (Recedes.lower registry p _ e).hands
  | remove registry p => exact .inl (Recedes.lower registry p _ e).hands
  | forget registry => exact .inl (Recedes.forget registry e).hands
  | endThread => exact .inl (Recedes.endThread e).hands
  | takeTrace registry frame event => exact .inl (Familiar.notes.takeTrace registry frame event e).hands
  | absorbTrace registry frame out =>
    exact .inl (Familiar.hands (Familiar.notes.absorbTrace registry frame out e))
  | uncover event hook => exact .inl (Familiar.listens.uncover event hook e).hands
  | takeEvent registry event => exact .inl (Familiar.notes.takeEvent registry event e).hands
  | absorbEvent registry event out =>
    exact .inl (Familiar.hands (Familiar.notes.absorbEvent registry event out e))
  | other profilers dispatch => exact .inr ⟨profilers, dispatch⟩

/-! ## Callbacks with a past -/

/-- How often locations of a kind were handed back. -/
def handovers (kind : EventKind) : List Engine → Nat
  | e' :: e :: earlier => handovers kind (e :: earlier) + if HandsBack kind e e' then 1 else 0
  | _ => 0

/-- A callback came to stand for a kind without any layer being put over it: it stood there from the
beginning, it is one of profilers, or somebody put it there in a step in which profilers had no part. -/
def Placed (kind : EventKind) (own : ToolHook) (since : Engine) : List Engine → Prop
  | [] => since.Stands kind own
  | e :: _ => since.Stands kind own ∧ (own.Ours ∨
      ¬ e.Stands kind own ∧ since.profilers = e.profilers ∧ since.dispatch = e.dispatch)

/-- A callback is one that came to stand at some time, under no more layers than there were times at
which locations were handed back since. -/
def Layered (kind : EventKind) (hook : ToolHook) (engines : List Engine) : Prop :=
  ∃ own n later since before, engines = later ++ since :: before ∧ Placed kind own since before ∧
    own.Beneath n hook ∧ n ≤ handovers kind (later ++ [since])

theorem Placed.layered (h : Placed kind own since before) : Layered kind own (since :: before) :=
  ⟨own, 0, [], since, before, rfl, h, rfl, Nat.le_refl 0⟩

/-- One moment more. -/
theorem handovers_cons (e' e : Engine) (later : List Engine) (since : Engine)
    (starts : (later ++ [since]).head? = some e) : handovers kind (e' :: (later ++ [since])) =
      handovers kind (later ++ [since]) + if HandsBack kind e e' then 1 else 0 := by
  cases later with
  | nil =>
    cases starts
    rfl
  | cons first rest =>
    cases starts
    rfl

theorem head?_before (whole : e :: older = later ++ since :: before) :
    (later ++ [since]).head? = some e := by
  cases later with
  | nil =>
    cases whole
    rfl
  | cons first rest =>
    cases whole
    rfl

/-- A callback that stays is layered as it was. -/
theorem Layered.stays (h : Layered kind hook (e :: older)) (e' : Engine) :
    Layered kind hook (e' :: e :: older) := by
  obtain ⟨own, n, later, since, before, whole, came, beneath, few⟩ := h
  refine ⟨own, n, e' :: later, since, before, congrArg (e' :: ·) whole, came, beneath, ?_⟩
  rw [List.cons_append, handovers_cons e' e later since (head?_before whole)]
  exact Nat.le_add_right_of_le few

/-- A layer is put over a callback where locations are handed back. -/
theorem Layered.cover {wrapped : ToolHook} (h : Layered kind wrapped (e :: older))
    (hands : HandsBack kind e e') (covers : wrapped.Covers hook) :
    Layered kind hook (e' :: e :: older) := by
  obtain ⟨own, n, later, since, before, whole, came, beneath, few⟩ := h
  refine ⟨own, n + 1, e' :: later, since, before, congrArg (e' :: ·) whole, came,
    beneath.cover covers, ?_⟩
  rw [List.cons_append, handovers_cons e' e later since (head?_before whole), if_pos hands]
  exact Nat.succ_le_succ few

/-- All callbacks that ever stood are layered. -/
def Traced (engines : List Engine) : Prop :=
  ∀ e older, e :: older <:+ engines → ∀ kind hook, e.Stands kind hook → Layered kind hook (e :: older)

/-- **One thing happens**, and callbacks that stand are layered still. -/
theorem Traced.step (h : Traced (e :: older)) (happens : Happens e e') :
    Traced (e' :: e :: older) := by
  intro first rest suffix kind hook there
  rcases List.suffix_cons_iff.mp suffix with same | suffix
  · obtain ⟨rfl, rfl⟩ := List.cons.inj same
    have before := h e older (List.suffix_refl _) kind
    -- A callback that stood before keeps its past, also where others are covered in this step.
    by_cases stood : e.Stands kind hook
    · exact (before hook stood).stays first
    · rcases happens.hands with hands | foreign
      · rcases hands kind hook there with stands | ours | ⟨handed, wrapped, stands, covers⟩
        · exact absurd stands stood
        · exact Placed.layered ⟨there, .inl ours⟩
        · exact (before wrapped stands).cover handed covers
      · exact Placed.layered ⟨there, .inr ⟨stood, foreign⟩⟩
  · exact h first rest suffix kind hook there

/-- Whatever happens after the beginning. -/
theorem Chronicle.Extends.traced {τ : Type} {x y : Chronicle τ} (h : x.Extends y) (fresh : x.past = []) :
    Traced y.engines := by
  induction h with
  | refl =>
    intro e older suffix kind hook there
    unfold Chronicle.engines at suffix
    rw [fresh] at suffix
    rcases List.suffix_cons_iff.mp suffix with same | suffix
    · obtain ⟨rfl, rfl⟩ := List.cons.inj same
      exact Placed.layered there
    · cases List.suffix_nil.mp suffix
  | @tail y z _ last ih =>
    rcases last with same | ⟨happens, past⟩
    · exact same ▸ ih
    · unfold Chronicle.engines
      rw [past]
      exact ih.step happens

/-- **Layers come only where locations are handed back**, one each time. Whatever course is taken, beside
any tools and hooks: the callback that is registered for a kind under the profilers' id, after a
deactivation as at any other time, is one that somebody put there, or that stood there from the
beginning, under at most as many layers as there were times since at which a registry stopped listening
and handed locations of the kind back. -/
theorem layers_handed_back {τ : Type} (a : Agents τ) (first : Engine) (memory : τ)
    (generators : List Generator) (budget : Nat) (turns : List Turn) {e : Engine} {older : List Engine}
    (suffix : e :: older <:+ (play a.scripts a.scripts.host budget turns
      ⟨{ now := first, memory }, generators⟩).2.state.engines)
    {kind : EventKind} {hook : ToolHook}
    (there : e.facility.callback? Facility.profilerTool kind = some hook) :
    ∃ own n later since before, e :: older = later ++ since :: before ∧ Placed kind own since before ∧
      own.Beneath n hook ∧ n ≤ handovers kind (later ++ [since]) :=
  (a.play_extends budget turns ⟨{ now := first, memory }, generators⟩).traced rfl e older suffix kind
    hook (.inl there)

/-- Hooks that want to hear of no location more than once. -/
def averse : Agents Unit :=
  { Agents.idle with
    monitor := fun _ _ => pure .disable
    monitors := Agents.idle.monitors }

/-- A line is called a number of times, and a profiler is switched on and off around each call. -/
def rounds (n : Nat) : List Turn :=
  [{ move := .task (.profiler none .shared .files) },
    { move := .task (.define
      { name := "f", file := "m.py", firstLine := 1, instrs := [⟨2, .work 5⟩] }) }] ++
  (List.replicate n [{ move := .task (.enable 0) }, { move := .call 0 },
    { move := .task (.disable 0) }]).flatten

/-- What the rounds leave beside a tool that is averse. -/
def afterRounds (n : Nat) : Chronicle Unit :=
  (play averse.scripts averse.scripts.host 9 (rounds n)
    ⟨{ now := { start .tool true true with facility := listening }, memory := () }, []⟩).2.state

/-- Two rounds, and the callback is the tool's with the layers that came over it since. -/
theorem layers_handed_back_twice : ∃ e older hook, e :: older <:+ (afterRounds 2).engines ∧
    e.facility.callback? Facility.profilerTool .line = some hook ∧
      ∃ own n later since before, e :: older = later ++ since :: before ∧
        Placed .line own since before ∧ own.Beneath n hook ∧ n ≤ handovers .line (later ++ [since]) := by
  have stands : ((afterRounds 2).now.facility.callback? Facility.profilerTool .line).isSome = true := by
    decide +kernel
  obtain ⟨hook, there⟩ := Option.isSome_iff_exists.mp stands
  have suffix : (afterRounds 2).now :: (afterRounds 2).past <:+ (afterRounds 2).engines :=
    List.suffix_refl _
  exact ⟨_, _, hook, suffix, there, layers_handed_back averse _ () [] 9 (rounds 2) suffix there⟩

/-- After so many rounds the callback is the tool's own under exactly as many layers. -/
def Piled (n : Nat) : Prop :=
  ∃ hook, (afterRounds n).now.facility.callback? Facility.profilerTool .line = some hook ∧
    ∀ m, (ToolHook.script 0).Beneath m hook ↔ m = n

theorem Piled.intro (h : ((afterRounds n).now.facility.callback? Facility.profilerTool .line).any
    (fun hook => decide ((ToolHook.script 0).Beneath n hook)) = true) : Piled n := by
  obtain ⟨hook, there, beneath⟩ := (Option.any_eq_true _ _).mp h
  have beneath : (ToolHook.script 0).Beneath n hook := of_decide_eq_true beneath
  exact ⟨hook, there, fun m => ⟨fun h => h.script_unique beneath, fun same => same ▸ beneath⟩⟩

/-- The tool never registers anything, and its callback is under one layer more after each round: under
two, and not under at most one, when the profiler is off for the second time. -/
theorem layers_pile_up : Piled 1 ∧ Piled 2 ∧ Piled 3 :=
  ⟨.intro (by decide +kernel), .intro (by decide +kernel), .intro (by decide +kernel)⟩

end LineClock.Course

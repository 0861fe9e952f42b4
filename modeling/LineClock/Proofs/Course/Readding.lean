import LineClock.Proofs.Course.Handling

/-!
# Adding a routine once more

A routine that was added is vetted: its block is admitted, and enrolled as the block of the routine.
It stays so, whatever else is added, until somebody writes the code slot of the routine; and while it
does, adding the routine once more changes no code, admits nothing, and tells nobody but the profiler
to which it is added, which learns nothing if it has the routine already.

Main statement: `registration_idempotent`.
-/

namespace LineClock

open Machine Engine

/-! ## What stays with a profiler -/

/-- What a profiler watches it watches still, and what it has noted stays noted. -/
structure Profiler.Retains (p p' : Profiler) : Prop where
  blocks : ∀ h w, p.blocks.get? h = some w → p'.blocks.get? h = some w
  routines : ∀ r ∈ p.routines, r ∈ p'.routines

namespace Profiler.Retains

variable {p p' p'' : Profiler}

theorem refl (p : Profiler) : Retains p p := ⟨fun _ _ found => found, fun _ noted => noted⟩

theorem trans (h : Retains p p') (h' : Retains p' p'') : Retains p p'' :=
  ⟨fun b w found => h'.blocks b w (h.blocks b w found),
    fun r noted => h'.routines r (h.routines r noted)⟩

theorem of_bare (same : p'.bare = p.bare) : Retains p p' := by
  have blocks : p'.bare.blocks = p.bare.blocks := by rw [same]
  have routines : p'.bare.routines = p.bare.routines := by rw [same]
  refine ⟨fun h w found => ?_, fun r noted => ?_⟩
  · exact (congrArg (fun m => m.get? h) blocks).trans found
  · exact routines.symm ▸ noted

theorem watch (files : Files) (block : Block) (p : Profiler) :
    Retains p (answer (Profiler.watch files block) p).2 := by
  refine ⟨(watch_enriched files block p).blocks, fun r noted => ?_⟩
  have cases := watch_cases files block p
  generalize answer (Profiler.watch files block) p = result at cases
  cases cases with
  | already known => exact noted
  | failed error sources => exact noted
  | entered fresh sources lines => exact noted

theorem addRoutine (p : Profiler) (routine : RoutineId) : Retains p (p.addRoutine routine) := by
  unfold Profiler.addRoutine
  split
  · exact .refl p
  · exact ⟨fun _ _ found => found, fun _ noted => List.mem_append_left _ noted⟩

theorem watches (h : Retains p p') {block : BlockHash} (known : p.watches block = true) :
    p'.watches block = true := by
  obtain ⟨w, found⟩ := Option.isSome_iff_exists.mp known
  exact Option.isSome_iff_exists.mpr ⟨w, h.blocks block w found⟩

end Profiler.Retains

namespace Course

variable {budget : Nat} {e e' : Engine} {done : List Block} {ds : List Deed}
  {gs : List Registration} {p q : ProfilerId} {g routine : RoutineId}

/-- Handling code takes nothing from a profiler that is there. -/
theorem Handled.retains (h : Handled done e ds gs e') (given : Ready registry e)
    (there : q ∈ e.profilers.keys) :
    q ∈ e'.profilers.keys ∧ (e.profiler q).Retains (e'.profiler q) := by
  induction h with
  | @idle _ e e' ready same =>
    have keys : e'.profilers.keys = e.profilers.keys := same.keys
    exact ⟨keys ▸ there, .of_bare (same.profiler q)⟩
  | @profiler _ e wrap clock sources =>
    have free : e.profilers.get? e.profilers.entries.length = none := given.sole.next_free
    have other : e.profilers.entries.length ≠ q := by
      rintro rfl
      exact (Assoc.get?_eq_none_iff _ _).mp free there
    refine ⟨?_, ?_⟩
    · show q ∈ (e.profilers.set _ _).keys
      rw [Assoc.keys_set_of_get?_none free]
      exact List.mem_append_left _ there
    · rw [profiler_newProfiler, if_neg other]
      exact .refl _
  | routine block => exact ⟨there, .refl _⟩
  | write routine block => exact ⟨there, .refl _⟩
  | @add _ e shelf p routine =>
    have added := added_cases p routine e
    exact ⟨added.keys ▸ there, added.profiler .refl .trans .watch
      (fun p => .addRoutine p routine) q⟩
  | wrapper inner p => exact ⟨there, .refl _⟩
  | trans first later ih ih' =>
    obtain ⟨there', retains⟩ := ih given there
    obtain ⟨there'', retains'⟩ := ih' (first.ready given) there'
    exact ⟨there'', retains.trans retains'⟩

/-! ## Routines -/

/-- Routines are numbered in the order in which they were made. -/
def Numbered (e : Engine) : Prop := e.routines.keys = List.range e.routines.entries.length

namespace Numbered

theorem next_free (h : Numbered e) : e.routines.get? e.routines.entries.length = none := by
  rw [Assoc.get?_eq_none_iff, h, List.mem_range]
  exact Nat.lt_irrefl _

/-- One more routine. -/
theorem set (h : Numbered e) (r : Routine)
    (made : e'.routines = e.routines.set e.routines.entries.length r) : Numbered e' := by
  have keys := Assoc.keys_set_of_get?_none h.next_free r
  have length : (e.routines.set e.routines.entries.length r).entries.length =
      e.routines.entries.length + 1 := by
    have counted := congrArg List.length keys
    unfold Assoc.keys at counted
    simpa using counted
  unfold Numbered
  rw [made, keys, length, h, List.range_succ]

/-- A routine that is there is not the next one. -/
theorem routine_set (h : Numbered e) (there : g ∈ e.routines.keys) {r : Routine}
    (made : e'.routines = e.routines.set e.routines.entries.length r) :
    g ∈ e'.routines.keys ∧ e'.routine g = e.routine g := by
  have other : e.routines.entries.length ≠ g := by
    rintro rfl
    exact (Assoc.get?_eq_none_iff _ _).mp h.next_free there
  refine ⟨?_, ?_⟩
  · rw [made, Assoc.keys_set_of_get?_none h.next_free]
    exact List.mem_append_left _ there
  · unfold Engine.routine
    rw [made, Assoc.getD_set, if_neg other]

end Numbered

/-- Handling code leaves the routines that are there what they are. -/
theorem Handled.routine_there (h : Handled done e ds gs e') (given : Ready registry e)
    (numbered : Numbered e) :
    Numbered e' ∧ ∀ g ∈ e.routines.keys, g ∈ e'.routines.keys ∧ e'.routine g = e.routine g := by
  have same : ∀ {e e' : Engine}, e'.routines = e.routines → Numbered e →
      Numbered e' ∧ ∀ g ∈ e.routines.keys, g ∈ e'.routines.keys ∧ e'.routine g = e.routine g := by
    intro e e' routines numbered
    unfold Numbered Engine.routine
    rw [routines]
    exact ⟨numbered, fun g there => ⟨there, rfl⟩⟩
  induction h with
  | idle ready code => exact same code.routines numbered
  | profiler wrap clock sources => exact same rfl numbered
  | routine block =>
    exact ⟨numbered.set _ rfl, fun g there => numbered.routine_set there rfl⟩
  | write routine block => exact same rfl numbered
  | add shelf p routine => exact same (routines_addRoutine given p routine) numbered
  | wrapper inner p =>
    exact ⟨numbered.set _ rfl, fun g there => numbered.routine_set there rfl⟩
  | trans first later ih ih' =>
    obtain ⟨numbered', kept⟩ := ih given numbered
    obtain ⟨numbered'', kept'⟩ := ih' (first.ready given) numbered'
    refine ⟨numbered'', fun g there => ?_⟩
    obtain ⟨there', routine⟩ := kept g there
    obtain ⟨there'', routine'⟩ := kept' g there'
    exact ⟨there'', routine'.trans routine⟩

/-- What an addition that succeeded says. -/
theorem addition_eq {p' : ProfilerId} (h : .added p g true = addition p' routine e) :
    p = p' ∧ g = routine ∧ (∃ fresh, (answer (addRoutine p g) e).1 = .ok fresh) ∧
      p ∈ e.profilers.keys ∧ g ∈ e.routines.keys := by
  unfold addition at h
  simp only [Deed.added.injEq, Bool.true_eq, Bool.and_eq_true] at h
  obtain ⟨rfl, rfl, ⟨ok, profiler⟩, routine⟩ := h
  refine ⟨rfl, rfl, ?_, (Assoc.contains_iff _ _).mp profiler, (Assoc.contains_iff _ _).mp routine⟩
  cases answered : (answer (addRoutine p g) e).1 with
  | ok fresh => exact ⟨fresh, rfl⟩
  | error error =>
    rw [answered] at ok
    cases ok

/-! ## Vetted routines -/

/-- A routine is vetted: its block is admitted, and enrolled as the block of the routine. -/
structure Vetted (g : RoutineId) (s : Scene) : Prop where
  fit : Profiler.refusal? (s.codeOf g) = none
  known : (s.codeOf g).id ∈ s.padding.known
  enrolled : ∃ record, s.padding.enrolled.get? g = some record ∧ record.block = (s.codeOf g).id

namespace Vetted

variable {s s' : Scene}

theorem same (h : Vetted g s) (code : s'.codeOf g = s.codeOf g) (padding : s'.padding = s.padding) :
    Vetted g s' := by
  obtain ⟨fit, known, enrolled⟩ := h
  rw [← code] at fit known enrolled
  rw [← padding] at known enrolled
  exact ⟨fit, known, enrolled⟩

/-- A routine that is added is vetted, whether or not the profiler can watch it. -/
theorem of_added (given : Ready registry e) (shelf : (e.scene registry).Shelf done)
    (fit : Profiler.refusal? (e.codeOf g) = none) (p : ProfilerId) :
    Vetted g ((answer (addRoutine p g) e).2.scene registry) := by
  have own : (e.profiler p).registry = registry := given.sole.profilers p
  obtain ⟨profilers, after⟩ := state_addRoutine p fit
  have runs := (shelf.prepare given fit p).2
  rw [own] at after
  have code : ((answer (addRoutine p g) e).2.scene registry).codeOf g =
      (e.admits registry g) := by
    rw [after]
    exact runs
  obtain ⟨profilers', scene⟩ := scene_addRoutine given p fit
  have padding := congrArg Scene.padding scene
  obtain ⟨record, found, block, -⟩ := Padding.get?_enrol ((e.registry registry).padding.accept
    (e.codeOf g) e.blocks).2 g (e.codeOf g).id (e.admits registry g).id p
  refine ⟨?_, ?_, record, ?_, ?_⟩
  · rw [code]
    exact Padding.refusal?_accept _ fit _
  · rw [code, padding]
    exact Padding.mem_known_accept _ _ _
  · rw [padding]
    exact found
  · rw [code]
    exact block

/-- Preparing a vetted routine leaves its block, and tells nobody. -/
theorem unmoved (h : Vetted g (e.scene registry)) (p : ProfilerId) :
    (e.registry registry).padding.accept (e.codeOf g) e.blocks =
        (e.codeOf g, (e.registry registry).padding) ∧
      e.admits registry g = e.codeOf g ∧ e.told registry g p = [] := by
  have accepted : (e.registry registry).padding.accept (e.codeOf g) e.blocks =
      (e.codeOf g, (e.registry registry).padding) := Padding.accept_known h.known _
  have admits : e.admits registry g = e.codeOf g := by
    unfold admits
    rw [accepted]
  refine ⟨accepted, admits, List.eq_nil_iff_forall_not_mem.mpr fun q mem => ?_⟩
  unfold Engine.told at mem
  rw [admits, accepted] at mem
  obtain ⟨record, found, differ, -⟩ := (Padding.told_iff _ _ _ _ _ _).mp mem
  obtain ⟨record', found', same⟩ := h.enrolled
  have both : some record = some record' := found.symm.trans found'
  cases both
  exact differ same

/-- **A vetted routine stays vetted** whatever is added, with the block it has. -/
theorem addRoutine (h : Vetted g (e.scene registry)) (given : Ready registry e) (p : ProfilerId)
    (r : RoutineId) :
    ((answer (Engine.addRoutine p r) e).2.scene registry).codeOf g = e.codeOf g ∧
      Vetted g ((answer (Engine.addRoutine p r) e).2.scene registry) := by
  cases refusal : Profiler.refusal? (e.codeOf r) with
  | some error =>
    rw [addRoutine_refused refusal]
    exact ⟨rfl, h⟩
  | none =>
    have code : ((answer (Engine.addRoutine p r) e).2.scene registry).codeOf g = e.codeOf g := by
      rcases codeOf_addRoutine given p refusal with kept | ⟨shared, moved⟩
      · exact kept
      · -- The block of the slot is admitted, so it is not another one that comes out.
        unfold Engine.admits at moved
        rw [shared, (h.unmoved p).1] at moved
        exact absurd rfl moved
    have padding : ((answer (Engine.addRoutine p r) e).2.scene registry).padding = _ :=
      padding_added given p refusal
    refine ⟨code, ?_, ?_, ?_⟩
    · rw [code]
      exact h.fit
    · rw [code, padding]
      exact Padding.known_accept_of_mem h.known _ _
    · rw [code, padding]
      by_cases same : r = g
      · subst same
        obtain ⟨record, found, block, -⟩ := Padding.get?_enrol ((e.registry registry).padding.accept
          (e.codeOf r) e.blocks).2 r (e.codeOf r).id (e.admits registry r).id p
        rw [(h.unmoved p).2.1] at block
        exact ⟨record, found, block⟩
      · obtain ⟨record, found, block⟩ := h.enrolled
        refine ⟨record, ?_, block⟩
        rw [Padding.get?_enrol_ne same, Padding.enrolled_accept]
        exact found

/-- Adding a vetted routine admits nothing, and changes no profiler but the one it is added to. -/
theorem again (h : Vetted g (e.scene registry)) (given : Ready registry e) (q : ProfilerId) :
    ((answer (Engine.addRoutine q g) e).2.registry registry).padding.known =
        (e.registry registry).padding.known ∧
      ∀ r, r ≠ q → (answer (Engine.addRoutine q g) e).2.profiler r = e.profiler r := by
  have own : (e.profiler q).registry = registry := given.sole.profilers q
  obtain ⟨accepted, -, untold⟩ := h.unmoved q
  obtain ⟨profilers, scene⟩ := scene_addRoutine given q h.fit
  refine ⟨?_, fun r other => ?_⟩
  · have known := congrArg (fun s : Scene => s.padding.known) scene
    refine known.trans ?_
    exact congrArg (fun r : Block × Padding => r.2.known) accepted
  · refine (added_cases q g e).other other ?_
    rw [own, untold]
    exact List.not_mem_nil

end Vetted

/-- **A vetted routine stays vetted** until its slot is written. -/
theorem Handled.vetted (h : Handled done e ds gs e') (given : Ready registry e)
    (numbered : Numbered e) (there : g ∈ e.routines.keys)
    (unwritten : .written (e.routine g).slot ∉ ds) (vetted : Vetted g (e.scene registry)) :
    e'.codeOf g = e.codeOf g ∧ Vetted g (e'.scene registry) := by
  -- Another slot is written.
  have elsewhere : ∀ {e e' : Engine} {slot : RoutineId} {block : Block},
      e'.routine g = e.routine g → e'.code = e.code.set slot block → slot ≠ (e.routine g).slot →
      (e'.registry registry).padding = (e.registry registry).padding →
      Vetted g (e.scene registry) →
      e'.codeOf g = e.codeOf g ∧ Vetted g (e'.scene registry) := by
    intro e e' slot block routine code other padding vetted
    have same : e'.codeOf g = e.codeOf g := by
      unfold codeOf slotCode
      rw [routine, code, Assoc.getD_set, if_neg other]
    exact ⟨same, vetted.same same padding⟩
  induction h with
  | idle ready same => exact ⟨same.codeOf g, vetted.same (same.codeOf g) same.padding⟩
  | profiler wrap clock sources => exact ⟨rfl, vetted.same rfl rfl⟩
  | @routine _ e block =>
    have kept : ((newRoutine block).run e).2.routine g = e.routine g :=
      (numbered.routine_set there rfl).2
    refine elsewhere kept rfl (fun same => unwritten ?_) rfl vetted
    rw [same]
    exact List.mem_cons_self
  | write routine block =>
    refine elsewhere rfl rfl (fun same => unwritten ?_) rfl vetted
    rw [same]
    exact List.mem_cons_self
  | add shelf p routine => exact vetted.addRoutine given p routine
  | @wrapper _ e inner p =>
    have kept : ((newWrapper inner { registry, profiler := p }).run e).2.routine g = e.routine g :=
      (numbered.routine_set there rfl).2
    have same : ((newWrapper inner { registry, profiler := p }).run e).2.codeOf g = e.codeOf g := by
      unfold codeOf
      rw [kept]
      rfl
    exact ⟨same, vetted.same same rfl⟩
  | trans first later ih ih' =>
    rw [List.mem_append, not_or] at unwritten
    obtain ⟨code, vetted⟩ := ih given numbered there unwritten.1 vetted
    obtain ⟨numbered', kept⟩ := first.routine_there given numbered
    obtain ⟨there', routine⟩ := kept g there
    obtain ⟨code', vetted'⟩ :=
      ih' (first.ready given) numbered' there' (routine ▸ unwritten.2) vetted
    exact ⟨code'.trans code, vetted'⟩

/-- A profiler has a vetted routine: it watches its block, and has a note of it. -/
structure Attends (p : ProfilerId) (g : RoutineId) (e : Engine) : Prop where
  vetted : Vetted g (e.scene registry)
  watches : (e.profiler p).watches (e.codeOf g).identity = true
  noted : g ∈ (e.profiler p).routines

/-- Adding a routine to a profiler that has it is no news. -/
theorem Attends.again (h : Attends p g e) (given : Ready registry e) :
    (answer (addRoutine p g) e).1 = .ok false ∧
      (answer (addRoutine p g) e).2.profiler p = e.profiler p := by
  have own : (e.profiler p).registry = registry := given.sole.profilers p
  obtain ⟨-, admits, untold⟩ := h.vetted.unmoved p
  obtain ⟨reply, same⟩ := (added_cases p g e).again h.vetted.fit (by rw [own, untold])
    (by rw [own, admits]; exact h.watches) h.noted
  exact ⟨reply, same p⟩

/-- **A profiler has the routine that was added to it**, until the routine's slot is written. -/
theorem Handled.attends (h : Handled done e ds gs e') (given : Ready registry e)
    (numbered : Numbered e) {before after : List Deed} (split : ds = before ++ .added p g true :: after) :
    g ∈ e'.routines.keys ∧ p ∈ e'.profilers.keys ∧
      (.written (e'.routine g).slot ∉ after → Attends p g e') := by
  have member : .added p g true ∈ ds := by
    rw [split]
    exact List.mem_append_right _ List.mem_cons_self
  induction h generalizing before after with
  | idle | profiler | wrapper => cases member
  | routine block | write routine block =>
    rcases List.mem_cons.mp member with here | here <;> cases here
  | @add _ e shelf p' routine =>
    obtain ⟨rfl, rfl, ⟨fresh, ok⟩, there, routine⟩ := addition_eq (List.mem_singleton.mp member)
    have added := added_cases p g e
    refine ⟨?_, added.keys ▸ there, fun _ => ?_⟩
    · rw [routines_addRoutine given]
      exact routine
    · have own : (e.profiler p).registry = registry := given.sole.profilers p
      have fit : Profiler.refusal? (e.codeOf g) = none := fit_of_added ok
      have vetted := Vetted.of_added given shelf fit p
      have runs := (shelf.addRoutine given p g).2
      rcases run : answer (addRoutine p g) e with ⟨o, e₁⟩
      rw [run] at ok added vetted runs
      cases ok
      obtain ⟨watches, noted⟩ := added.self there
      rw [own] at watches
      have code := (Scene.Shelf.mem_registers fit p _).mp (runs fresh rfl)
      rw [own] at code
      refine ⟨vetted, ?_, noted⟩
      rw [code]
      exact watches
  | @trans done e₁ e₂ e₃ ds ds' gs gs' first later ih ih' =>
    obtain ⟨numbered', -⟩ := first.routine_there given numbered
    rcases List.append_eq_append_iff.mp split with ⟨as, rfl, later'⟩ | ⟨cs, first', rest⟩
    · exact ih' (first.ready given) numbered' later' (by
        rw [later']
        exact List.mem_append_right _ List.mem_cons_self)
    · cases cs with
      | nil =>
        have whole : ds' = [] ++ .added p g true :: after := rest.symm
        exact ih' (first.ready given) numbered' whole (by
          rw [whole]
          exact List.mem_cons_self)
      | cons d cs =>
        rw [List.cons_append] at rest
        cases rest
        obtain ⟨routine, there, attends⟩ := ih given numbered first' (by
          rw [first']
          exact List.mem_append_right _ List.mem_cons_self)
        have ready := first.ready given
        obtain ⟨there', retains⟩ := later.retains ready there
        obtain ⟨routine', kept⟩ := (later.routine_there ready numbered').2 g routine
        refine ⟨routine', there', fun unwritten => ?_⟩
        rw [kept, List.mem_append, not_or] at unwritten
        obtain ⟨vetted, watches, noted⟩ := attends unwritten.1
        obtain ⟨code, vetted'⟩ := later.vetted ready numbered' routine unwritten.2 vetted
        refine ⟨vetted', ?_, retains.routines _ noted⟩
        rw [code]
        exact retains.watches watches

theorem numbered_start (b : Backend) (monitored wrap : Bool) (h : b = .tool → monitored = true) :
    Numbered (start b monitored wrap) := by
  rw [start_eq b monitored wrap h]
  rfl

/-- **Registration is idempotent.** Once a routine was added to a profiler, and until its code slot is
written, the routine keeps its block, whatever else is done. Adding the routine once more, to any
profiler, leaves its block and the number of known blocks, and changes no profiler but the one to
which it is added; to a profiler that has it already it is no news, and that profiler stays as it
is. -/
theorem registration_idempotent (b : Backend) (monitored wrap : Bool) (budget : Nat)
    (turns later : List Turn) (h : b = .tool → monitored = true) :
    let playing := fun turns =>
      (play Scripts.quiet Scripts.quiet.host budget turns ⟨start b monitored wrap, []⟩).2
    ∀ p g before after,
      deeds budget turns ⟨start b monitored wrap, []⟩ = before ++ .added p g true :: after →
      let slot := ((playing turns).state.routine g).slot
      .written slot ∉ after → .written slot ∉ deeds budget later (playing turns) →
      let e := (playing (turns ++ later)).state
      e.codeOf g = (playing turns).state.codeOf g ∧ ∀ thread q,
        let turn : Turn := ⟨thread, .task (.add q g)⟩
        let again := turn.move.perform Scripts.quiet Scripts.quiet.host budget
          (turn.enter Scripts.quiet (playing (turns ++ later)))
        let e' := again.2.state
        e'.codeOf g = e.codeOf g ∧
          (e'.registry registry).padding.known = (e.registry registry).padding.known ∧
          (∀ r, r ≠ q → e'.profiler r = e.profiler r) ∧
          (q = p → again.1 = .flag false ∧ e'.profiler p = e.profiler p) := by
  simp only
  intro p g before after split unwritten unwritten'
  have peers := peers_start wrap monitored monitored h h
  have shelf := shelf_start b monitored wrap h
  have ready : Ready registry (start b monitored wrap) := (seen_start b monitored wrap h).ready
  have first := play_handled budget turns peers shelf
  have peers' := (peers_play budget peers turns).2
  have shelf' := play_shelf budget turns peers shelf
  obtain ⟨routine, there, attends⟩ :=
    first.attends ready (numbered_start b monitored wrap h) split
  have numbered := (first.routine_there ready (numbered_start b monitored wrap h)).1
  have second := play_handled budget later peers' shelf'
  rw [play_append]
  have had := attends unwritten
  obtain ⟨code, vetted⟩ :=
    second.vetted (first.ready ready) numbered routine unwritten' had.vetted
  obtain ⟨-, retains⟩ := second.retains (first.ready ready) there
  have ready' := second.ready (first.ready ready)
  have watches := retains.watches had.watches
  rw [← code] at watches
  have has : Attends p g _ := ⟨vetted, watches, retains.routines _ had.noted⟩
  generalize (play Scripts.quiet Scripts.quiet.host budget later _).2 = st at *
  refine ⟨code, fun thread q => ?_⟩
  -- On which thread a routine is added is all the same.
  have ready'' : Ready registry { st.state with thread } := (setup_enter thread).ready ready'
  have has' : Attends p g { st.state with thread } := ⟨vetted.same rfl rfl, has.watches, has.noted⟩
  obtain ⟨known, others⟩ := has'.vetted.again ready'' q
  refine ⟨(has'.vetted.addRoutine ready'' q g).1, known, others, ?_⟩
  rintro rfl
  obtain ⟨reply, same⟩ := has'.again ready''
  exact ⟨congrArg (Reply.ofTry .flag) reply, same⟩

/-- Three routines with the same bytes; the first two are added to two profilers. -/
def threeCopies : List Turn :=
  [{ move := .task (.profiler none .shared .files) },
    { move := .task (.profiler none .shared .files) },
    { move := .task (.define (oneUnit "f" "f.py")) },
    { move := .task (.define (oneUnit "g" "g.py")) },
    { move := .task (.define (oneUnit "h" "h.py")) }, { move := .task (.addAll 0 [0, 1]) }]

/-- The second profiler is given the third routine and wraps the first, which then runs; the third
one is given other code. -/
def othersAdded : List Turn :=
  [{ move := .task (.add 1 2) }, { move := .task (.wrapper 1 0) }, { move := .call 3 },
    { move := .task (.replaceCode 2 1) }, { move := .task (.add 0 2) }]

/-- The second routine, which runs a padded copy, is added to the first profiler again. -/
theorem registration_idempotent_padded :
    let before : List Deed := [.written 0, .written 1, .written 2, .added 0 0 true]
    (Backend.slot = .tool → true = true) ∧
      deeds 9 threeCopies ⟨start .slot true true, []⟩ = before ++ .added 0 1 true :: [] ∧
      let playing := fun turns =>
        (play Scripts.quiet Scripts.quiet.host 9 turns ⟨start .slot true true, []⟩).2
      let slot := ((playing threeCopies).state.routine 1).slot
      Deed.written slot ∉ ([] : List Deed) ∧
        .written slot ∉ deeds 9 othersAdded (playing threeCopies) ∧
        ((playing threeCopies).state.codeOf 1).padding = 1 ∧
        ((playing (threeCopies ++ othersAdded)).state.codeOf 1).padding = 1 ∧
        ((Move.task (.add 0 1)).perform Scripts.quiet Scripts.quiet.host 9
          (Turn.enter Scripts.quiet ⟨0, .task (.add 0 1)⟩
            (playing (threeCopies ++ othersAdded)))).1 = .flag false := by
  have monitored : Backend.slot = .tool → true = true := fun _ => rfl
  have split : deeds 9 threeCopies ⟨start .slot true true, []⟩ =
      [.written 0, .written 1, .written 2, .added 0 0 true] ++ .added 0 1 true :: [] := by
    decide +kernel
  have unwritten : Deed.written ((play Scripts.quiet Scripts.quiet.host 9 threeCopies
      ⟨start .slot true true, []⟩).2.state.routine 1).slot ∉ deeds 9 othersAdded
        (play Scripts.quiet Scripts.quiet.host 9 threeCopies ⟨start .slot true true, []⟩).2 := by
    decide +kernel
  have padding : ((play Scripts.quiet Scripts.quiet.host 9 threeCopies
      ⟨start .slot true true, []⟩).2.state.codeOf 1).padding = 1 := by
    decide +kernel
  obtain ⟨code, again⟩ := registration_idempotent .slot true true 9 threeCopies othersAdded monitored
    0 1 _ _ split List.not_mem_nil unwritten
  refine ⟨monitored, split, List.not_mem_nil, unwritten, padding, ?_, ?_⟩
  · rw [code]
    exact padding
  · exact ((again 0 0).2.2.2 rfl).1

end Course

end LineClock

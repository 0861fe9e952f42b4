import LineClock.Proofs.Course.Readding
import LineClock.Proofs.Engine.Listing

/-!
# Following a routine to other code

A registry remembers for every routine which profilers it was added to, and which block it had then.
When the routine is added again with another block, those profilers are told. It is the routine that
is remembered and not its code slot: who was given another routine of the slot is told nothing.

Main statement: `swapped_code_followed`.
-/

namespace LineClock.Course

open Machine Engine

variable {budget : Nat} {e e' : Engine} {done : List Block} {ds before : List Deed}
  {gs : List Registration} {p q : ProfilerId} {g routine : RoutineId}

/-- A profiler follows a routine: it is enrolled for it, and watches the block with which the routine
was enrolled last, unless that is native. -/
structure Follows (done : List Block) (q : ProfilerId) (g : RoutineId) (e : Engine) : Prop where
  there : q ∈ e.profilers.keys
  enrolled : ∃ record block, (e.registry registry).padding.enrolled.get? g = some record ∧
    q ∈ record.watchers ∧ block ∈ done ∧ block.id = record.block ∧
      (block.native = false → (e.profiler q).watches block.identity = true)

/-- Adding code that shows instructions to a profiler succeeds. -/
theorem add_ok (fit : Profiler.refusal? (e.codeOf g) = none)
    (plain : (e.codeOf g).native = false) (p : ProfilerId) :
    ∃ fresh, (answer (addRoutine p g) e).1 = .ok fresh := by
  have plain' : (e.admits (e.profiler p).registry g).native = false :=
    (Padding.native_accept _ _ _).trans plain
  have fit' : Profiler.refusal? (e.admits (e.profiler p).registry g) = none :=
    Padding.refusal?_accept _ fit _
  have added := added_cases p g e
  generalize answer (addRoutine p g) e = r at added
  cases added with
  | refused error unfit =>
    rw [fit] at unfit
    cases unfit
  | failed fit admitted profilers followed failed =>
    subst admitted
    obtain ⟨added, ok⟩ := watch_ok p plain' fit' _
    rw [ok] at failed
    cases failed
  | watched fit admitted profilers followed done => exact ⟨_, rfl⟩

namespace Follows

/-- The blocks that were admitted, more of them and in other order. -/
theorem mono {done' : List Block} (h : Follows done q g e) (more : ∀ b ∈ done, b ∈ done') :
    Follows done' q g e := by
  obtain ⟨there, record, block, found, mem, admitted, rest⟩ := h
  exact ⟨there, record, block, found, mem, more _ admitted, rest⟩

/-- Whatever happens otherwise than to the records. -/
theorem same (h : Follows done q g e) (there : q ∈ e'.profilers.keys)
    (retains : (e.profiler q).Retains (e'.profiler q))
    (record : (e'.registry registry).padding.enrolled.get? g =
      (e.registry registry).padding.enrolled.get? g) : Follows done q g e' := by
  obtain ⟨-, record', block, found, mem, admitted, number, watches⟩ := h
  exact ⟨there, record', block, record.trans found, mem, admitted, number,
    fun plain => retains.watches (watches plain)⟩

/-- **A profiler that follows a routine follows it still** when any routine was added to any
profiler, and so does the profiler to which the routine was added. -/
theorem addRoutine (given : Ready registry e) (shelf : (e.scene registry).Shelf done)
    (fit : Profiler.refusal? (e.codeOf routine) = none) (p : ProfilerId)
    (there : q ∈ e.profilers.keys)
    (before : q = p ∧ g = routine ∨ Follows done q g e) :
    Follows (done ++ (e.registers p routine).map Prod.snd) q g
      (answer (Engine.addRoutine p routine) e).2 := by
  have own : (e.profiler p).registry = registry := given.sole.profilers p
  have added := added_cases p routine e
  have there' : q ∈ (answer (Engine.addRoutine p routine) e).2.profilers.keys := added.keys ▸ there
  have retains : (e.profiler q).Retains ((answer (Engine.addRoutine p routine) e).2.profiler q) :=
    added.profiler .refl .trans .watch (fun p => .addRoutine p routine) q
  have padding := padding_added given p fit
  by_cases same : g = routine
  · subst same
    obtain ⟨record, found, number, watchers⟩ := Padding.get?_enrol ((e.registry registry).padding.accept
      (e.codeOf g) e.blocks).2 g (e.codeOf g).id (e.admits registry g).id p
    rw [← padding] at found
    simp only [Padding.enrolled_accept] at watchers
    have registered : e.admits registry g ∈ (e.registers p g).map Prod.snd :=
      (Scene.Shelf.mem_registers fit p _).mpr (by rw [own]; rfl)
    refine ⟨there', record, e.admits registry g, found, ?_, List.mem_append_right _ registered,
      number.symm, fun plain => ?_⟩
    · rw [watchers]
      refine before.imp And.left fun h => ?_
      obtain ⟨old, block, found, mem, -⟩ := h.enrolled
      exact ⟨old, found, mem⟩
    · have plain' : (e.codeOf g).native = false := (Padding.native_accept _ _ _).symm.trans plain
      by_cases self : q = p
      · subst self
        obtain ⟨fresh, ok⟩ := add_ok fit plain' q
        rcases run : answer (Engine.addRoutine q g) e with ⟨o, e₁⟩
        rw [run] at added ok
        cases ok
        have watches := (added.self there).1
        rw [own] at watches
        exact watches
      · have follows := before.resolve_left fun h => self h.1
        obtain ⟨old, block, found, mem, admitted, number, watches⟩ := follows.enrolled
        by_cases moved : old.block = (e.admits registry g).id
        · -- The block is the one with which the routine was enrolled last.
          have kept := (shelf.addRoutine given p g).1
          have here : block = e.admits registry g :=
            kept.distinct _ _ (.inl (List.mem_append_left _ admitted))
              (.inl (List.mem_append_right _ registered)) (number.trans moved)
          subst here
          exact retains.watches (watches plain)
        · have told : q ∈ e.told registry g p :=
            (Padding.told_iff _ _ _ _ _ _).mpr
              ⟨old, by rw [Padding.enrolled_accept]; exact found, moved, mem, self⟩
          have watches := added.tells fit plain' (by rw [own]; exact told) there
          rw [own] at watches
          exact watches
  · have follows := before.resolve_left fun h => same h.2
    refine (follows.mono fun b mem => List.mem_append_left _ mem).same there' retains ?_
    rw [padding, Padding.get?_enrol_ne (Ne.symm same), Padding.enrolled_accept]

/-- Whoever follows a vetted routine watches the block that it runs. -/
theorem watches (h : Follows done q g e) (vetted : Vetted g (e.scene registry))
    (shelf : (e.scene registry).Shelf done) (admitted : e.codeOf g ∈ done)
    (plain : (e.codeOf g).native = false) :
    (e.profiler q).watches (e.codeOf g).identity = true := by
  obtain ⟨record, block, found, -, mem, number, watches⟩ := h.enrolled
  obtain ⟨record', found', same⟩ := vetted.enrolled
  cases found.symm.trans found'
  have here : block = e.codeOf g :=
    shelf.distinct _ _ (.inl mem) (.inl admitted) (number.trans same)
  rw [← here] at plain ⊢
  exact watches plain

end Follows

/-- **A profiler follows a routine for good.** -/
theorem Handled.follows (h : Handled done e ds gs e') (given : Ready registry e)
    (follows : Follows done q g e) : Follows (done ++ gs.map Prod.snd) q g e' := by
  induction h with
  | @idle done _ _ ready same =>
    have idle : Handled done _ [] [] _ := .idle ready same
    obtain ⟨there, retains⟩ := idle.retains given follows.there
    have padding : ∀ {p p' : Padding}, p' = p → p'.enrolled.get? g = p.enrolled.get? g :=
      fun same => by rw [same]
    exact (follows.mono fun b mem => List.mem_append_left _ mem).same there retains
      (padding same.padding)
  | @profiler done e wrap clock sources =>
    have made : Handled done e [] [] _ := .profiler wrap clock sources
    obtain ⟨there, retains⟩ := made.retains given follows.there
    exact (follows.mono fun b mem => List.mem_append_left _ mem).same there retains rfl
  | routine block | write routine block | wrapper inner p =>
    exact (follows.mono fun b mem => List.mem_append_left _ mem).same follows.there (.refl _) rfl
  | @add done e shelf p routine =>
    cases refusal : Profiler.refusal? (e.codeOf routine) with
    | some error =>
      rw [addRoutine_refused refusal]
      exact follows.mono fun b mem => List.mem_append_left _ mem
    | none => exact .addRoutine given shelf refusal p follows.there (.inr follows)
  | trans first later ih ih' =>
    rw [List.map_append, ← List.append_assoc]
    exact ih' (first.ready given) (ih given follows)

/-- A profiler to which a routine was added follows it. -/
theorem Handled.followed (h : Handled done e ds gs e') (given : Ready registry e)
    (mem : .added q g true ∈ ds) : Follows (done ++ gs.map Prod.snd) q g e' := by
  induction h with
  | idle | profiler | wrapper => cases mem
  | routine block | write routine block => rcases List.mem_cons.mp mem with here | here <;> cases here
  | @add done e shelf p routine =>
    have here := List.mem_singleton.mp mem
    obtain ⟨rfl, rfl, ⟨fresh, ok⟩, there, -⟩ := addition_eq here
    exact .addRoutine given shelf (fit_of_added ok) q there (.inl ⟨rfl, rfl⟩)
  | trans first later ih ih' =>
    rw [List.map_append, ← List.append_assoc]
    rcases List.mem_append.mp mem with mem | mem
    · exact later.follows (first.ready given) (ih given mem)
    · exact ih' (first.ready given) mem

/-! ## Who is told -/

/-- Whoever is enrolled for a routine was given it. -/
def Enlisted (ds : List Deed) (e : Engine) : Prop :=
  ∀ g record, (e.registry registry).padding.enrolled.get? g = some record →
    ∀ q ∈ record.watchers, ∃ ok, .added q g ok ∈ ds

/-- **Nobody is enrolled for a routine that it was not given.** -/
theorem Handled.enlisted (h : Handled done e ds gs e') (given : Ready registry e)
    (enlisted : Enlisted before e) : Enlisted (before ++ ds) e' := by
  have more : ∀ {before ds : List Deed} {e e' : Engine},
      (e'.registry registry).padding = (e.registry registry).padding → Enlisted before e →
      Enlisted (before ++ ds) e' := by
    intro before ds e e' padding enlisted g record found q mem
    rw [padding] at found
    obtain ⟨ok, mem⟩ := enlisted g record found q mem
    exact ⟨ok, List.mem_append_left _ mem⟩
  induction h generalizing before with
  | idle ready same => exact more same.padding enlisted
  | profiler | routine | write | wrapper => exact more rfl enlisted
  | @add _ e shelf p routine =>
    cases refusal : Profiler.refusal? (e.codeOf routine) with
    | some error =>
      rw [addRoutine_refused refusal]
      exact more rfl enlisted
    | none =>
      intro g record found q mem
      rw [padding_added given p refusal] at found
      by_cases same : routine = g
      · subst same
        obtain ⟨record', found', -, watchers⟩ := Padding.get?_enrol ((e.registry registry).padding.accept
          (e.codeOf routine) e.blocks).2 routine (e.codeOf routine).id (e.admits registry routine).id p
        cases found.symm.trans found'
        rcases (watchers q).mp mem with rfl | ⟨old, found, mem⟩
        · exact ⟨_, List.mem_append_right _ List.mem_cons_self⟩
        · rw [Padding.enrolled_accept] at found
          obtain ⟨ok, mem⟩ := enlisted routine old found q mem
          exact ⟨ok, List.mem_append_left _ mem⟩
      · rw [Padding.get?_enrol_ne same, Padding.enrolled_accept] at found
        obtain ⟨ok, mem⟩ := enlisted g record found q mem
        exact ⟨ok, List.mem_append_left _ mem⟩
  | trans first later ih ih' =>
    rw [← List.append_assoc]
    exact ih' (first.ready given) (ih given enlisted)

/-- Whoever was not given a routine stays as it is when the routine is added to another profiler. -/
theorem Enlisted.untold (h : Enlisted ds e) (given : Ready registry e) (p : ProfilerId)
    (other : q ≠ p) (never : ∀ ok, .added q g ok ∉ ds) :
    (answer (addRoutine p g) e).2.profiler q = e.profiler q := by
  have own : (e.profiler p).registry = registry := given.sole.profilers p
  refine (added_cases p g e).other other fun told => ?_
  rw [own] at told
  obtain ⟨record, found, -, mem, -⟩ := (Padding.told_iff _ _ _ _ _ _).mp told
  rw [Padding.enrolled_accept] at found
  obtain ⟨ok, mem⟩ := h g record found q mem
  exact never ok mem

/-! ## What is listed -/

/-- Handling code keeps the catalogues of the profilers. -/
theorem Handled.catalogued (h : Handled done e ds gs e') (given : Ready registry e)
    (catalogued : ∀ q, (e.profiler q).Catalogued) (q : ProfilerId) : (e'.profiler q).Catalogued := by
  induction h generalizing q with
  | idle ready same => exact (catalogued q).of_bare (same.profiler q)
  | @profiler _ e wrap clock sources =>
    rw [profiler_newProfiler]
    split
    · intro block w found
      cases found
    · exact catalogued q
  | routine | write | wrapper => exact catalogued q
  | @add _ e shelf p routine =>
    refine Added.profiler (R := fun p p' => p.Catalogued → p'.Catalogued) (added_cases p routine e)
      (fun _ h => h) (fun first later h => later (first h)) (fun files block _ h => h.watch files block)
      (fun _ h => h.addRoutine routine) q (catalogued q)
  | trans first later ih ih' => exact ih' (first.ready given) (ih given catalogued) q

/-- What a profiler watches is prepared code, which it lists at its site if no other prepared block
has the same identity. -/
theorem listed_own {q : Profiler} {told : Block → Prop} {blocks : List Block} (knows : q.Knows told)
    (prepared : ∀ c, told c → c ∈ blocks) (catalogued : q.Catalogued) :
    (∀ h, q.watches h → ∃ c ∈ blocks, c.identity = h) ∧
      ((∀ c ∈ blocks, ∀ d ∈ blocks, c.identity = d.identity → c = d) →
        ∀ c ∈ blocks, q.watches c.identity → q.ListsAt (Site.ofBlock c) c.identity) := by
  have given : ∀ h, q.watches h → ∃ w c, q.blocks.get? h = some w ∧ c ∈ blocks ∧ c.identity = h ∧
      Site.ofBlock c = w.site := by
    intro h watches
    obtain ⟨w, found⟩ := Option.isSome_iff_exists.mp watches
    obtain ⟨c, given, same, site⟩ := knows.blocks h w found
    exact ⟨w, c, found, prepared c given, same, site⟩
  refine ⟨fun h watches => ?_, fun distinct c mem watches => ?_⟩
  · obtain ⟨-, c, -, mem, same, -⟩ := given h watches
    exact ⟨c, mem, same⟩
  · obtain ⟨w, d, found, mem', same, site⟩ := given _ watches
    have here := distinct d mem' c mem same
    rw [← here, site, here]
    exact catalogued _ w found

/-- An addition that is not refused answers with a flag. -/
theorem ok_of_flag {o : Except ProfilerError Bool} {fresh : Bool}
    (flagged : Reply.ofTry .flag o = .flag fresh) : o = .ok fresh := by
  cases o with
  | error error => cases flagged
  | ok value =>
    cases flagged
    rfl

theorem eq_flag {r : Reply} {value : Bool} (h : r.flag? = some value) : r = .flag value := by
  cases r with
  | flag value' =>
    cases h
    rfl
  | _ => cases h

section

variable {fresh : Bool}

/-- Whoever was given a routine watches the block that it runs right after it was added. -/
theorem added_watches (given : Ready registry e) (shelf : (e.scene registry).Shelf done)
    (follows : Follows done q g e) (ok : answer (addRoutine p g) e = (.ok fresh, e'))
    (plain : (e'.codeOf g).native = false) :
    (e'.profiler q).watches (e'.codeOf g).identity = true := by
  have fit : Profiler.refusal? (e.codeOf g) = none := fit_of_added (congrArg Prod.fst ok)
  have after := Follows.addRoutine given shelf fit p follows.there (.inr follows)
  have vetted := Vetted.of_added given shelf fit p
  obtain ⟨kept, runs⟩ := shelf.addRoutine given p g
  rw [ok] at after vetted kept runs
  exact after.watches vetted kept (List.mem_append_right _ (runs fresh rfl)) plain

variable {told : List Registration}

/-- **An addition**, where the registrations before it and the profilers that routines were added to
are known. -/
theorem added_followed (given : Ready registry e) (shelf : (e.scene registry).Shelf (told.map Prod.snd))
    (follows : ∀ q, .added q g true ∈ ds → Follows (told.map Prod.snd) q g e) (enlisted : Enlisted ds e)
    (catalogued : ∀ q, (e.profiler q).Catalogued) (run : answer (addRoutine p g) e = (.ok fresh, e'))
    (knows : e'.Knows (told ++ e.registers p g)) :
    let blocks := told.map Prod.snd ++ (e.registers p g).map Prod.snd
    ((e'.codeOf g).native = false → ∀ q, .added q g true ∈ ds →
        (e'.profiler q).watches (e'.codeOf g).identity) ∧
      (∀ q h, (e.profiler q).watches h → (e'.profiler q).watches h) ∧
      (∀ q, q ≠ p → (∀ ok, .added q g ok ∉ ds) → e'.profiler q = e.profiler q) ∧
      e'.codeOf g ∈ blocks ∧
      (∀ q h, (e'.profiler q).watches h → ∃ c ∈ blocks, c.identity = h) ∧
      ((∀ c ∈ blocks, ∀ d ∈ blocks, c.identity = d.identity → c = d) → ∀ q, ∀ c ∈ blocks,
        (e'.profiler q).watches c.identity →
          (e'.profiler q).ListsAt (Site.ofBlock c) c.identity) := by
  have added := added_cases p g e
  have runs := (shelf.addRoutine given p g).2
  have untold := fun q (other : q ≠ p) never => enlisted.untold given p other never (g := g)
  have catalogue := fun q => added.profiler (R := fun p p' => p.Catalogued → p'.Catalogued)
    (fun _ h => h) (fun first later h => later (first h)) (fun files block _ h => h.watch files block)
    (fun _ h => h.addRoutine g) q (catalogued q)
  rw [run] at added runs untold catalogue
  have all : ∀ q c, (q, c) ∈ told ++ e.registers p g →
      c ∈ told.map Prod.snd ++ (e.registers p g).map Prod.snd := by
    intro q c mem
    rw [← List.map_append]
    exact List.mem_map.mpr ⟨_, mem, rfl⟩
  refine ⟨fun plain q mem => added_watches given shelf (follows q mem) run plain,
    fun q h known => (added.enriched q).watches h known, untold,
    List.mem_append_right _ (runs fresh rfl), fun q => ?_, fun distinct q => ?_⟩
  · exact (listed_own (knows q) (all q) (catalogue q)).1
  · exact (listed_own (knows q) (all q) (catalogue q)).2 distinct

end

/-- **Earlier profilers follow the routine that they were given.** Right after a routine was added,
every profiler to which it was added before watches the block that it now runs, unless that is
native. Everybody watches what they watched, and whoever was never given the routine stays as it is.
What profilers watch are prepared blocks, one of which is the one that the routine now runs; if these
have different identities, each profiler lists those it watches at their own sites. -/
theorem swapped_code_followed (b : Backend) (monitored wrap : Bool) (budget : Nat)
    (turns : List Turn) (h : b = .tool → monitored = true) :
    let course := play Scripts.quiet Scripts.quiet.host budget turns ⟨start b monitored wrap, []⟩
    let given := deeds budget turns ⟨start b monitored wrap, []⟩
    ∀ thread p g fresh,
      let turn : Turn := ⟨thread, .task (.add p g)⟩
      let added := turn.move.perform Scripts.quiet Scripts.quiet.host budget
        (turn.enter Scripts.quiet course.2)
      let e := course.2.state
      let e' := added.2.state
      let blocks := prepared b monitored wrap budget (turns ++ [turn])
      added.1 = .flag fresh →
        ((e'.codeOf g).native = false → ∀ q, .added q g true ∈ given →
            (e'.profiler q).watches (e'.codeOf g).identity) ∧
          (∀ q h, (e.profiler q).watches h → (e'.profiler q).watches h) ∧
          (∀ q, q ≠ p → (∀ ok, .added q g ok ∉ given) → e'.profiler q = e.profiler q) ∧
          e'.codeOf g ∈ blocks ∧
          (∀ q h, (e'.profiler q).watches h → ∃ c ∈ blocks, c.identity = h) ∧
          ((∀ c ∈ blocks, ∀ d ∈ blocks, c.identity = d.identity → c = d) → ∀ q, ∀ c ∈ blocks,
            (e'.profiler q).watches c.identity →
              (e'.profiler q).ListsAt (Site.ofBlock c) c.identity) := by
  simp only
  intro thread p g fresh flagged
  have peers := peers_start wrap monitored monitored h h
  have shelf := shelf_start b monitored wrap h
  have ready : Ready registry (start b monitored wrap) := (seen_start b monitored wrap h).ready
  have blank : ∀ q, ((start b monitored wrap).profiler q).Catalogued ∧
      Enlisted [] (start b monitored wrap) := by
    rw [start_eq b monitored wrap h]
    exact fun q => ⟨fun _ _ found => (by cases found), fun _ _ found => (by cases found)⟩
  have handled := play_handled budget turns peers shelf
  have ready' := handled.ready ready
  have shelf' := play_shelf budget turns peers shelf
  have follows := fun q => handled.followed (q := q) (g := g) ready
  have enlisted := handled.enlisted ready (blank 0).2
  have catalogued := handled.catalogued ready fun q => (blank q).1
  have knows := start_knows b monitored wrap budget (turns ++ [⟨thread, .task (.add p g)⟩]) h
  rw [play_append] at knows
  unfold prepared
  rw [registrations_append] at knows ⊢
  generalize registrations budget turns _ = told at *
  generalize deeds budget turns _ = ds at *
  generalize (play Scripts.quiet Scripts.quiet.host budget turns _).2 = st at *
  rw [List.nil_append] at shelf' enlisted
  -- On which thread the routine is added is all the same.
  obtain ⟨e, moved⟩ : ∃ e : Engine, { st.state with thread } = e := ⟨_, rfl⟩
  have profiler : ∀ q, st.state.profiler q = e.profiler q := by
    rw [← moved]
    exact fun _ => rfl
  have entered : Ready registry e := moved ▸ (setup_enter thread).ready ready'
  have shelved : (e.scene registry).Shelf (told.map Prod.snd) :=
    moved ▸ shelf'.same rfl rfl rfl
  have followed : ∀ q, .added q g true ∈ ds → Follows (told.map Prod.snd) q g e := fun q mem =>
    moved ▸ (follows q mem).same (follows q mem).there (.refl _) rfl
  have enrolled : Enlisted ds e := moved ▸ enlisted
  have given : registrations budget [⟨thread, .task (.add p g)⟩] st = e.registers p g := by
    rw [show registrations budget [⟨thread, .task (.add p g)⟩] st = _ ++ [] from rfl,
      List.append_nil, ← moved]
    rfl
  have performed : ((Move.task (.add p g)).perform Scripts.quiet Scripts.quiet.host budget
      (Turn.enter Scripts.quiet ⟨thread, .task (.add p g)⟩ st)) =
    (.ofTry .flag (answer (addRoutine p g) e).1,
      { st with state := (answer (addRoutine p g) e).2 }) := by
    rw [← moved]
    rfl
  have after : (play Scripts.quiet Scripts.quiet.host budget [⟨thread, .task (.add p g)⟩] st).2.state =
      (answer (addRoutine p g) e).2 := by
    rw [← moved]
    rfl
  rw [given, after] at knows
  rw [given, performed, List.map_append]
  rw [performed] at flagged
  simp only [profiler] at catalogued ⊢
  clear moved performed after given
  rcases run : answer (addRoutine p g) e with ⟨o, e'⟩
  rw [run] at flagged knows
  cases ok_of_flag flagged
  exact added_followed entered shelved followed enrolled catalogued run knows

/-- A routine is added to a profiler and wrapped by another one. Then it is given other code. -/
def wrappedThenSwapped : List Turn :=
  [{ move := .task (.profiler none .shared .files) },
    { move := .task (.profiler none .shared .files) },
    { move := .task (.define (oneUnit "f" "f.py")) },
    { move := .task (.define { oneUnit "g" "g.py" with instrs := [⟨2, .work 2⟩] }) },
    { move := .task (.add 0 0) }, { move := .task (.wrapper 1 0) },
    { move := .task (.replaceCode 0 1) }]

/-- The routine is added to the second profiler, and the first one follows. -/
theorem swapped_code_followed_here :
    let turn : Turn := ⟨0, .task (.add 1 0)⟩
    let course := play Scripts.quiet Scripts.quiet.host 9 wrappedThenSwapped ⟨start .tool true true, []⟩
    let added := turn.move.perform Scripts.quiet Scripts.quiet.host 9
      (turn.enter Scripts.quiet course.2)
    (Backend.tool = .tool → true = true) ∧ added.1 = .flag true ∧
      (added.2.state.codeOf 0).name = "g" ∧ (added.2.state.codeOf 0).native = false ∧
      .added 0 0 true ∈ deeds 9 wrappedThenSwapped ⟨start .tool true true, []⟩ ∧
      (added.2.state.profiler 0).watches (added.2.state.codeOf 0).identity := by
  have monitored : Backend.tool = .tool → true = true := fun _ => rfl
  refine ⟨monitored, eq_flag (by decide +kernel), by decide +kernel, by decide +kernel,
    by decide +kernel, ?_⟩
  have followed := swapped_code_followed .tool true true 9 wrappedThenSwapped monitored 0 1 0 true
    (eq_flag (by decide +kernel))
  exact followed.1 (by decide +kernel) 0 (by decide +kernel)

/-- The wrapper is added to the second profiler instead. It has the code slot of the routine that was
added to the first one, which is told nothing: it does not watch the block that is in the slot now,
although all prepared blocks have different identities. -/
theorem wrapper_not_followed :
    let turn : Turn := ⟨0, .task (.add 1 2)⟩
    let course := play Scripts.quiet Scripts.quiet.host 9 wrappedThenSwapped ⟨start .slot true true, []⟩
    let added := turn.move.perform Scripts.quiet Scripts.quiet.host 9
      (turn.enter Scripts.quiet course.2)
    let blocks := prepared .slot true true 9 (wrappedThenSwapped ++ [turn])
    added.1.flag? = some true ∧
      (course.2.state.routine 2).wrapped = some 0 ∧
      (course.2.state.routine 2).slot = (course.2.state.routine 0).slot ∧
      .added 0 0 true ∈ deeds 9 wrappedThenSwapped ⟨start .slot true true, []⟩ ∧
      (∀ c ∈ blocks, ∀ d ∈ blocks, c.identity = d.identity → c = d) ∧
      (added.2.state.codeOf 2).native = false ∧
      (added.2.state.profiler 1).watches (added.2.state.codeOf 2).identity = true ∧
      (added.2.state.profiler 0).watches (added.2.state.codeOf 2).identity = false := by
  decide +kernel

end LineClock.Course

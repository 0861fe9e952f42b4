import LineClock.Proofs.Course.Attribution
import LineClock.Proofs.Engine.Registering
import LineClock.Proofs.Engine.Sightings
import LineClock.Proofs.Profiler.Rows

/-!
# Registered code

What a course registers, and that profilers charge nothing else. A profiler tells blocks apart by
their identities, so code that was never registered is charged if it shares its identity with code
that was.

Main statement: `only_registered_charged`.
-/

namespace LineClock.Course

open Machine Engine

/-- What a move registers. -/
def Move.registers (m : Move) (e : Engine) : List Registration :=
  match m with
  | .task (.add p routine) => e.registers p routine
  | .task (.addAll p routines) => registersAll p routines e
  | .task (.wrapper p routine) => e.registers p routine
  | _ => []

section

variable (budget : Nat)

/-- What a course registers, oldest first. -/
def registrations : List Turn → Stage Engine → List Registration
  | [], _ => []
  | t :: rest, st =>
    let entered := t.enter Scripts.quiet st
    t.move.registers entered.state ++
      registrations rest (t.move.perform Scripts.quiet Scripts.quiet.host budget entered).2

end

/-- The blocks that a course registers with a profiler. -/
def registered (b : Backend) (monitored wrap : Bool) (budget : Nat) (turns : List Turn)
    (p : ProfilerId) : List Block :=
  (registrations budget turns ⟨start b monitored wrap, []⟩).filterMap fun r =>
    if r.1 = p then some r.2 else none

theorem mem_registered {b : Backend} {monitored wrap : Bool} {budget : Nat} {turns : List Turn}
    {p : ProfilerId} {block : Block} : block ∈ registered b monitored wrap budget turns p ↔
      (p, block) ∈ registrations budget turns ⟨start b monitored wrap, []⟩ := by
  unfold registered
  rw [List.mem_filterMap]
  constructor
  · rintro ⟨⟨q, c⟩, mem, found⟩
    split at found
    · rename_i same
      cases found
      cases same
      exact mem
    · cases found
  · exact fun mem => ⟨_, mem, if_pos rfl⟩

/-! ## What moves tell profilers of -/

variable {b : Backend} {budget : Nat} {told : List Registration} {e : Engine} {s : Scene}
  {st : Stage Engine}

/-- Tasks tell profilers of nothing but what they register. -/
theorem act_knows (seen : e.Seen b registry s) (task : Task) (knows : e.Knows told)
    (given : ∀ r ∈ (Move.task task).registers e, r ∈ told) : Knows told (task.act.run e).2 := by
  cases task with
  | profiler wrap clock sources =>
    intro p
    have made : ((Task.profiler wrap clock sources).act.run e).2 =
        ((newProfiler registry wrap clock sources).run e).2 := rfl
    rw [made, profiler_newProfiler]
    split
    · exact ⟨fun _ _ h => (by cases h), fun _ h => (by cases h)⟩
    · exact knows p
  | add p routine => exact knows.addRoutine p routine given
  | addAll p routines => exact knows.addRoutines p routines given
  | wrapper p routine => exact knows.wrapRoutine p routine given
  | enable p =>
    obtain ⟨e', run, seen'⟩ := run_enable seen p
    rw [run]
    refine knows.same ?_
    have before := congrArg Scene.profilers seen.scene
    exact (congrArg Scene.profilers seen'.scene).trans before.symm
  | disable p =>
    obtain ⟨e', run, seen'⟩ := run_disable seen p
    rw [run]
    refine knows.of_bare fun q => ?_
    have after := congrArg (fun s : Scene => (s.profiler q).bare) seen'.scene
    have before := congrArg (fun s : Scene => (s.profiler q).bare) seen.scene
    exact (after.trans (congrArg Profiler.bare (s.lower_profiler p q))).trans before.symm
  | write path bytes =>
    refine knows.same ?_
    rw [Task.run_write]
    split <;> rfl
  | advance ticks => exact knows.withClock (e.clock.satAdd ticks)
  | define | share | replaceCode | pad => exact knows.same rfl

/-- Stages of which nothing is said but that profilers are the same up to their tallies. -/
abbrev Bare (b : Backend) (kept : ProfilerId → Profiler) : Stage Engine → Stage Engine → Prop :=
  Abreast (fun e v => e.Seen b registry v.scene) (fun e v => e.Seen b registry v.scene)
    fun v => ∀ p, (v.scene.profiler p).bare = kept p

theorem Bare.intro (h : Peers b b st st) :
    Bare b (fun p => (st.state.profiler p).bare) st st := by
  obtain ⟨generators, v, w, seen, seen', same, -, waiting⟩ := h
  refine ⟨generators, v, w, seen, seen', same, fun p => ?_, waiting⟩
  rw [← seen.scene]
  rfl

theorem Bare.knows {kept : ProfilerId → Profiler} {st st' : Stage Engine} (h : Bare b kept st st')
    (before : e.Knows told) (same : ∀ p, (e.profiler p).bare = kept p) : Knows told st.state := by
  obtain ⟨-, v, -, seen, -, -, bare, -⟩ := h
  refine before.of_bare fun p => ?_
  have now : (st.state.profiler p).bare = (v.scene.profiler p).bare :=
    congrArg (fun s : Scene => (s.profiler p).bare) seen.scene
  exact (now.trans (bare p)).trans (same p).symm

/-- Moves tell profilers of nothing but what they register. -/
theorem perform_knows (h : Peers b b st st) (m : Move) (knows : st.state.Knows told)
    (given : ∀ r ∈ m.registers st.state, r ∈ told) :
    Knows told (m.perform Scripts.quiet Scripts.quiet.host budget st).2.state := by
  have runs := lastingRuns (View.bare_lasting fun p => (st.state.profiler p).bare)
  cases m with
  | task t =>
    obtain ⟨-, v, -, seen, -⟩ := h
    exact act_knows seen t knows given
  | call routine =>
    exact Bare.knows ((Bare.intro h).call (bareStand b) (bareStand b) runs routine).2 knows
      fun _ => rfl
  | generator routine => exact knows.same rfl
  | resume i =>
    unfold Move.perform
    simp only
    cases there : st.generators[i]? with
    | none => exact knows
    | some g =>
      simp only
      cases found : g.frame with
      | none => exact knows
      | some act =>
        exact Bare.knows ((Bare.intro h).resume (bareStand b) (bareStand b) runs there found).2
          knows fun _ => rfl

/-- **A course tells profilers of nothing but what it registers.** -/
theorem play_knows (turns : List Turn) (h : Peers b b st st) (knows : st.state.Knows told)
    (given : ∀ r ∈ registrations budget turns st, r ∈ told) :
    Knows told (play Scripts.quiet Scripts.quiet.host budget turns st).2.state := by
  induction turns generalizing st with
  | nil => exact knows
  | cons t rest ih =>
    have entered := h.enter (bareStand b) (bareStand b) growingSession t
    refine ih (entered.perform (bareStand b) (bareStand b) growingSession t.move).2 ?_
      fun r mem => given r (List.mem_append_right _ mem)
    exact perform_knows entered t.move (knows.same rfl) fun r mem =>
      given r (List.mem_append_left _ mem)

/-! ## What profilers charge -/

/-- Between moves profilers have recorded what the log tells. -/
theorem toldSession : Session (Story.lasting View.Told) View.Told where
  toRuns := lastingRuns View.told_lasting
  alter {v t} h altered := by
    cases altered with
    | setup keeps active =>
      refine ⟨fun th => ?_, fun p => ?_, fun p => ?_, fun p x mem hears => ?_⟩
      · rw [active]
        exact h.fair th
      · exact (h.tally p).trans (keeps.enriched p).tally
      · exact (keeps.enriched p).tidy (h.tidy p)
      · exact (keeps.enriched p).watches _ (h.watched p x mem hears)
    | raise p => exact h.same (h.fair.raise p) (fun _ => rfl) rfl
    | lower p => exact h.same (h.fair.lower p) (v.scene.lower_profiler p) rfl

theorem told_start (b : Backend) (monitored wrap : Bool) (h : b = .tool → monitored = true) :
    View.Told ⟨(start b monitored wrap).scene registry, []⟩ := by
  rw [start_eq b monitored wrap h]
  exact ⟨fun _ => Scene.Fair.nil, fun _ => .refl _, fun _ => .empty, fun _ _ h => by cases h⟩

/-- From its start, a course tells profilers of nothing but what it registers. -/
theorem start_knows (b : Backend) (monitored wrap : Bool) (budget : Nat) (turns : List Turn)
    (h : b = .tool → monitored = true) :
    (play Scripts.quiet Scripts.quiet.host budget turns ⟨start b monitored wrap, []⟩).2.state.Knows
      (registrations budget turns ⟨start b monitored wrap, []⟩) := by
  refine play_knows turns (peers_start wrap monitored monitored h h) ?_ fun _ mem => mem
  simp only
  rw [start_eq b monitored wrap h]
  exact fun _ => .blank _

/-- The timings of a profiler as they are told from a log. -/
def stats (p : ProfilerId) (q : Profiler) (log : List Sighting) : Snapshot :=
  ({ q with tally := Log.tally p log } : Profiler).snapshot

section

variable {p : ProfilerId} {q : Profiler} {log : List Sighting} {v : View}

/-- What a profiler does not watch could be struck out of the log. -/
theorem stats_filter (told : v.Told) {keep : Sighting → Bool}
    (kept : ∀ x ∈ v.log, (v.scene.profiler p).watches x.frame.block.identity → keep x) :
    stats p (v.scene.profiler p) (v.log.filter keep) = (v.scene.profiler p).snapshot := by
  have all : Log.tally p (v.log.filter keep) = Log.tally p v.log :=
    Log.tally_filter fun x mem hears => kept x mem (told.watched p x mem hears)
  unfold stats
  rw [all]
  exact Profiler.snapshot_congr (told.tally p) (Log.tidy_tally _) (told.tidy p)

theorem sum_min (l : List Nat) (top : Nat) :
    min (l.map fun n => min n top).sum top = min l.sum top := by
  induction l with
  | nil => rfl
  | cons n rest ih =>
    rw [List.map_cons, List.sum_cons, List.sum_cons]
    omega

/-- Where no other block has the identity of a registered one, the blocks of an identity watched at
a site are those that were registered there. -/
theorem hits_given {given : List Block} (told : v.Told)
    (knows : (v.scene.profiler p).Knows fun block => block ∈ given)
    (distinct : ∀ x ∈ v.log, ∀ g ∈ given, g.identity = x.frame.block.identity → g = x.frame.block)
    (site : Site) (line : UInt32) :
    Log.hits p (fun c => (v.scene.profiler p).standsAt site c.identity) line v.log =
      Log.hits p (fun c => given.contains c && Site.ofBlock c = site) line v.log := by
  refine List.countP_congr fun x mem => ?_
  simp only [Bool.and_eq_true, List.contains_iff_mem, decide_eq_true_eq]
  refine and_congr_right fun fires => ?_
  constructor
  · intro stands
    obtain ⟨w, found, there⟩ := Profiler.standsAt_iff.mp stands
    obtain ⟨g, mem', same, at_site⟩ := knows.blocks _ w found
    cases distinct x mem g mem' same
    exact ⟨mem', at_site.trans there⟩
  · rintro ⟨-, there⟩
    have hears : x.scene.hears p x.frame.block.identity := (Bool.and_eq_true_iff.mp fires).2
    obtain ⟨w, found⟩ := Option.isSome_iff_exists.mp (told.watched p x mem hears)
    obtain ⟨g, mem', same, at_site⟩ := knows.blocks _ w found
    cases distinct x mem g mem' same
    exact Profiler.standsAt_iff.mpr ⟨w, found, at_site.symm.trans there⟩

/-- The hits of a row are the lines that started in blocks with an identity watched at its site. -/
theorem hits_standing (tidy : q.tally.Tidy) (site : Site) (line : UInt32)
    (cells : ∀ h, (q.tally.cell h line).hits.toNat =
      min (Log.hits p (like h) line log) (2 ^ 64 - 1)) :
    (Row.hitsOn line (q.rowsAt site)).toNat =
      min (Log.hits p (fun c => q.standsAt site c.identity) line log) (2 ^ 64 - 1) := by
  obtain ⟨hashes, once, own, hits⟩ := Profiler.hitsOn_rowsAt tidy site line
  have whole := Log.hits_sum p line log once
    (fun h mem => ((own h).mp mem).1) fun h stands absent => by
      have unhit : ¬ 0 < (q.tally.cell h line).hits := fun hit => absent ((own h).mpr ⟨stands, hit⟩)
      rw [UInt64.lt_iff_toNat_lt, cells] at unhit
      have zero : (0 : UInt64).toNat = 0 := rfl
      omega
  have capped := sum_min (hashes.map fun h => Log.hits p (like h) line log) (2 ^ 64 - 1)
  rw [List.map_map] at capped
  rw [hits, whole, ← capped]
  simp only [cells]
  rfl

end

section

variable (b : Backend) (monitored wrap : Bool) (budget : Nat) (turns : List Turn)

/-- After a course the profilers have recorded what the log tells, and watch nothing but what was
registered with them. -/
theorem playLogged_told (h : b = .tool → monitored = true) :
    let course := play Scripts.quiet Scripts.quiet.host budget turns ⟨start b monitored wrap, []⟩
    ∃ v : View, (playLogged b monitored wrap budget turns).2.state.2 = v.log ∧ v.Told ∧
      (∀ p, course.2.state.profiler p = v.scene.profiler p) ∧
      ∀ p, (v.scene.profiler p).Knows fun block =>
        block ∈ registered b monitored wrap budget turns p := by
  have begin : Abreast (SeesLog b) (fun e v => e.Seen b registry v.scene) View.Told
      ⟨(start b monitored wrap, []), []⟩ ⟨start b monitored wrap, []⟩ :=
    ⟨rfl, ⟨_, []⟩, ⟨_, []⟩, ⟨seen_start b monitored wrap h, rfl⟩, seen_start b monitored wrap h, rfl,
      told_start b monitored wrap h, fun _ h => by cases h⟩
  obtain ⟨-, v, w, ⟨seen, told⟩, seen', same, holds, -⟩ :=
    (Abreast.play (logStand b) (bareStand b) toldSession turns begin).2
  have profiler : ∀ p, (play Scripts.quiet Scripts.quiet.host budget turns
      ⟨start b monitored wrap, []⟩).2.state.profiler p = v.scene.profiler p := by
    intro p
    rw [same, ← seen'.scene]
    rfl
  have knows := start_knows b monitored wrap budget turns h
  refine ⟨v, told, holds, profiler, fun p => ?_⟩
  have known := knows p
  rw [profiler] at known
  simpa only [mem_registered] using known

/-- After a course the cells of a profiler have the hits that the log tells. -/
theorem playLogged_cells (h : b = .tool → monitored = true) (p : ProfilerId) :
    let course := play Scripts.quiet Scripts.quiet.host budget turns ⟨start b monitored wrap, []⟩
    ∀ c line, ((course.2.state.profiler p).tally.cell c line).hits.toNat =
      min (Log.hits p (like c) line (playLogged b monitored wrap budget turns).2.state.2)
        (2 ^ 64 - 1) := by
  intro course c line
  obtain ⟨⟨-, v, w, ⟨-, told⟩, seen', same, closed, -⟩, -⟩ :=
    playLogged_closed b monitored wrap budget turns h
  have profiler : course.2.state.profiler p = v.scene.profiler p := by
    rw [same, ← seen'.scene]
    rfl
  rw [profiler, told]
  exact closed.hits p c line

/-- **Only registered code is charged**, as far as identities tell code apart. The timings of a
profiler are those of the log without any frame whose block does not share its identity with a block
registered with the profiler. Every site listed is that of a registered block, and the hits of each
line there are the times it started, where the profiler was on and watched it, in blocks that share
their identity with a registered block of the site. If no other block that ran shares its identity
with a registered one, then all that counts is the frames of registered blocks, and for each site
those of the blocks registered there. -/
theorem only_registered_charged (h : b = .tool → monitored = true) (p : ProfilerId) :
    let log := (playLogged b monitored wrap budget turns).2.state.2
    let course := play Scripts.quiet Scripts.quiet.host budget turns ⟨start b monitored wrap, []⟩
    let q := course.2.state.profiler p
    let given := registered b monitored wrap budget turns p
    stats p q (log.filter fun x => given.any fun g => g.identity = x.frame.block.identity) =
        q.snapshot ∧
      (∀ site c, q.standsAt site c → ∃ g ∈ given, g.identity = c ∧ Site.ofBlock g = site) ∧
      (∀ site rows, (site, rows) ∈ q.snapshot.timings.entries →
        (∃ g ∈ given, Site.ofBlock g = site) ∧ ∀ line, (Row.hitsOn line rows).toNat =
          min (Log.hits p (fun c => q.standsAt site c.identity) line log) (2 ^ 64 - 1)) ∧
      ((∀ x ∈ log, ∀ g ∈ given, g.identity = x.frame.block.identity → g = x.frame.block) →
        stats p q (log.filter fun x => given.contains x.frame.block) = q.snapshot ∧
        ∀ site rows, (site, rows) ∈ q.snapshot.timings.entries → ∀ line,
          (Row.hitsOn line rows).toNat =
            min (Log.hits p (fun c => given.contains c && Site.ofBlock c = site) line log)
              (2 ^ 64 - 1)) := by
  simp only
  obtain ⟨v, told, holds, profiler, knows⟩ := playLogged_told b monitored wrap budget turns h
  have cells := playLogged_cells b monitored wrap budget turns h p
  simp only at cells
  rw [profiler p, told] at cells
  rw [told, profiler p]
  have known := knows p
  have watched : ∀ c, (v.scene.profiler p).watches c →
      ∃ g ∈ registered b monitored wrap budget turns p, g.identity = c := by
    intro c watches
    obtain ⟨w, found⟩ := Option.isSome_iff_exists.mp watches
    obtain ⟨g, mem, same, -⟩ := known.blocks c w found
    exact ⟨g, mem, same⟩
  have row : ∀ {site rows}, (site, rows) ∈ (v.scene.profiler p).snapshot.timings.entries →
      site ∈ (v.scene.profiler p).sites.keys ∧ rows = (v.scene.profiler p).rowsAt site := by
    intro site rows mem
    obtain ⟨_, mem', same⟩ := List.mem_map.mp mem
    cases same
    exact ⟨mem', rfl⟩
  refine ⟨stats_filter holds fun x mem watches => ?_, fun site c stands => ?_,
    fun site rows mem => ?_, fun distinct => ⟨stats_filter holds fun x mem watches => ?_,
    fun site rows mem line => ?_⟩⟩
  · obtain ⟨g, mem', same⟩ := watched _ watches
    exact List.any_eq_true.mpr ⟨g, mem', decide_eq_true same⟩
  · obtain ⟨w, found, there⟩ := Profiler.standsAt_iff.mp stands
    rw [← there]
    exact known.blocks c w found
  · obtain ⟨listed, rfl⟩ := row mem
    exact ⟨known.sites site listed, fun line => hits_standing (holds.tidy p) site line (cells · line)⟩
  · obtain ⟨g, mem', same⟩ := watched _ watches
    rw [← distinct x mem g mem' same]
    exact List.contains_iff_mem.mpr mem'
  · obtain ⟨-, rfl⟩ := row mem
    rw [← hits_given holds known distinct]
    exact hits_standing (holds.tidy p) site line (cells · line)

end

/-- Code that works for one unit of time on its second line. -/
def oneUnit (name file : String) : Draft :=
  { name, file, firstLine := 1, instrs := [⟨2, .work 1⟩] }

/-- Two routines with the same bytes, the first of which is added to a profiler, and whichever of
the others are given. Both are called under the profiler, the second one twice. -/
def twinCourse (others : List RoutineId) : List Turn :=
  [{ move := .task (.profiler none .shared .files) },
    { move := .task (.define (oneUnit "f" "f.py")) },
    { move := .task (.define (oneUnit "g" "g.py")) },
    { move := .task (.addAll 0 (0 :: others)) }, { move := .task (.enable 0) }, { move := .call 0 },
    { move := .call 1 }, { move := .call 1 }, { move := .task (.disable 0) }]

/-- Registered routines with the same bytes are kept apart. -/
theorem twins_apart :
    (Backend.tool = .tool → true = true) ∧
      let course :=
        play Scripts.quiet Scripts.quiet.host 9 (twinCourse [1]) ⟨start .tool true true, []⟩
      let q := course.2.state.profiler 0
      (Row.hitsOn 2 (q.rowsAt ⟨"f.py", 1, "f"⟩)).toNat = 1 ∧
        (Row.hitsOn 2 (q.rowsAt ⟨"g.py", 1, "g"⟩)).toNat = 2 := by
  have monitored : Backend.tool = .tool → true = true := fun _ => rfl
  obtain ⟨-, -, -, apart⟩ := only_registered_charged .tool true true 9 (twinCourse [1]) monitored 0
  obtain ⟨-, hits⟩ := apart (by decide +kernel)
  refine ⟨monitored, ?_, ?_⟩
  · exact (hits ⟨"f.py", 1, "f"⟩ _ (by decide +kernel) 2).trans (by decide +kernel)
  · exact (hits ⟨"g.py", 1, "g"⟩ _ (by decide +kernel) 2).trans (by decide +kernel)

/-- An unregistered routine is charged to the registered one whose bytes it shares. -/
theorem twin_charged :
    let log := (playLogged .slot true true 9 (twinCourse [])).2.state.2
    let course := play Scripts.quiet Scripts.quiet.host 9 (twinCourse []) ⟨start .slot true true, []⟩
    let q := course.2.state.profiler 0
    let given := registered .slot true true 9 (twinCourse []) 0
    given = [(oneUnit "f" "f.py").build 0] ∧
      q.snapshot.timings.entries = [(⟨"f.py", 1, "f"⟩, [⟨2, 3, 3000⟩])] ∧
      (stats 0 q (log.filter fun x => given.contains x.frame.block)).timings.entries =
        [(⟨"f.py", 1, "f"⟩, [⟨2, 1, 1000⟩])] := by
  decide +kernel

end LineClock.Course

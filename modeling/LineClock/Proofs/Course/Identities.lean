import LineClock.Proofs.Course.Preparing
import LineClock.Proofs.Engine.Listing

/-!
# Identities of prepared code

Padding keeps apart the blocks of one body. Blocks of different bodies have the same bytes only if
one body goes on with no-ops where the other block was padded; where that does not happen, and no
different byte strings have one hash, every prepared block has an identity of its own, and a profiler
that is given one counts its lines at its site and nowhere else.

Main statement: `own_identities`.
-/

namespace LineClock.Course

open Machine Engine

variable {b : Backend} {budget : Nat} {st st' : Stage Engine} {s : Scene} {blocks : List Block}
  {c d : Block} {p : ProfilerId}

/-! ## Identities on a shelf -/

/-- No body of one block goes on with no-ops where another has padding. -/
def Unextended (blocks : List Block) : Prop := ∀ c ∈ blocks, ∀ d ∈ blocks, ¬ c.Extends d

instance (blocks : List Block) : Decidable (Unextended blocks) :=
  inferInstanceAs (Decidable (∀ c ∈ blocks, ∀ d ∈ blocks, _))

/-- Different byte strings by which blocks are known have different hashes. -/
def Collisionless (blocks : List Block) : Prop :=
  ∀ c ∈ blocks, ∀ d ∈ blocks, Fnv1a.hash c.hashed = Fnv1a.hash d.hashed → c.hashed = d.hashed

instance (blocks : List Block) : Decidable (Collisionless blocks) :=
  inferInstanceAs (Decidable (∀ c ∈ blocks, ∀ d ∈ blocks, _ → _))

/-- Prepared blocks that show their bytes have the same bytes only if one extends the other. -/
theorem bytes_eq_iff (shelf : s.Shelf blocks) (hc : c ∈ blocks) (hd : d ∈ blocks) (differ : c ≠ d)
    (plain : c.native = false) (plain' : d.native = false) :
    c.bytes = d.bytes ↔ c.Extends d ∨ d.Extends c := by
  rw [(shelf.padded c (.inl hc)).bytes_eq_iff (shelf.padded d (.inl hd))]
  refine ⟨fun same => same.resolve_left fun ⟨body, padding⟩ => ?_, .inr⟩
  exact shelf.admitted.apart c hc d hd differ plain plain' body padding

/-- Where nothing collides and nothing extends, a block that shows instructions has an identity of
its own. -/
theorem eq_of_identity (shelf : s.Shelf blocks) (unextended : Unextended blocks)
    (collisionless : Collisionless blocks) (hc : c ∈ blocks) (hd : d ∈ blocks)
    (plain : d.native = false) (shown : d.instrs ≠ []) (same : c.identity = d.identity) : c = d := by
  rw [c.identity_eq, d.identity_eq] at same
  have hashed := collisionless c hc d hd same
  refine Decidable.byContradiction fun differ => ?_
  cases native : c.native with
  | true => exact Block.hashed_ne_of_native native plain shown hashed
  | false =>
    unfold Block.hashed at hashed
    rw [native, plain, if_neg Bool.noConfusion, if_neg Bool.noConfusion] at hashed
    rcases (bytes_eq_iff shelf hc hd differ native plain).mp hashed with longer | longer
    · exact unextended c hc d hd longer
    · exact unextended d hd c hc longer

/-! ## What stays listed -/

/-- Runs record, which has no part in what is listed. -/
theorem lists_lasting (p : ProfilerId) (block : Block) :
    Lasting fun v => (v.scene.profiler p).Lists block := by
  have bare (v : View) := View.bare_lasting fun q => (v.scene.profiler q).bare
  have kept : ∀ {v w : View}, (v.scene.profiler p).Lists block →
      (∀ q, (w.scene.profiler q).bare = (v.scene.profiler q).bare) →
      (w.scene.profiler p).Lists block := by
    intro v w lists same
    have before : (v.scene.profiler p).bare.Lists block := lists
    rw [← same] at before
    exact before
  exact {
    addFrame := fun {v} h => kept h ((bare v).addFrame fun _ => rfl)
    withClock := fun {v} h clock => kept h ((bare v).withClock (fun _ => rfl) clock)
    enterScope := fun {v} h routine => kept h ((bare v).enterScope (fun _ => rfl) routine)
    leaveScope := fun {v} h routine => kept h ((bare v).leaveScope (fun _ => rfl) routine)
    enterFrame := fun {v} h frame => kept h ((bare v).enterFrame (fun _ => rfl) frame)
    startLine := fun {v} h frame => kept h ((bare v).startLine (fun _ => rfl) frame)
    depart := fun {v} h frame flow => kept h ((bare v).depart (fun _ => rfl) frame flow)
    unwind := fun {v} h frame => kept h ((bare v).unwind (fun _ => rfl) frame) }

theorem lists_session (p : ProfilerId) (block : Block) :
    Session (Story.lasting fun v => (v.scene.profiler p).Lists block)
      fun v => (v.scene.profiler p).Lists block where
  toRuns := lastingRuns (lists_lasting p block)
  alter {v t} lists altered := by
    cases altered with
    | setup keeps active => exact lists.enriched (keeps.enriched p)
    | raise q => exact lists
    | lower q =>
      rw [v.scene.lower_profiler q p]
      exact lists

/-- **What a profiler lists stays listed.** -/
theorem lists_play (turns : List Turn) (h : Peers b b st st) {block : Block}
    (lists : (st.state.profiler p).Lists block) :
    ((play Scripts.quiet Scripts.quiet.host budget turns st).2.state.profiler p).Lists block := by
  obtain ⟨generators, v, w, seen, seen', same, -, waiting⟩ := h
  have begin : Abreast (fun e v => e.Seen b registry v.scene) (fun e v => e.Seen b registry v.scene)
      (fun v => (v.scene.profiler p).Lists block) st st := by
    refine ⟨generators, v, w, seen, seen', same, ?_, waiting⟩
    rw [← seen.scene]
    exact lists
  obtain ⟨-, v', -, seen', -, -, lists', -⟩ :=
    (Abreast.play (bareStand b) (bareStand b) (lists_session p block) turns begin).2
  rw [← seen'.scene] at lists'
  exact lists'

/-! ## New code of a course -/

/-- The block of a routine that is added is an admitted one of its own, unless it was given before. -/
theorem accept_not_mem {e : Engine} {done : List Block} (shelf : (e.scene registry).Shelf done)
    {routine : RoutineId} (p : Padding) (given : Block → Prop)
    (admitted : ∀ c, given c → c ∈ done) (new : ¬ given (e.codeOf routine)) :
    ¬ given (p.accept (e.codeOf routine) e.blocks).1 := by
  intro there
  rcases Scene.Shelf.accepted p (e.codeOf routine) e.blocks with old | ⟨units, copy⟩
  · exact new (old ▸ there)
  · have number := shelf.given _ (.inl (admitted _ there))
    rw [copy] at number
    exact Nat.lt_irrefl _ number

/-- **A routine whose block a profiler was not given before is new** to the profiler, where the
admitted block has an identity of its own. -/
theorem add_fresh {e : Engine} {told : List Registration} {done : List Block}
    (seen : e.Seen b registry s) (shelf : (e.scene registry).Shelf done) (knows : e.Knows told)
    (prepared : ∀ r ∈ told, r.2 ∈ done) {routine : RoutineId}
    (plain : (e.codeOf routine).native = false) (shown : (e.codeOf routine).instrs ≠ [])
    (new : (p, e.codeOf routine) ∉ told)
    (own : ∀ c ∈ done, ∀ block, (p, block) ∈ e.registers p routine → block.native = false →
      block.instrs ≠ [] → c.identity = block.identity → c = block) :
    ∃ block e', answer (addRoutine p routine) e = (.ok true, e') ∧ e'.codeOf routine = block ∧
      (p, block) ∈ e.registers p routine ∧ block.native = false ∧ block.instrs ≠ [] ∧
      (p ∈ e.profilers.keys → (e'.profiler p).Lists block) := by
  have fit := Profiler.refusal?_eq_none plain shown
  have registers := Scene.Shelf.mem_registers (e := e) fit p
  have given : (p, ((e.registry (e.profiler p).registry).padding.accept (e.codeOf routine)
      e.blocks).1) ∈ e.registers p routine := by
    rw [registers_of_fit fit]
    exact List.mem_cons_self
  have native := (Padding.native_accept (e.registry (e.profiler p).registry).padding
    (e.codeOf routine) e.blocks).trans plain
  have instrs := Padding.instrs_accept (e.registry (e.profiler p).registry).padding shown e.blocks
  have absent := accept_not_mem shelf (e.registry (e.profiler p).registry).padding
    (fun c => (p, c) ∈ told) (fun c mem => prepared _ mem) new
  obtain ⟨e', added, lists⟩ := knows.addRoutine_fresh p plain shown fun c mem same =>
    absent (own c (prepared _ mem) _ given native instrs same ▸ mem)
  have runs := (shelf.addRoutine seen.ready p routine).2
  rw [added] at runs
  exact ⟨_, e', added, (registers _).mp (runs true rfl), given, native, instrs, lists⟩

/-- Adding a routine in a course is adding it to the engine. -/
theorem perform_add (routine : RoutineId) (st : Stage Engine) :
    (Move.task (.add p routine)).perform Scripts.quiet Scripts.quiet.host budget st =
      (.ofTry .flag (answer (addRoutine p routine) st.state).1,
        { st with state := (answer (addRoutine p routine) st.state).2 }) := rfl

/-- A routine that is added as new is listed at the end of the course. -/
theorem add_listed {told : List Registration} {done : List Block} (h : Peers b b st st)
    (shelf : (st.state.scene registry).Shelf done) (knows : st.state.Knows told)
    (prepared : ∀ r ∈ told, r.2 ∈ done) (thread : ThreadKey) {routine : RoutineId}
    (later : List Turn) (plain : (st.state.codeOf routine).native = false)
    (shown : (st.state.codeOf routine).instrs ≠ []) (new : (p, st.state.codeOf routine) ∉ told) :
    let turn : Turn := ⟨thread, .task (.add p routine)⟩
    let given := registrations budget (turn :: later) st
    let added := turn.move.perform Scripts.quiet Scripts.quiet.host budget
      (turn.enter Scripts.quiet st)
    Unextended (done ++ given.map Prod.snd) → Collisionless (done ++ given.map Prod.snd) →
      added.1 = .flag true ∧ (p, added.2.state.codeOf routine) ∈ given ∧
        (added.2.state.codeOf routine).native = false ∧
        (added.2.state.codeOf routine).instrs ≠ [] ∧
        (p ∈ st.state.profilers.keys →
          ((play Scripts.quiet Scripts.quiet.host budget (turn :: later) st).2.state.profiler p).Lists
            (added.2.state.codeOf routine)) := by
  simp only
  intro unextended collisionless
  have whole := play_shelf budget (⟨thread, .task (.add p routine)⟩ :: later) h shelf
  have entered := h.enter (bareStand b) (bareStand b) growingSession
    ⟨thread, .task (.add p routine)⟩
  have performed : Peers b b ((Move.task (.add p routine)).perform Scripts.quiet Scripts.quiet.host
      budget _).2 _ :=
    (entered.perform (bareStand b) (bareStand b) growingSession (.task (.add p routine))).2
  have given : registrations budget (⟨thread, .task (.add p routine)⟩ :: later) st =
    (Turn.enter Scripts.quiet ⟨thread, .task (.add p routine)⟩ st).state.registers p routine ++ _ := rfl
  obtain ⟨-, v, -, seen, -⟩ := entered
  rw [perform_add] at performed ⊢
  obtain ⟨block, e', added, runs, mem, native, instrs, lists⟩ := add_fresh seen
    (shelf.same rfl rfl rfl) (knows.same rfl) prepared plain shown new
    fun c old block mem native instrs same =>
      eq_of_identity whole unextended collisionless (List.mem_append_left _ old)
        (List.mem_append_right _ (List.mem_map.mpr ⟨_, given ▸ List.mem_append_left _ mem, rfl⟩))
        native instrs same
  rw [added] at performed ⊢
  simp only at performed ⊢
  rw [runs]
  refine ⟨rfl, given ▸ List.mem_append_left _ mem, native, instrs, fun made => ?_⟩
  have rest : (play Scripts.quiet Scripts.quiet.host budget
      (⟨thread, .task (.add p routine)⟩ :: later) st).2 =
    (play Scripts.quiet Scripts.quiet.host budget later ((Move.task (.add p routine)).perform
      Scripts.quiet Scripts.quiet.host budget
      (Turn.enter Scripts.quiet ⟨thread, .task (.add p routine)⟩ st)).2).2 := rfl
  rw [rest, perform_add, added]
  exact lists_play later performed (lists made)

/-- A listed block with an identity of its own is watched at its site only. -/
theorem stands_iff {q : Profiler} {given : Block → Prop} (knows : q.Knows given) (lists : q.Lists c)
    (own : ∀ g, given g → g.identity = c.identity → g = c) (site : Site) :
    q.standsAt site c.identity ↔ site = Site.ofBlock c := by
  constructor
  · intro there
    obtain ⟨w, found, here⟩ := Profiler.standsAt_iff.mp there
    obtain ⟨g, told, same, at_site⟩ := knows.blocks _ w found
    rw [← here, ← at_site, own g told same]
  · rintro rfl
    exact lists.1

/-- **Prepared code has an identity of its own**, as far as bodies do not end in no-ops. Different
prepared blocks that show their bytes have the same bytes only if the body of one goes on with no-ops
where the other was padded. Where that does not happen, and no two byte strings by which prepared
blocks are known have one hash, adding a routine whose block a profiler was not given before answers
that it is new. From then on the profiler watches the block at its site and at no other, lists the
site, and whatever it hears of the block counts in the rows of that site only. -/
theorem own_identities (b : Backend) (monitored wrap : Bool) (budget : Nat) (turns : List Turn)
    (h : b = .tool → monitored = true) :
    let playing := fun turns =>
      (play Scripts.quiet Scripts.quiet.host budget turns ⟨start b monitored wrap, []⟩).2
    let log := (playLogged b monitored wrap budget turns).2.state.2
    let blocks := prepared b monitored wrap budget turns
    (∀ c ∈ blocks, ∀ d ∈ blocks, c ≠ d → c.native = false → d.native = false →
        (c.bytes = d.bytes ↔ c.Extends d ∨ d.Extends c)) ∧
      (Unextended blocks → Collisionless blocks → ∀ before thread p routine later,
        let turn : Turn := ⟨thread, .task (.add p routine)⟩
        turns = before ++ turn :: later →
        let e := (playing before).state
        p ∈ e.profilers.keys → (e.codeOf routine).native = false → (e.codeOf routine).instrs ≠ [] →
        e.codeOf routine ∉ registered b monitored wrap budget before p →
        let added := turn.move.perform Scripts.quiet Scripts.quiet.host budget
          (turn.enter Scripts.quiet (playing before))
        let own := added.2.state.codeOf routine
        let q := (playing turns).state.profiler p
        added.1 = .flag true ∧
          (∀ site, q.standsAt site own.identity ↔ site = Site.ofBlock own) ∧
          Site.ofBlock own ∈ q.sites.keys ∧
          ∀ site rows, (site, rows) ∈ q.snapshot.timings.entries → ∀ line,
            (Row.hitsOn line rows).toNat = min (Log.hits p (fun c =>
              if c = own then site = Site.ofBlock own else q.standsAt site c.identity) line log)
                (2 ^ 64 - 1)) := by
  simp only
  have peers := peers_start wrap monitored monitored h h
  have shelf := play_shelf budget turns peers (shelf_start b monitored wrap h)
  rw [List.nil_append] at shelf
  refine ⟨fun c hc d hd differ plain plain' => bytes_eq_iff shelf hc hd differ plain plain',
    fun unextended collisionless before thread p routine later whole made plain shown new => ?_⟩
  subst whole
  have before' := play_shelf budget before peers (shelf_start b monitored wrap h)
  rw [List.nil_append] at before'
  have split : prepared b monitored wrap budget (before ++ ⟨thread, .task (.add p routine)⟩ :: later) =
      (registrations budget before ⟨start b monitored wrap, []⟩).map Prod.snd ++
        (registrations budget (⟨thread, .task (.add p routine)⟩ :: later)
          (play Scripts.quiet Scripts.quiet.host budget before
            ⟨start b monitored wrap, []⟩).2).map Prod.snd := by
    unfold prepared
    rw [registrations_append, List.map_append]
  rw [mem_registered] at new
  obtain ⟨flag, given, native, instrs, lists⟩ := add_listed (peers_play budget peers before).2 before'
    (start_knows b monitored wrap budget before h) (fun r mem => List.mem_map.mpr ⟨r, mem, rfl⟩)
    thread later plain shown new (split ▸ unextended) (split ▸ collisionless)
  have lists := lists made
  rw [← play_append] at lists
  generalize ((Move.task (.add p routine)).perform Scripts.quiet Scripts.quiet.host budget
    (Turn.enter Scripts.quiet ⟨thread, .task (.add p routine)⟩ (play Scripts.quiet
      Scripts.quiet.host budget before ⟨start b monitored wrap, []⟩).2)).2.state.codeOf routine =
    own at *
  have there : own ∈ prepared b monitored wrap budget
      (before ++ ⟨thread, .task (.add p routine)⟩ :: later) :=
    split ▸ List.mem_append_right _ (List.mem_map.mpr ⟨_, given, rfl⟩)
  have stands := stands_iff (start_knows b monitored wrap budget _ h p) lists fun g told same =>
    eq_of_identity shelf unextended collisionless (List.mem_map.mpr ⟨_, told, rfl⟩) there native
      instrs same
  obtain ⟨v, told, holds, profiler, -⟩ := playLogged_told b monitored wrap budget
    (before ++ ⟨thread, .task (.add p routine)⟩ :: later) h
  have cells := playLogged_cells b monitored wrap budget
    (before ++ ⟨thread, .task (.add p routine)⟩ :: later) h p
  simp only at cells
  refine ⟨flag, stands, lists.2, fun site rows mem line => ?_⟩
  rw [(Profiler.mem_snapshot mem).2, hits_standing (by rw [profiler]; exact holds.tidy p) site line (cells · line)]
  congr 3
  funext c
  split
  · rename_i here
    rw [here, Bool.eq_iff_iff, stands, decide_eq_true_iff]
  · rfl

/-- Three routines are defined, and the first two of them added to a profiler. -/
def twoAdded (f g h : List Instr) : List Turn :=
  [{ move := .task (.profiler none .shared .files) },
    { move := .task (.define { name := "f", file := "f.py", firstLine := 1, instrs := f }) },
    { move := .task (.define { name := "g", file := "g.py", firstLine := 1, instrs := g }) },
    { move := .task (.define { name := "h", file := "h.py", firstLine := 1, instrs := h }) },
    { move := .task (.add 0 0) }, { move := .task (.add 0 1) }]

/-- The third routine is added as well, and called under the profiler. -/
def thirdCalled : List Turn :=
  [{ move := .task (.add 0 2) }, { move := .task (.enable 0) }, { move := .call 2 },
    { move := .task (.disable 0) }]

/-- What an addition that was not refused answers. -/
def Reply.flag? : Reply → Option Bool
  | .flag value => some value
  | _ => none

/-- Three routines have the same body. The third one is new to the profiler, and its line counts in
its own rows. -/
theorem own_identities_thrice :
    (Backend.slot = .tool → true = true) ∧
      let turns := twoAdded [⟨2, .work 1⟩] [⟨2, .work 1⟩] [⟨2, .work 1⟩] ++ thirdCalled
      let course := play Scripts.quiet Scripts.quiet.host 9 turns ⟨start .slot true true, []⟩
      course.1[6]?.bind Reply.flag? = some true ∧
        (Row.hitsOn 2 ((course.2.state.profiler 0).rowsAt ⟨"h.py", 1, "h"⟩)).toNat = 1 := by
  have monitored : Backend.slot = .tool → true = true := fun _ => rfl
  obtain ⟨-, own⟩ := own_identities .slot true true 9
    (twoAdded [⟨2, .work 1⟩] [⟨2, .work 1⟩] [⟨2, .work 1⟩] ++ thirdCalled) monitored
  obtain ⟨-, -, -, rows⟩ := own (by decide +kernel) (by decide +kernel)
    (twoAdded [⟨2, .work 1⟩] [⟨2, .work 1⟩] [⟨2, .work 1⟩]) 0 0 2 thirdCalled.tail rfl
    (by decide +kernel) (by decide +kernel) (by decide +kernel) (by decide +kernel)
  refine ⟨monitored, by decide +kernel, ?_⟩
  exact (rows ⟨"h.py", 1, "h"⟩ _ (by decide +kernel) 2).trans (by decide +kernel)

/-- A body ends in a line that does nothing, and the bodies of two other routines are what comes
before it. The second of these is padded, and has the bytes of the first routine then: it is taken
for known although the profiler was not given its block, and what it does is charged to the other
routine. No hash collides. -/
theorem trailing_line_taken :
    let before := twoAdded [⟨2, .work 1⟩, ⟨3, .nop⟩] [⟨2, .work 1⟩] [⟨2, .work 1⟩]
    let turns := before ++ thirdCalled
    let playing := fun turns =>
      play Scripts.quiet Scripts.quiet.host 9 turns ⟨start .slot true true, []⟩
    let blocks := prepared .slot true true 9 turns
    Collisionless blocks ∧
      (∃ c ∈ blocks, ∃ d ∈ blocks, c ≠ d ∧ c.native = false ∧ d.native = false ∧ c.bytes = d.bytes) ∧
      (playing before).2.state.codeOf 2 ∉ registered .slot true true 9 before 0 ∧
      (playing turns).1[6]?.bind Reply.flag? = some false ∧
      ((playing turns).2.state.profiler 0).snapshot.timings.entries =
        [(⟨"f.py", 1, "f"⟩, [⟨2, 1, 1000⟩]), (⟨"g.py", 1, "g"⟩, [])] := by
  decide +kernel

end LineClock.Course

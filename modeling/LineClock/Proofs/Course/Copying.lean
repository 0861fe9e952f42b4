import LineClock.Proofs.Course.Attribution
import LineClock.Proofs.Course.Carrying
import LineClock.Proofs.Course.Preparing

/-!
# Copies in a course

A piece of a course in which a routine is called and its generators are resumed does the same with a
padded copy of the routine. What a profiler charges to two routines with the same body, when the same
was done with one after the other, is the same too. Both hold of blocks that are `Paddable`: a
generator that ends with a `yield` is resumed behind its body, and padding shows there.

Main statement: `padding_unobserved`.
-/

namespace LineClock.Course

open Machine Engine

/-! ## Pieces on a stage -/

/-- One routine instead of another. -/
def rename (r r' x : RoutineId) : RoutineId := if x = r then r' else x

/-- Play a piece of a course, in which generators are counted from those that the stage has. -/
def playPiece (budget : Nat) (name : RoutineId → RoutineId) (uses : List Turn) (st : Stage Logged) :
    List Reply × Stage Logged :=
  play logScripts logHost budget (uses.map (Turn.carry name st.generators.length)) st

/-- What there is to see. -/
def Logged.view (x : Logged) : View := ⟨x.1.scene registry, x.2⟩

/-- Who is on is read off the dispatch tables. -/
theorem active_of_dispatch {e d : Engine} (same : e.dispatch = d.dispatch) (th : ThreadKey) :
    (e.scene registry).active th = (d.scene registry).active th := by
  unfold Engine.scene Engine.dispatchAt
  simp only
  rw [same]

/-- A stage of which `S` is true, and which is like itself. -/
abbrev Settled (b : Backend) (S : View → Prop) (st : Stage Logged) : Prop :=
  Abreast (SeesLog b) (SeesLog b) S st st

section

variable {b : Backend} {x : Logged} {v : View} {S : View → Prop} {st : Stage Logged} {γ : Type}
  {T : Story γ}

theorem SeesLog.eq (h : SeesLog b x v) : v = Logged.view x := by
  obtain ⟨seen, told⟩ := h
  unfold Logged.view
  rw [seen.scene, told]

theorem Settled.sees (h : Settled b S st) : SeesLog b st.state (Logged.view st.state) := by
  obtain ⟨-, v, -, sees, -⟩ := h
  rw [← sees.eq]
  exact sees

theorem Settled.holds (h : Settled b S st) : S (Logged.view st.state) := by
  obtain ⟨-, v, -, sees, -, -, holds, -⟩ := h
  rw [← sees.eq]
  exact holds

theorem Settled.play (h : Settled b S st) (session : Session T S) (budget : Nat) (turns : List Turn) :
    Settled b S (Course.play logScripts logHost budget turns st).2 :=
  (Abreast.play (logStand b) (logStand b) session turns h).2

theorem Settled.piece (h : Settled b S st) (session : Session T S) (budget : Nat)
    (name : RoutineId → RoutineId) (uses : List Turn) :
    Settled b S (playPiece budget name uses st).2 :=
  h.play session budget _

theorem Settled.enter (h : Settled b S st) (session : Session T S) (t : Turn) :
    Settled b S (t.enter logScripts st) :=
  Abreast.enter (logStand b) (logStand b) session h t

/-- A course with a log reaches a settled stage. -/
theorem playLogged_settled (monitored wrap : Bool) (budget : Nat) (turns : List Turn)
    (h : b = .tool → monitored = true) (session : Session T S)
    (begins : S ⟨(start b monitored wrap).scene registry, []⟩) :
    Settled b S (playLogged b monitored wrap budget turns).2 := by
  have seen := seen_start b monitored wrap h
  have begin : Settled b S ⟨(start b monitored wrap, []), []⟩ :=
    ⟨rfl, ⟨_, []⟩, ⟨_, []⟩, ⟨seen, rfl⟩, ⟨seen, rfl⟩, rfl, begins, fun _ h => by cases h⟩
  exact begin.play session budget turns

/-- The code of a stage that a course reached is padded on its last line. -/
theorem playLogged_padded (monitored wrap : Bool) (budget : Nat) (turns : List Turn)
    (h : b = .tool → monitored = true) (r : RoutineId)
    (shown : ((playLogged b monitored wrap budget turns).2.state.1.codeOf r).body ≠ []) :
    ((playLogged b monitored wrap budget turns).2.state.1.codeOf r).Padded := by
  have peers := peers_start wrap monitored monitored h h
  have shelf := play_shelf budget turns peers (shelf_start b monitored wrap h)
  obtain ⟨⟨-, v, w, ⟨seen, -⟩, seen', same, -⟩, -⟩ :=
    playLogged_closed b monitored wrap budget turns h
  have scenes : (play Scripts.quiet Scripts.quiet.host budget turns
      ⟨start b monitored wrap, []⟩).2.state.scene registry =
        (playLogged b monitored wrap budget turns).2.state.1.scene registry := by
    rw [seen.scene, seen'.scene, same]
  rw [scenes] at shelf
  generalize (playLogged b monitored wrap budget turns).2.state.1 = e at shelf shown ⊢
  have fit : Profiler.refusal? (e.codeOf r) = none := by
    unfold Profiler.refusal?
    rw [if_neg]
    rintro ⟨native, empty⟩
    unfold Block.bytes at empty
    rw [if_neg native, List.flatMap_eq_nil_iff] at empty
    have none : (e.codeOf r).instrs = [] :=
      List.eq_nil_iff_forall_not_mem.mpr fun i mem => List.cons_ne_nil _ _ (empty i mem)
    refine shown ?_
    unfold Block.body
    rw [none, List.take_nil]
  exact shelf.padded _ (Scene.holds_codeOf fit)

end

/-! ## Starting points -/

/-- A scene is not ahead of itself. -/
theorem ahead_self {base : Scene} (fair : base.AllFair) : base.Ahead 0 base base := by
  refine ⟨rfl, rfl, rfl, rfl, rfl, rfl, fair, ?_⟩
  have bound := base.clock.toNat_lt
  omega

/-- Stages on which nothing was made yet are linked if their views belong together. -/
theorem Linked.begin {b : Backend} {L : Block → Block → Prop} {C : RoutineId → RoutineId → Prop}
    {V : View → View → Prop} {st st' : Stage Logged}
    (sees : SeesLog b st.state (Logged.view st.state))
    (sees' : SeesLog b st'.state (Logged.view st'.state))
    (views : V (Logged.view st.state) (Logged.view st'.state)) :
    Linked L C V (SeesLog b) st.generators.length st'.generators.length st st' := by
  refine ⟨⟨_, _, sees, sees', views⟩, ⟨0, rfl, rfl⟩, fun i => ?_⟩
  rw [List.getElem?_eq_none (Nat.le_add_right _ i), List.getElem?_eq_none (Nat.le_add_right _ i)]
  exact .none

/-- What linked stages show belongs together. -/
theorem Linked.seen {b : Backend} {L : Block → Block → Prop} {C : RoutineId → RoutineId → Prop}
    {V : View → View → Prop} {made made' : Nat} {st st' : Stage Logged}
    (h : Linked L C V (SeesLog b) made made' st st') :
    V (Logged.view st.state) (Logged.view st'.state) := by
  obtain ⟨v, w, sees, sees', views⟩ := h.views
  rw [← sees.eq, ← sees'.eq]
  exact views

theorem rename_instead (r r' x : RoutineId) : Instead r r' x (rename r r' x) := by
  unfold rename
  split
  · rename_i here
    exact .inr ⟨here, rfl⟩
  · exact .inl rfl

/-- Answers do not tell blocks of one name apart. -/
theorem Reply.Echoes.eq {F G : Block} {made : Nat} (name : G.name = F.name) {x y : Reply}
    (h : Reply.Echoes (Instead F G) made made x y) : y = x := by
  have error : ∀ {e e' : ExecError}, e.Echoes (Instead F G) e' → e' = e := by
    intro e e' echoes
    have names : ∀ {b c}, Instead F G b c → c.name = b.name := by
      rintro b c (rfl | ⟨rfl, rfl⟩)
      · rfl
      · exact name
    cases echoes with
    | same => rfl
    | raised pair line => rw [names pair]
    | badCallee pair index => rw [names pair]
  cases h with
  | same => rfl
  | generator => rfl
  | ran echoes => rw [error echoes]
  | left echoes => rw [error echoes]

/-! ## What is heard -/

section

variable {b : Backend} {st : Stage Logged} {uses : List Turn} {r r' : RoutineId} {units : Nat}
  {copy : BlockId} {small large : Nat}

/-- A piece is played with a routine and with its padded copy. -/
theorem heard_piece (settled : Settled b Closed st) (native : (st.state.1.codeOf r).native = false)
    (paddable : (st.state.1.codeOf r).Paddable) (padded : (st.state.1.codeOf r).Padded)
    (code : st.state.1.codeOf r' = (st.state.1.codeOf r).withPadding units copy)
    (scope : (st.state.1.routine r').scope = (st.state.1.routine r).scope)
    (calls : ∀ t ∈ uses, t.move.Uses fun _ => True) (enough : small + units ≤ large)
    (whole : ∀ x ∈ (playPiece small id uses st).1, x.cut = false) :
    (playPiece large (rename r r') uses st).1 = (playPiece small id uses st).1 ∧
      View.Heard (st.state.1.scene registry) (Logged.view (playPiece small id uses st).2.state)
        (Logged.view (playPiece large (rename r r') uses st).2.state) := by
  have copies := paddable.copies native padded units copy
  have code₀ : (st.state.1.scene registry).codeOf r = st.state.1.codeOf r := rfl
  have carries := View.heard code₀ code copies ⟨rfl, rfl, rfl⟩ scope
  have length : ((st.state.1.codeOf r).withPadding units copy).padding = units := by
    unfold Block.withPadding
    simp [native]
  rw [length] at carries
  have heard : View.Heard (st.state.1.scene registry) (Logged.view st.state) (Logged.view st.state) :=
    ⟨ahead_self settled.holds.fair, rfl⟩
  obtain ⟨replies, linked⟩ := Linked.play (logStand b) carries enough
    (fun x _ => rename_instead r r' x) uses (.begin settled.sees settled.sees heard) calls whole
  refine ⟨replies fun x y echoes => ?_, linked.seen⟩
  have name : ((st.state.1.codeOf r).withPadding units copy).name = (st.state.1.codeOf r).name := rfl
  exact echoes.eq name

/-! ## What is charged -/

/-- Two routines with the same body. Whatever they call besides themselves does not run their code,
and has another identity. -/
structure Twins (e : Engine) (r r' : RoutineId) (inner : RoutineId → Prop) : Prop where
  native : (e.codeOf r).native = false
  native' : (e.codeOf r').native = false
  paddable : (e.codeOf r).Paddable
  body : (e.codeOf r').body = (e.codeOf r).body
  generator : (e.codeOf r').generator = (e.codeOf r).generator
  scope : (e.routine r').scope = (e.routine r).scope
  differ : (e.codeOf r).identity ≠ (e.codeOf r').identity
  enclosed : (e.scene registry).Enclosed r r' inner

theorem Twins.copies {e : Engine} {inner : RoutineId → Prop} (twins : Twins e r r' inner)
    (padded : ∀ x, (e.codeOf x).body ≠ [] → (e.codeOf x).Padded) :
    (e.codeOf r).Copies (e.codeOf r') :=
  ⟨twins.paddable, twins.body, twins.generator, padded r twins.paddable.shown,
    padded r' (twins.body ▸ twins.paddable.shown)⟩

theorem rename_inner {inner : RoutineId → Prop} {x : RoutineId} (h : x = r ∨ inner x) :
    Inner inner r r' x (rename r r' x) := by
  unfold rename
  split
  · rename_i here
    exact .inl ⟨here, rfl⟩
  · rename_i other
    exact .inr ⟨rfl, h.resolve_left other⟩

variable {e : Engine} {inner : RoutineId → Prop} {p : ProfilerId} {st' : Stage Logged}

/-- A piece is played with a routine on one stage and with its twin on another. -/
theorem charged_piece (settled : Settled b Closed st) (settled' : Settled b Closed st')
    (twins : Twins e r r' inner) (copies : (e.codeOf r).Copies (e.codeOf r')) {lead : Nat}
    {kept kept' : UInt32 → Cell}
    (charged : View.Charged (e.scene registry) lead p (e.codeOf r).identity (e.codeOf r').identity
      kept kept' (Logged.view st.state) (Logged.view st'.state))
    (calls : ∀ t ∈ uses, t.move.Uses fun x => x = r ∨ inner x)
    (enough : small + (e.codeOf r').padding ≤ large)
    (whole : ∀ x ∈ (playPiece small id uses st).1, x.cut = false) :
    View.Charged (e.scene registry) lead p (e.codeOf r).identity (e.codeOf r').identity kept kept'
      (Logged.view (playPiece small id uses st).2.state)
      (Logged.view (playPiece large (rename r r') uses st').2.state) :=
  have same : ((e.scene registry).codeOf r).Copies ((e.scene registry).codeOf r') := copies
  have carries := View.charged same twins.differ twins.enclosed twins.scope lead p kept kept'
  (Linked.play (logStand b) carries enough (fun _ => rename_inner) uses
    (.begin settled.sees settled'.sees charged) calls whole).2.seen

/-- The thread on which a piece begins is that of its first turn. -/
theorem playPiece_enter (budget : Nat) (name : RoutineId → RoutineId) (t : Turn) (uses : List Turn)
    (here : Turn) (st : Stage Logged) :
    playPiece budget name (t :: uses) (here.enter logScripts st) =
      playPiece budget name (t :: uses) st :=
  rfl

/-- A piece is played with a routine and then with its twin: what is charged to both is the same, if
it was before. -/
theorem twins_charged (settled : Settled b Closed st) (twins : Twins st.state.1 r r' inner)
    (padded : ∀ x, (st.state.1.codeOf x).body ≠ [] → (st.state.1.codeOf x).Padded)
    (watches : (st.state.1.profiler p).watches (st.state.1.codeOf r').identity =
      (st.state.1.profiler p).watches (st.state.1.codeOf r).identity)
    (before : ∀ line, (st.state.1.profiler p).tally.cell (st.state.1.codeOf r').identity line =
      (st.state.1.profiler p).tally.cell (st.state.1.codeOf r).identity line)
    (calls : ∀ t ∈ uses, t.move.Uses fun x => x = r ∨ inner x)
    (enough : small + (st.state.1.codeOf r').padding ≤ large) :
    let first := playPiece small id uses st
    let second := playPiece large (rename r r') uses first.2
    (∀ x ∈ first.1, x.cut = false) →
    (∀ th, (first.2.state.1.scene registry).active th = (st.state.1.scene registry).active th) →
    second.2.state.1.clock.toNat < 2 ^ 64 - 1 →
      (second.2.state.1.profiler p).bare = (st.state.1.profiler p).bare ∧
      ∀ line, (second.2.state.1.profiler p).tally.cell (st.state.1.codeOf r').identity line =
        (second.2.state.1.profiler p).tally.cell (st.state.1.codeOf r).identity line := by
  intro first second whole active clock
  have copies := twins.copies padded
  have closed := settled.holds
  have nothing : ∀ {v w : View} {R : Mark → Mark → Prop}, Closed v → Closed w →
      ∀ th, Option.Rel R (v.scene.mark p th (st.state.1.codeOf r).identity)
        (w.scene.mark p th (st.state.1.codeOf r').identity) := by
    intro v w R closed closed' th
    rw [closed.nothing, closed'.nothing]
    exact .none
  cases uses with
  | nil => exact ⟨rfl, before⟩
  | cons t rest =>
    -- Were the twin called instead of the routine, its code would not have run on the other side.
    have aside : View.Charged (st.state.1.scene registry) 0 p (st.state.1.codeOf r).identity
        (st.state.1.codeOf r').identity _ _ _ _ :=
      charged_piece settled settled twins copies
        ⟨ahead_self closed.fair, Nat.le_refl _, rfl, rfl,
          fun _ => ⟨rfl, watches, before, nothing closed closed⟩, fun _ => rfl, fun _ => rfl⟩
        calls enough whole
    -- The second time begins later, but on the same thread.
    let here : Turn := ⟨st.state.1.thread, .resume 0⟩
    have settled' : Settled b Closed (here.enter logScripts first.2) :=
      (settled.piece closedSession small id _).enter closedSession here
    have closed' := settled'.holds
    have ahead : (st.state.1.scene registry).Ahead
        (first.2.state.1.clock.toNat - st.state.1.clock.toNat) (st.state.1.scene registry)
        (Logged.view (here.enter logScripts first.2).state).scene := by
      refine ⟨rfl, aside.ahead.code, rfl, aside.ahead.routines, rfl, funext active, closed.fair, ?_⟩
      have bound := first.2.state.1.clock.toNat_lt
      have later : st.state.1.clock.toNat ≤ first.2.state.1.clock.toNat := aside.later
      have same : (Logged.view (here.enter logScripts first.2).state).scene.clock =
        first.2.state.1.clock := rfl
      have same' : (st.state.1.scene registry).clock = st.state.1.clock := rfl
      rw [same, same']
      omega
    have timepiece := congrArg Profiler.clock aside.bare
    have watched := congrArg (Profiler.watches · (st.state.1.codeOf r').identity) aside.bare
    have after := charged_piece settled settled' twins copies
      ⟨ahead, Nat.le_refl _, rfl, aside.bare, fun _ =>
          ⟨timepiece, watched.trans watches, fun line => (aside.kept line).trans (before line),
            nothing closed closed'⟩, fun _ => rfl, fun _ => rfl⟩
      calls enough whole
    rw [playPiece_enter] at after
    refine ⟨after.bare', fun line => ?_⟩
    exact ((after.matched (.inr clock)).cell line).trans (after.kept' line).symm

/-- Where nothing was announced nothing was charged. -/
theorem Settled.blank (h : Settled b View.Told st) (silent : st.state.2 = []) (block : BlockHash)
    (line : UInt32) : (st.state.1.profiler p).tally.cell block line = {} := by
  have tally := h.holds.tally p
  unfold Logged.view at tally
  rw [silent] at tally
  exact tally.cell block line

end

/-- **Padding is not observed** of blocks that are `Paddable`. What is announced while a routine is
called and its generators are resumed, how far the clock goes on and what comes of it is the same with
a padded copy, under the same name. And two routines with the same body that are used in the same way
one after the other have the same rows, if each is alone at its site. -/
theorem padding_unobserved (b : Backend) (monitored wrap : Bool) (budget : Nat)
    (before uses : List Turn) (h : b = .tool → monitored = true) {stage : Stage Logged}
    (reached : (playLogged b monitored wrap budget before).2 = stage) :
    let e := stage.state.1
    (∀ r r' units copy small large, (e.codeOf r).native = false → (e.codeOf r).Paddable →
      e.codeOf r' = (e.codeOf r).withPadding units copy →
      (e.routine r').scope = (e.routine r).scope → (∀ t ∈ uses, t.move.Uses fun _ => True) →
      small + units ≤ large →
      let left := playPiece small id uses stage
      let right := playPiece large (rename r r') uses stage
      (∀ x ∈ left.1, x.cut = false) →
        right.1 = left.1 ∧ right.2.state.1.clock = left.2.state.1.clock ∧
          right.2.state.2.map Sighting.notice = left.2.state.2.map Sighting.notice) ∧
      ∀ r r' inner p small large, Twins e r r' inner →
        (e.profiler p).StandsAlone (.ofBlock (e.codeOf r)) (e.codeOf r).identity →
        (e.profiler p).StandsAlone (.ofBlock (e.codeOf r')) (e.codeOf r').identity →
        (∀ line, (e.profiler p).tally.cell (e.codeOf r').identity line =
          (e.profiler p).tally.cell (e.codeOf r).identity line) →
        (∀ t ∈ uses, t.move.Uses fun x => x = r ∨ inner x) →
        small + (e.codeOf r').padding ≤ large →
        let first := playPiece small id uses stage
        let second := playPiece large (rename r r') uses first.2
        (∀ x ∈ first.1, x.cut = false) →
        (∀ th, (first.2.state.1.scene registry).active th = (e.scene registry).active th) →
        second.2.state.1.clock.toNat < 2 ^ 64 - 1 →
          (second.2.state.1.profiler p).rowsAt (.ofBlock (e.codeOf r')) =
            (second.2.state.1.profiler p).rowsAt (.ofBlock (e.codeOf r)) := by
  intro e
  have settled : Settled b Closed stage := by
    rw [← reached]
    exact playLogged_settled monitored wrap budget before h closedSession
      (closed_start b monitored wrap h)
  have told : Settled b View.Told stage := by
    rw [← reached]
    exact playLogged_settled monitored wrap budget before h toldSession
      (told_start b monitored wrap h)
  have padded := playLogged_padded monitored wrap budget before h
  rw [reached] at padded
  constructor
  · intro r r' units copy small large native paddable code scope calls enough left right whole
    obtain ⟨replies, heard⟩ := heard_piece settled native paddable (padded r paddable.shown) code
      scope calls enough whole
    exact ⟨replies, heard.1.clock_eq, heard.2⟩
  · intro r r' inner p small large twins alone alone' same calls enough first second whole active clock
    have watched : ∀ {site block}, (e.profiler p).StandsAlone site block →
        (e.profiler p).watches block = true := by
      intro site block alone
      obtain ⟨w, found, -⟩ := Profiler.standsAt_iff.mp ((alone block).mpr rfl)
      exact Option.isSome_iff_exists.mpr ⟨w, found⟩
    obtain ⟨bare, cells⟩ := twins_charged settled twins padded
      ((watched alone').trans (watched alone).symm) same calls enough whole active clock
    have stands : ∀ site h, (second.2.state.1.profiler p).standsAt site h =
        (e.profiler p).standsAt site h := by
      intro site h
      have same := congrArg (Profiler.standsAt · site h) bare
      exact same
    have told' := (told.piece toldSession small id uses).piece toldSession large (rename r r') uses
    refine Profiler.rowsAt_eq_of_cells (told'.holds.tidy p) (fun h => ?_) (fun h => ?_) cells
    · exact (Iff.of_eq (congrArg (· = true) (stands _ h))).trans (alone h)
    · exact (Iff.of_eq (congrArg (· = true) (stands _ h))).trans (alone' h)

/-- A body of two lines, of which a generator yields on the first. -/
def yieldFirst : List Instr := [⟨2, .yield⟩, ⟨3, .work 4⟩]

/-- A body that is left by yielding on its last line. -/
def yieldLast : List Instr := [⟨2, .yield⟩]

/-- Two generators with the same body, of which the second is padded when it is added, and a copy of
the first one with three units of padding. -/
def twinsCourse (instrs : List Instr) : List Turn :=
  [{ move := .task (.profiler none .shared .files) },
    { move := .task (.define
      { name := "f", file := "f.py", firstLine := 1, instrs, generator := true }) },
    { move := .task (.define
      { name := "g", file := "g.py", firstLine := 1, instrs, generator := true }) },
    { move := .task (.share 0) }, { move := .task (.pad 2 3) }, { move := .task (.add 0 0) },
    { move := .task (.add 0 1) }, { move := .task (.enable 0) }]

/-- A generator is made and resumed until it is finished, and its routine is called. -/
def resumedAndCalled : List Turn :=
  [{ move := .generator 0 }, { move := .resume 0 }, { move := .resume 0 }, { move := .resume 0 },
    { move := .call 0 }]

/-- The stage of the two generators. -/
def twinsStage (instrs : List Instr) : Stage Logged :=
  (playLogged .tool true true 9 (twinsCourse instrs)).2

theorem twinsStage_twins : Twins (twinsStage yieldFirst).state.1 0 1 fun _ => False := by
  have none : ((twinsStage yieldFirst).state.1.codeOf 0).callees = [] ∧
      ((twinsStage yieldFirst).state.1.codeOf 1).callees = [] := by
    decide +kernel
  refine ⟨by decide +kernel, by decide +kernel, by decide +kernel, by decide +kernel,
    by decide +kernel, by decide +kernel, by decide +kernel, fun x mem => ?_, ?_, fun _ h => h.elim,
    fun _ h => h.elim⟩
  · rw [Engine.scene_codeOf, none.1] at mem
    cases mem
  · rw [Engine.scene_codeOf, Engine.scene_codeOf, none.1, none.2]
    rfl

theorem padding_unobserved_yieldFirst :
    (Backend.tool = .tool → true = true) ∧
      let stage := twinsStage yieldFirst
      let left := playPiece 9 id resumedAndCalled stage
      let copied := playPiece 12 (rename 0 2) resumedAndCalled stage
      let again := playPiece 10 (rename 0 1) resumedAndCalled left.2
      [0, 1, 2].map (fun r => (stage.state.1.codeOf r).padding) = [0, 1, 3] ∧
        left.2.state.2.length = 12 ∧ copied.1 = left.1 ∧
        copied.2.state.2.map Sighting.notice = left.2.state.2.map Sighting.notice ∧
        (again.2.state.1.profiler 0).rowsAt ⟨"f.py", 1, "f"⟩ = [⟨2, 2, 0⟩, ⟨3, 2, 8000⟩] ∧
        (again.2.state.1.profiler 0).rowsAt (.ofBlock (stage.state.1.codeOf 1)) =
          (again.2.state.1.profiler 0).rowsAt (.ofBlock (stage.state.1.codeOf 0)) := by
  have monitored : Backend.tool = .tool → true = true := fun _ => rfl
  have reached : (playLogged .tool true true 9 (twinsCourse yieldFirst)).2 = twinsStage yieldFirst := rfl
  obtain ⟨copied, again⟩ :=
    padding_unobserved .tool true true 9 (twinsCourse yieldFirst) resumedAndCalled monitored reached
  have calls : ∀ ok : RoutineId → Prop, ok 0 → ∀ t ∈ resumedAndCalled, t.move.Uses ok := by
    intro ok zero t mem
    unfold resumedAndCalled at mem
    simp only [List.mem_cons, List.not_mem_nil, or_false] at mem
    rcases mem with rfl | rfl | rfl | rfl | rfl
    · exact zero
    · trivial
    · trivial
    · trivial
    · exact zero
  have whole : ∀ x ∈ (playPiece 9 id resumedAndCalled (twinsStage yieldFirst)).1, x.cut = false := by
    decide +kernel
  have dispatch : (playPiece 9 id resumedAndCalled (twinsStage yieldFirst)).2.state.1.dispatch =
      (twinsStage yieldFirst).state.1.dispatch := by decide +kernel
  have native : ((twinsStage yieldFirst).state.1.codeOf 0).native = false := by decide +kernel
  have paddable : ((twinsStage yieldFirst).state.1.codeOf 0).Paddable := by decide +kernel
  have code : (twinsStage yieldFirst).state.1.codeOf 2 =
      ((twinsStage yieldFirst).state.1.codeOf 0).withPadding 3 2 := by decide +kernel
  have scope : ((twinsStage yieldFirst).state.1.routine 2).scope =
      ((twinsStage yieldFirst).state.1.routine 0).scope := by decide +kernel
  obtain ⟨replies, -, heard⟩ := copied 0 2 3 2 9 12 native paddable code scope (calls _ trivial)
    (by decide) whole
  have first : ((twinsStage yieldFirst).state.1.profiler 0).StandsAlone
      (.ofBlock ((twinsStage yieldFirst).state.1.codeOf 0))
      ((twinsStage yieldFirst).state.1.codeOf 0).identity :=
    Profiler.standsAlone_of_entries (by decide +kernel) (by decide +kernel) (by decide +kernel)
  have second : ((twinsStage yieldFirst).state.1.profiler 0).StandsAlone
      (.ofBlock ((twinsStage yieldFirst).state.1.codeOf 1))
      ((twinsStage yieldFirst).state.1.codeOf 1).identity :=
    Profiler.standsAlone_of_entries (by decide +kernel) (by decide +kernel) (by decide +kernel)
  have told : Settled .tool View.Told (twinsStage yieldFirst) :=
    playLogged_settled true true 9 _ monitored toldSession (told_start .tool true true monitored)
  have silent : (twinsStage yieldFirst).state.2 = [] := by decide +kernel
  have rows := again 0 1 (fun _ => False) 0 9 10 twinsStage_twins first second
    (fun line => (told.blank silent _ line).trans (told.blank silent _ line).symm)
    (calls _ (.inl rfl)) (by decide +kernel) whole (active_of_dispatch dispatch) (by decide +kernel)
  refine ⟨monitored, by decide +kernel, by decide +kernel, replies, heard, by decide +kernel, rows⟩

/-- A generator that ends with a `yield` is resumed behind it, and where there is padding its line
starts once more. So the copy announces more, and two such generators differ in their rows. -/
theorem padding_observed_yieldLast :
    let stage := twinsStage yieldLast
    let left := playPiece 9 id resumedAndCalled stage
    let copied := playPiece 12 (rename 0 2) resumedAndCalled stage
    let again := playPiece 10 (rename 0 1) resumedAndCalled left.2
    (stage.state.1.codeOf 0).native = false ∧ (stage.state.1.codeOf 0).body = yieldLast ∧
      stage.state.1.codeOf 2 = (stage.state.1.codeOf 0).withPadding 3 2 ∧
      (left.1.all fun x => !x.cut) ∧ left.2.state.2.length = 10 ∧ copied.2.state.2.length = 12 ∧
      (again.2.state.1.profiler 0).rowsAt ⟨"f.py", 1, "f"⟩ = [⟨2, 2, 0⟩] ∧
      (again.2.state.1.profiler 0).rowsAt ⟨"g.py", 1, "g"⟩ = [⟨2, 4, 0⟩] := by
  decide +kernel

end LineClock.Course

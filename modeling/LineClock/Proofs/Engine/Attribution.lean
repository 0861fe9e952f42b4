import LineClock.Proofs.Engine.Accord
import LineClock.Proofs.Engine.Ledger

/-!
# Books during a run

The story of a run in which everything that profilers hear of is charged to the line that it belongs
to. A call is made at some `Depth`: below it there are frames that run and wait for it, and each of
them may have a running line, with whoever was on when it started. The call leaves all of this as it
was, and nothing of its own.

Main statement: `Depth.story_steady`.
-/

namespace LineClock

open Machine

/-- A frame that waits for the calls it made. -/
structure Opened where
  id : FrameId
  block : BlockHash
  /-- Who is on while it runs. -/
  on : List (ProfilerId × Nat)

/-- In what surroundings a call is made. -/
structure Depth where
  thread : ThreadKey
  on : List (ProfilerId × Nat)
  routines : Assoc RoutineId Routine
  /-- What was announced before. -/
  log : List Sighting
  /-- How many frames there were before. -/
  frames : Nat
  /-- The frames that wait for the call. -/
  outer : List Opened := []
  /-- The lines that run meanwhile. -/
  owed : ProfilerId → BlockHash → Option Mark := fun _ _ => none

/-- Whether a frame of a block was entered on a thread and not left since. -/
def Log.Opens (thread : ThreadKey) (id : FrameId) (block : BlockHash) (log : List Sighting) :
    Prop :=
  ∃ x, previous? id log = some x ∧ x.event ≠ .ret ∧ x.frame.block.identity = block ∧
    x.thread = thread

namespace Depth

/-- What holds at any time during a call. -/
structure Along (c : Depth) (v : View) : Prop where
  thread : v.scene.thread = c.thread
  here : v.scene.here = c.on
  fair : v.scene.AllFair
  routines : v.scene.routines = c.routines
  frames : c.frames ≤ v.scene.frames
  recent : ∃ recent, v.log = recent ++ c.log ∧ ∀ x ∈ recent, ∀ o ∈ c.outer, x.frame.id ≠ o.id
  balanced : v.Balanced
  timed : ∀ h, Log.Alone (like h) v.log → v.Timed h
  elsewhere : ∀ p th, th ≠ c.thread → ∀ h, v.scene.mark p th h = none
  opened : ∀ o ∈ c.outer, o.id < c.frames ∧ Log.Opens c.thread o.id o.block c.log
  debts : ∀ p h m, c.owed p h = some m → ∃ o ∈ c.outer, o.block = h

/-- Whether a frame that waits may have left a line running for a profiler. -/
def Below (c : Depth) (p : ProfilerId) (h : BlockHash) : Prop :=
  ∃ o ∈ c.outer, o.block = h ∧ Scene.On o.on p = true

/-- Every running line is of a watched block, and of a frame below or of one that `mine` admits. -/
def Owing (c : Depth) (mine : ProfilerId → BlockHash → Prop) (v : View) : Prop :=
  ∀ p h m, v.scene.mark p c.thread h = some m →
    (v.scene.profiler p).watches h = true ∧ (c.Below p h ∨ mine p h)

/-- Between frames nothing is left running but what ran before. -/
structure Out (c : Depth) (v : View) : Prop where
  along : c.Along v
  owing : c.Owing (fun _ _ => False) v
  same : ∀ h, Log.Alone (like h) v.log → ∀ p, v.scene.mark p c.thread h = c.owed p h

/-- A frame that waits was given a number that no frame below has. -/
structure Idle (c : Depth) (id : FrameId) (v : View) : Prop where
  out : c.Out v
  given : id < v.scene.frames
  fresh : ∀ o ∈ c.outer, id ≠ o.id

/-- While a frame of a block runs, its own line may be running for whoever is on. -/
structure Run (c : Depth) (id : FrameId) (block : BlockHash) (v : View) : Prop where
  along : c.Along v
  given : id < v.scene.frames
  fresh : ∀ o ∈ c.outer, id ≠ o.id
  opens : Log.Opens c.thread id block v.log
  owing : c.Owing (fun p h => h = block ∧ Scene.On c.on p = true) v
  alone : Log.Alone (like block) v.log → (∀ o ∈ c.outer, o.block ≠ block) ∧
    ∀ p, v.scene.mark p c.thread block = Log.running p id v.log
  same : ∀ h, h ≠ block → Log.Alone (like h) v.log →
    ∀ p, v.scene.mark p c.thread h = c.owed p h

/-- The story of a call. -/
def story : Story Depth where
  Out := Out
  Idle c id _ v := c.Idle id v
  Run c id block v := c.Run id block.identity v

variable {c : Depth} {id : FrameId} {block : BlockHash} {v w : View}

/-! ## Announcements -/

namespace Along

/-- The scene and the log go on, and the books stay right. -/
theorem next (h : c.Along v) (recent : List Sighting) (thread : w.scene.thread = v.scene.thread)
    (active : w.scene.active = v.scene.active) (routines : w.scene.routines = v.scene.routines)
    (frames : v.scene.frames ≤ w.scene.frames) (log : w.log = recent ++ v.log)
    (others : ∀ x ∈ recent, ∀ o ∈ c.outer, x.frame.id ≠ o.id) (balanced : w.Balanced)
    (timed : ∀ h, Log.Alone (like h) w.log → w.Timed h)
    (elsewhere : ∀ p th, th ≠ c.thread → ∀ h, w.scene.mark p th h = v.scene.mark p th h) :
    c.Along w := by
  obtain ⟨before, told, away⟩ := h.recent
  refine ⟨thread.trans h.thread, ?_, fun th => ?_, routines.trans h.routines,
    Nat.le_trans h.frames frames, ⟨recent ++ before, ?_, fun x mem o low => ?_⟩, balanced, timed,
    fun p th other b => (elsewhere p th other b).trans (h.elsewhere p th other b), h.opened, h.debts⟩
  · unfold Scene.here
    rw [thread, active]
    exact h.here
  · rw [active]
    exact h.fair th
  · rw [log, told, List.append_assoc]
  · rcases List.mem_append.mp mem with mem | mem
    · exact others x mem o low
    · exact away x mem o low

theorem once (h : c.Along v) : (v.scene.here.map Prod.fst).Nodup := h.fair.once

/-- A frame below is open as it was when the call was made. -/
theorem below (h : c.Along v) {o : Opened} (low : o ∈ c.outer) :
    Log.Opens c.thread o.id o.block v.log := by
  obtain ⟨recent, told, away⟩ := h.recent
  obtain ⟨x, found, opened⟩ := (h.opened o low).2
  refine ⟨x, ?_, opened⟩
  rw [told, Log.previous?_append fun x mem => away x mem o low]
  exact found

/-- Who is on here hears of what they watch. -/
theorem hears (h : c.Along v) {p : ProfilerId} {b : BlockHash}
    (watches : (v.scene.profiler p).watches b = true) (on : Scene.On c.on p = true) :
    v.scene.hears p b = true := by
  have isOn : v.scene.isOn p = true := by
    unfold Scene.isOn
    rw [h.here]
    exact on
  unfold Scene.hears
  rw [isOn, watches]
  rfl

/-- An announcement that starts and ends no line changes nothing in the books. -/
theorem passing (h : c.Along v) {y : Sighting} (event : y.event ≠ .line ∧ y.event ≠ .ret)
    (fresh : ∀ o ∈ c.outer, y.frame.id ≠ o.id) : c.Along { v with log := y :: v.log } := by
  refine h.next [y] rfl rfl rfl (Nat.le_refl _) rfl ?_ ?_ ?_ fun _ _ _ _ => rfl
  · intro x mem o low
    cases List.mem_singleton.mp mem
    exact fresh o low
  · intro p b line
    obtain ⟨n, hits, count⟩ := h.balanced p b line
    refine ⟨n, ?_, count⟩
    have fires : y.fires p line = false := by
      unfold Sighting.fires
      simp [event.1]
    have more : Log.hits p (like b) line (y :: v.log) = _ := Log.hits_cons p (like b) line y
    rw [fires] at more
    exact more.trans hits
  · intro b alone p line
    have more : Log.spent p (like b) line (y :: v.log) =
      (Log.spent p (like b) line v.log).satAdd (Log.lap p (like b) line y v.log) := rfl
    rw [more, Log.lap_of_no_end event, Counter.satAdd_zero]
    exact h.timed b alone.1 p line

end Along

/-! ## A frame is entered -/

/-- A frame that is entered alone has no running line. -/
theorem Idle.enterFrame {frame : Frame} (h : c.Idle frame.id v) :
    c.Run frame.id frame.block.identity (v.enterFrame frame) := by
  obtain ⟨⟨along, owing, same⟩, given, fresh⟩ := h
  let y : Sighting := ⟨v.scene, { frame with suspended := false }, .call⟩
  have last : Log.previous? frame.id (v.enterFrame frame).log = some y := by
    unfold View.enterFrame
    rw [Log.previous?_cons, if_pos ⟨rfl, by simp⟩]
  have along' : c.Along (v.enterFrame frame) :=
    along.passing (y := y) ⟨by simp [y], by simp [y]⟩ fresh
  refine ⟨along', given, fresh, ⟨y, last, by simp [y], rfl, along.thread⟩, ?_, ?_, ?_⟩
  · intro p b m found
    obtain ⟨watches, low | no⟩ := owing p b m found
    · exact ⟨watches, .inl low⟩
    · exact no.elim
  · intro alone
    have apart : ∀ o ∈ c.outer, o.block ≠ frame.block.identity := by
      intro o low here
      obtain ⟨x, found, opened, block, thread⟩ := along.below low
      have mine : like frame.block.identity x.frame.block = true :=
        decide_eq_true (block.trans here)
      refine Log.Alone.apart (y := y) alone rfl (decide_eq_true rfl) found (fresh o low).symm opened
        mine ?_
      exact thread.trans along.thread.symm
    refine ⟨apart, fun p => ?_⟩
    have nothing : Log.running p frame.id (v.enterFrame frame).log = none := by
      unfold Log.running
      rw [last]
      simp [y]
    have mark : v.scene.mark p c.thread frame.block.identity = _ := same _ alone.1 p
    rw [nothing]
    cases debt : c.owed p frame.block.identity with
    | none => exact mark.trans debt
    | some m =>
      obtain ⟨o, low, here⟩ := along.debts p _ m debt
      exact (apart o low here).elim
  · exact fun b _ alone p => same b alone.1 p

/-! ## A line starts -/

namespace Run

/-- A running line of the frame's own block is that of the frame. -/
theorem inStep (h : c.Run id block v) (alone : Log.Alone (like block) v.log) (p : ProfilerId) :
    v.InStep p id block := by
  obtain ⟨apart, mark⟩ := h.alone alone
  refine ⟨by rw [h.along.thread]; exact mark p, fun m found => ?_⟩
  rw [h.along.thread] at found
  obtain ⟨watches, ⟨o, low, here, -⟩ | ⟨-, on⟩⟩ := h.owing p block m found
  · exact (apart o low here).elim
  · exact h.along.hears watches on

/-- Where a profiler does not hear of the frame's block, it has no running line of it. -/
theorem silent (h : c.Run id block v) (alone : Log.Alone (like block) v.log) {p : ProfilerId}
    (deaf : v.scene.hears p block = false) : v.scene.mark p c.thread block = none := by
  cases found : v.scene.mark p c.thread block with
  | none => rfl
  | some m =>
    rw [← h.along.thread] at found
    rw [(h.inStep alone p).hears m found] at deaf
    cases deaf

/-- A line that starts is the running line of the frame from then on. -/
theorem startLine {frame : Frame} (h : c.Run frame.id frame.block.identity v) :
    c.Run frame.id frame.block.identity (v.startLine frame) := by
  have once := h.along.once
  let y : Sighting := ⟨v.scene, { frame with suspended := false }, .line⟩
  have last : Log.previous? frame.id (v.startLine frame).log = some y := by
    unfold View.startLine
    rw [Log.previous?_cons, if_pos ⟨rfl, by simp⟩]
  have mark : ∀ p th b, (v.startLine frame).scene.mark p th b = _ :=
    Scene.mark_recordLine once frame.block.identity frame.line
  have elsewhere : ∀ p b, ¬ frame.block.identity = b →
      (v.startLine frame).scene.mark p c.thread b = v.scene.mark p c.thread b := by
    intro p b other
    rw [mark, if_neg fun h => other h.2.2]
  obtain ⟨x, found, opened, block, thread⟩ := h.opens
  have along' : c.Along (v.startLine frame) := by
    refine h.along.next [y] rfl rfl rfl (Nat.le_refl _) rfl ?_ ?_ ?_ ?_
    · intro x mem o low
      cases List.mem_singleton.mp mem
      exact h.fresh o low
    · exact h.along.balanced.startLine once frame
    · intro b alone
      refine (h.along.timed b alone.1).ends (y := y) rfl (.inl rfl) found block ?_ ?_ fun _ _ => rfl
      · rintro rfl p
        exact h.inStep alone.1 p
      · exact fun p line => Scene.cell_recordLine once _ _ p b line
    · intro p th other b
      rw [mark, if_neg]
      rintro ⟨-, here, -⟩
      exact other (here.symm.trans h.along.thread)
  refine ⟨along', h.given, h.fresh, ⟨y, last, by simp [y], rfl, h.along.thread⟩, ?_, ?_, ?_⟩
  · intro p b m running
    have watches : ((v.startLine frame).scene.profiler p).watches b =
      (v.scene.profiler p).watches b := Scene.watches_recordLine once _ _ p b
    rw [watches]
    rw [mark] at running
    split at running
    · rename_i here
      obtain ⟨hears, -, same⟩ := here
      unfold Scene.hears at hears
      rw [Bool.and_eq_true] at hears
      unfold Scene.isOn at hears
      rw [h.along.here] at hears
      exact ⟨by rw [← same]; exact hears.2, .inr ⟨same.symm, hears.1⟩⟩
    · exact h.owing p b m running
  · intro alone
    refine ⟨(h.alone alone.1).1, fun p => ?_⟩
    have running : Log.running p frame.id (v.startLine frame).log =
        if v.scene.hears p frame.block.identity then some ⟨frame.line, v.scene.time p⟩ else none := by
      unfold Log.running
      rw [last]
      simp [y]
    rw [mark, running, h.along.thread]
    cases hears : v.scene.hears p frame.block.identity with
    | true => simp
    | false =>
      have silent := h.silent alone.1 hears
      simpa using silent
  · intro b other alone p
    rw [elsewhere p b other.symm]
    exact h.same b other alone.1 p

/-! ## A frame is left -/

/-- When a frame gives control back, nothing of it is left running. -/
theorem depart {frame : Frame} (h : c.Run frame.id frame.block.identity v) (flow : Flow) :
    c.Idle frame.id (v.depart frame flow) := by
  have once := h.along.once
  let y : Sighting := ⟨v.scene, { frame with suspended := flow = .yielded }, .ret⟩
  have mark : ∀ p th b, (v.depart frame flow).scene.mark p th b = _ :=
    Scene.mark_recordExit once frame.block.identity
  obtain ⟨x, found, opened, block, thread⟩ := h.opens
  have along' : c.Along (v.depart frame flow) := by
    refine h.along.next [y] rfl rfl rfl (Nat.le_refl _) rfl ?_ ?_ ?_ ?_
    · intro x mem o low
      cases List.mem_singleton.mp mem
      exact h.fresh o low
    · refine h.along.balanced.exit once rfl fun p b line => ?_
      exact Log.hits_cons p (like b) line y
    · intro b alone
      refine (h.along.timed b alone.1).ends (y := y) rfl (.inr rfl) found block ?_ ?_ fun _ _ => rfl
      · rintro rfl p
        exact h.inStep alone.1 p
      · exact fun p line => Scene.cell_recordExit once _ p b line
    · intro p th other b
      rw [mark, if_neg]
      rintro ⟨-, here, -⟩
      exact other (here.symm.trans h.along.thread)
  refine ⟨⟨along', ?_, ?_⟩, h.given, h.fresh⟩
  · intro p b m running
    have watches : ((v.depart frame flow).scene.profiler p).watches b =
      (v.scene.profiler p).watches b := Scene.watches_recordExit once _ p b
    rw [watches]
    rw [mark] at running
    split at running
    · cases running
    · rename_i deaf
      obtain ⟨watches, low | ⟨here, on⟩⟩ := h.owing p b m running
      · exact ⟨watches, .inl low⟩
      · rw [here] at watches
        exact (deaf ⟨h.along.hears watches on, h.along.thread, here.symm⟩).elim
  · intro b alone p
    by_cases here : b = frame.block.identity
    · subst here
      have none : c.owed p frame.block.identity = none := by
        cases debt : c.owed p frame.block.identity with
        | none => rfl
        | some m =>
          obtain ⟨o, low, here⟩ := h.along.debts p _ m debt
          exact ((h.alone alone.1).1 o low here).elim
      rw [mark, none]
      split
      · rfl
      · rename_i deaf
        refine h.silent alone.1 ?_
        rw [← Bool.not_eq_true]
        exact fun hears => deaf ⟨hears, h.along.thread, rfl⟩
    · rw [mark, if_neg fun h => here h.2.2.symm]
      exact h.same b here alone.1 p

/-- An exception changes nothing in the books. -/
theorem exception {frame : Frame} (h : c.Run frame.id block v) :
    c.Run frame.id block
      { v with log := ⟨v.scene, { frame with suspended := false }, .exception⟩ :: v.log } := by
  let y : Sighting := ⟨v.scene, { frame with suspended := false }, .exception⟩
  have last : ∀ id, Log.previous? id (y :: v.log) = Log.previous? id v.log := by
    intro id
    rw [Log.previous?_cons, if_neg]
    exact fun h => h.2 rfl
  have along' : c.Along { v with log := y :: v.log } :=
    h.along.passing ⟨by simp [y], by simp [y]⟩ h.fresh
  obtain ⟨x, found, opened⟩ := h.opens
  refine ⟨along', h.given, h.fresh, ⟨x, (last _).trans found, opened⟩, h.owing, fun alone => ?_,
    fun b other alone p => h.same b other alone.1 p⟩
  refine ⟨(h.alone alone.1).1, fun p => ?_⟩
  have running : Log.running p frame.id (y :: v.log) = Log.running p frame.id v.log := by
    unfold Log.running
    rw [last]
  rw [running]
  exact (h.alone alone.1).2 p

/-- An exception that ends a frame leaves nothing of it running. -/
theorem unwind {frame : Frame} (h : c.Run frame.id frame.block.identity v) :
    c.Idle frame.id (v.unwind frame) :=
  h.exception.depart .returned

end Run

/-! ## Calls -/

/-- The surroundings of a call that a frame makes. -/
def deeper (c : Depth) (id : FrameId) (block : BlockHash) (v : View) : Depth :=
  { c with
    log := v.log
    frames := v.scene.frames
    outer := ⟨id, block, c.on⟩ :: c.outer
    owed := fun p h => v.scene.mark p c.thread h }

/-- A frame that runs may make a call. -/
theorem Run.call (h : c.Run id block v) : (c.deeper id block v).Out v := by
  obtain ⟨thread, here, fair, routines, frames, recent, balanced, timed, elsewhere, opened, debts⟩ :=
    h.along
  have owing : (c.deeper id block v).Owing (fun _ _ => False) v := by
    intro p b m running
    obtain ⟨watches, ⟨o, low, there⟩ | ⟨same, on⟩⟩ := h.owing p b m running
    · exact ⟨watches, .inl ⟨o, List.mem_cons_of_mem _ low, there⟩⟩
    · exact ⟨watches, .inl ⟨⟨id, block, c.on⟩, List.mem_cons_self, same.symm, on⟩⟩
  refine ⟨⟨thread, here, fair, routines, Nat.le_refl _, ⟨[], rfl, fun _ h => by cases h⟩, balanced,
    timed, elsewhere, fun o low => ?_, fun p b m running => ?_⟩, owing, fun _ _ _ => rfl⟩
  · rcases List.mem_cons.mp low with rfl | low
    · exact ⟨h.given, h.opens⟩
    · exact ⟨Nat.lt_of_lt_of_le (opened o low).1 frames, h.along.below low⟩
  · obtain ⟨-, ⟨o, low, there, -⟩ | no⟩ := owing p b m running
    · exact ⟨o, low, there⟩
    · exact no.elim

/-- After the call the frame runs on as before. -/
theorem Run.back (h : c.Run id block v) (out : (c.deeper id block v).Out w) :
    c.Run id block w := by
  obtain ⟨⟨thread, here, fair, routines, frames, recent, balanced, timed, elsewhere, -, -⟩, owing,
    same⟩ := out
  obtain ⟨later, told, away⟩ := recent
  obtain ⟨before, told', away'⟩ := h.along.recent
  have own : ∀ x ∈ later, x.frame.id ≠ id := fun x mem =>
    away x mem ⟨id, block, c.on⟩ List.mem_cons_self
  have last : Log.previous? id w.log = Log.previous? id v.log := by
    rw [told]
    exact Log.previous?_append own
  have earlier : ∀ {b : BlockHash}, Log.Alone (like b) w.log → Log.Alone (like b) v.log := by
    intro b alone
    rw [told] at alone
    exact alone.tail
  refine ⟨⟨thread, here, fair, routines, Nat.le_trans h.along.frames frames, ⟨later ++ before, ?_, ?_⟩,
    balanced, timed, elsewhere, h.along.opened, h.along.debts⟩, Nat.lt_of_lt_of_le h.given frames,
    h.fresh, ?_, ?_, ?_, ?_⟩
  · rw [told, List.append_assoc, ← told']
    rfl
  · intro x mem o low
    rcases List.mem_append.mp mem with mem | mem
    · exact away x mem o (List.mem_cons_of_mem _ low)
    · exact away' x mem o low
  · obtain ⟨x, found, opened⟩ := h.opens
    exact ⟨x, last.trans found, opened⟩
  · intro p b m running
    obtain ⟨watches, ⟨o, low, there, on⟩ | no⟩ := owing p b m running
    · rcases List.mem_cons.mp low with rfl | low
      · exact ⟨watches, .inr ⟨there.symm, on⟩⟩
      · exact ⟨watches, .inl ⟨o, low, there, on⟩⟩
    · exact no.elim
  · intro alone
    obtain ⟨apart, mark⟩ := h.alone (earlier alone)
    refine ⟨apart, fun p => ?_⟩
    have kept : w.scene.mark p c.thread block = v.scene.mark p c.thread block := same block alone p
    have running : Log.running p id w.log = Log.running p id v.log := by
      unfold Log.running
      rw [last]
    rw [kept, running]
    exact mark p
  · intro b other alone p
    have kept : w.scene.mark p c.thread b = v.scene.mark p c.thread b := same b alone p
    rw [kept]
    exact h.same b other (earlier alone) p

/-! ## Scopes -/

/-- The surroundings with others on. -/
def withOn (c : Depth) (on : List (ProfilerId × Nat)) : Depth := { c with on }

/-- Switching changes nothing in the books. -/
theorem Out.switch (out : c.Out v) {on : List (ProfilerId × Nat)} (fair : Scene.Fair on) :
    (c.withOn on).Out (v.on fun s => s.switch on) := by
  obtain ⟨⟨thread, here, all, routines, frames, recent, balanced, timed, elsewhere, opened, debts⟩,
    owing, same⟩ := out
  exact ⟨⟨thread, Scene.switch_here _ _, all.switch fair, routines, frames, recent, balanced, timed,
    elsewhere, opened, debts⟩, owing, same⟩

theorem Idle.switch (idle : c.Idle id v) {on : List (ProfilerId × Nat)} (fair : Scene.Fair on) :
    (c.withOn on).Idle id (v.on fun s => s.switch on) :=
  ⟨idle.out.switch fair, idle.given, idle.fresh⟩

/-- The scope of a routine is the same at any time during a call. -/
theorem Out.scope (out : c.Out v) (routine : RoutineId) :
    (v.scene.routine routine).scope = (c.routines.getD routine { slot := routine }).scope := by
  unfold Scene.routine
  rw [out.along.routines]

/-- The clock is not part of the books. -/
theorem Run.withClock (run : c.Run id block v) (clock : Counter) :
    c.Run id block (v.on fun s => s.withClock clock) := by
  refine ⟨?_, run.given, run.fresh, run.opens, run.owing, run.alone, run.same⟩
  exact run.along.next [] rfl rfl rfl (Nat.le_refl _) rfl (fun _ h => by cases h)
    run.along.balanced run.along.timed fun _ _ _ _ => rfl

/-! ## The story -/

/-- **The books of a call** stay right whatever the machine does. -/
theorem story_steady : story.Steady where
  newFrame {c v} out block := by
    obtain ⟨along, owing, same⟩ := out
    refine ⟨⟨?_, owing, same⟩, Nat.lt_succ_self _, fun o low => ?_⟩
    · exact along.next [] rfl rfl rfl (Nat.le_succ _) rfl (fun _ h => by cases h)
        along.balanced along.timed fun _ _ _ _ => rfl
    · exact Nat.ne_of_gt (Nat.lt_of_lt_of_le (along.opened o low).1 along.frames)
  rest idle := idle.out
  enter {c id block v} idle routine := by
    have fair : Scene.Fair c.on := by
      have now := idle.out.along.fair v.scene.thread
      rw [← idle.out.along.here]
      exact now
    have scope := idle.out.scope routine
    cases found : (v.scene.routine routine).scope with
    | none =>
      have stay : v.scene.enterScope routine = v.scene := by
        unfold Scene.enterScope
        rw [found]
      have left : ∀ {w : View}, c.Out w → (w.on fun s => s.leaveScope routine) = w := by
        intro w out
        refine View.on_same ?_
        unfold Scene.leaveScope
        rw [out.scope routine, ← scope, found]
      have entered : (v.on fun s => s.enterScope routine) = v := View.on_same stay
      refine ⟨c, ?_, fun {id block w} idle => ?_, fun {w} out => ?_⟩
      · rw [entered]
        exact idle
      · rw [left idle.out]
        exact idle
      · rw [left out]
        exact out
    | some around =>
      let on := (({ active := c.on } : Dispatch).raise around.profiler).active
      have raised : v.scene.enterScope routine = v.scene.switch on := by
        unfold Scene.enterScope
        rw [found]
        simp only
        unfold Scene.raise
        rw [idle.out.along.here]
      have entered : (v.on fun s => s.enterScope routine) = v.on fun s => s.switch on :=
        View.on_congr raised
      have left : ∀ {w : View}, (c.withOn on).Out w →
          (w.on fun s => s.leaveScope routine) = w.on fun s => s.switch c.on := by
        intro w out
        refine View.on_congr ?_
        unfold Scene.leaveScope
        rw [out.scope routine]
        have same : ((c.withOn on).routines.getD routine { slot := routine }).scope = some around :=
          scope.symm.trans found
        rw [same]
        exact Scene.lower_raised fair out.along.here
      refine ⟨c.withOn on, ?_, fun {id block w} idle => ?_, fun {w} out => ?_⟩
      · rw [entered]
        exact Idle.switch idle (fair.raise around.profiler)
      · rw [left idle.out]
        exact Idle.switch idle fair
      · rw [left out]
        exact Out.switch out fair
  enterFrame idle := idle.enterFrame
  startLine run := run.startLine
  work {c id block v} run ticks := by
    rw [View.on_spend]
    exact Run.withClock run _
  call run := ⟨_, run.call, fun out => run.back out⟩
  depart run flow := run.depart flow
  unwind run := run.unwind.out

end Depth

end LineClock

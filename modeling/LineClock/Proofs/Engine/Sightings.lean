import LineClock.Proofs.Engine.Accord
import LineClock.Proofs.Engine.Audience
import LineClock.Proofs.Engine.Recording

/-!
# Reading a log of announcements

What profilers should have recorded, told from the log alone: how often a line of a block started
where a profiler heard of it, and how much time passed from each such line to the next line or the
end of the same frame. Logs list the newest announcement first; which block is meant is given as a
predicate `mine`. What a profiler recorded can be told from the announcements it heard of, and from
these alone.

Main statement: `View.told_lasting`.
-/

namespace LineClock

open Machine

namespace Sighting

/-- The thread of the frame. -/
abbrev thread (x : Sighting) : ThreadKey := x.scene.thread

/-- What the clock of a profiler showed. -/
abbrev time (x : Sighting) (p : ProfilerId) : Counter := x.scene.time p

/-- Whether a line starts, and a profiler hears of it. -/
def fires (x : Sighting) (p : ProfilerId) (line : UInt32) : Bool :=
  x.event = .line && x.frame.line = line && x.scene.hears p x.frame.block.identity

end Sighting

namespace Log

variable (p : ProfilerId) (mine : Block → Bool) (line : UInt32)

/-- How often a line started where a profiler heard of it. -/
def hits (log : List Sighting) : Nat := log.countP fun x => x.fires p line && mine x.frame.block

/-- The last announcement of a frame, exceptions aside. -/
def previous? (id : FrameId) (log : List Sighting) : Option Sighting :=
  log.find? fun x => x.frame.id = id && x.event ≠ .exception

/-- The time that ends with an announcement: if that is the next line or the end of a frame, the
time since the frame's last line, provided that line counts. -/
def lap (y : Sighting) (earlier : List Sighting) : Counter :=
  match previous? y.frame.id earlier with
  | some x =>
    if (y.event = .line ∨ y.event = .ret) ∧ x.fires p line ∧ mine x.frame.block then
      (y.time p).satSub (x.time p)
    else 0
  | none => 0

/-- The time from each line that counts to the next line or the end of its frame. -/
def spent : List Sighting → Counter
  | [] => 0
  | y :: earlier => (spent earlier).satAdd (lap p mine line y earlier)

/-- No two frames of a block run on one thread at once: when one is entered, any other that was
entered and not left since is on another thread. -/
def Alone (mine : Block → Bool) : List Sighting → Prop
  | [] => True
  | y :: earlier =>
    Alone mine earlier ∧ (y.event = .call → mine y.frame.block → ∀ z ∈ earlier,
      ∀ x ∈ previous? z.frame.id earlier, x.frame.id ≠ y.frame.id → x.event ≠ .ret →
        mine x.frame.block → x.thread ≠ y.thread)

instance decidableAlone (mine : Block → Bool) : ∀ log, Decidable (Alone mine log)
  | [] => inferInstanceAs (Decidable True)
  | y :: earlier =>
    have := decidableAlone mine earlier
    inferInstanceAs (Decidable (_ ∧ (_ → _ → ∀ z ∈ earlier,
      ∀ x ∈ previous? z.frame.id earlier, x.frame.id ≠ y.frame.id → x.event ≠ .ret →
        mine x.frame.block → x.thread ≠ y.thread)))

/-! ## The same block, told in two ways -/

section

variable {p : ProfilerId} {mine mine' : Block → Bool} {line : UInt32} {log : List Sighting}

theorem mem_of_previous? {id : FrameId} {x : Sighting} (h : previous? id log = some x) : x ∈ log :=
  List.mem_of_find?_eq_some h

theorem id_of_previous? {id : FrameId} {x : Sighting} (h : previous? id log = some x) :
    x.frame.id = id := by
  have found := List.find?_some h
  rw [Bool.and_eq_true] at found
  exact of_decide_eq_true found.1

theorem hits_congr (same : ∀ x ∈ log, mine x.frame.block = mine' x.frame.block) :
    hits p mine line log = hits p mine' line log := by
  unfold hits
  refine List.countP_congr fun x mem => ?_
  rw [same x mem]

theorem spent_congr (same : ∀ x ∈ log, mine x.frame.block = mine' x.frame.block) :
    spent p mine line log = spent p mine' line log := by
  induction log with
  | nil => rfl
  | cons y earlier ih =>
    have laps : lap p mine line y earlier = lap p mine' line y earlier := by
      unfold lap
      cases found : previous? y.frame.id earlier with
      | none => rfl
      | some x =>
        simp only
        rw [same x (List.mem_cons_of_mem y (mem_of_previous? found))]
    unfold spent
    rw [ih fun x mem => same x (List.mem_cons_of_mem y mem), laps]

theorem Alone.congr (same : ∀ x ∈ log, mine x.frame.block = mine' x.frame.block)
    (h : Alone mine log) : Alone mine' log := by
  induction log with
  | nil => trivial
  | cons y earlier ih =>
    obtain ⟨before, alone⟩ := h
    refine ⟨ih (fun x mem => same x (List.mem_cons_of_mem y mem)) before, ?_⟩
    intro call here z mem x found other opened there
    rw [← same y List.mem_cons_self] at here
    rw [← same x (List.mem_cons_of_mem y (mem_of_previous? found))] at there
    exact alone call here z mem x found other opened there

/-- When a frame is entered alone, no other frame of the block is open on its thread. -/
theorem Alone.apart {y x : Sighting} {id : FrameId} (h : Alone mine (y :: log))
    (call : y.event = .call) (here : mine y.frame.block) (found : previous? id log = some x)
    (other : id ≠ y.frame.id) (opened : x.event ≠ .ret) (there : mine x.frame.block) :
    x.thread ≠ y.thread := by
  have own := id_of_previous? found
  rw [← own] at found other
  exact h.2 call here x (mem_of_previous? found) x found other opened there

end

/-! ## One more announcement -/

section

variable {p : ProfilerId} {mine : Block → Bool} {line : UInt32} {log : List Sighting}

theorem Alone.tail {recent : List Sighting} (h : Alone mine (recent ++ log)) : Alone mine log := by
  induction recent with
  | nil => exact h
  | cons y rest ih => exact ih h.1

theorem hits_cons (p : ProfilerId) (mine : Block → Bool) (line : UInt32) (y : Sighting) :
    hits p mine line (y :: log) =
      hits p mine line log + if y.fires p line && mine y.frame.block then 1 else 0 :=
  List.countP_cons

theorem previous?_cons (id : FrameId) (y : Sighting) :
    previous? id (y :: log) =
      if y.frame.id = id ∧ y.event ≠ .exception then some y else previous? id log := by
  unfold previous?
  rw [List.find?_cons]
  by_cases here : y.frame.id = id <;> by_cases there : y.event = .exception <;> simp [here, there]

/-- Announcements of other frames do not change the last one of a frame. -/
theorem previous?_append {recent : List Sighting} {id : FrameId}
    (others : ∀ x ∈ recent, x.frame.id ≠ id) : previous? id (recent ++ log) = previous? id log := by
  unfold previous?
  rw [List.find?_append]
  have absent : recent.find? (fun x => decide (x.frame.id = id) && decide (x.event ≠ .exception)) =
      none := by
    rw [List.find?_eq_none]
    intro x mem
    simp [others x mem]
  rw [absent, Option.none_or]

/-- No time ends with a call or an exception. -/
theorem lap_of_no_end {y : Sighting} (h : y.event ≠ .line ∧ y.event ≠ .ret) :
    lap p mine line y log = 0 := by
  unfold lap
  split
  · rw [if_neg]
    rintro ⟨line | ret, -⟩
    · exact h.1 line
    · exact h.2 ret
  · rfl

end

end Log

/-!
## Telling a tally from a log

The frames of other blocks could be struck out of the log. `View.Told` says so of all profilers of a
view.
-/

/-- A tally after an announcement, if the profiler hears of it. -/
def Sighting.book (x : Sighting) (p : ProfilerId) (t : Tally) : Tally :=
  if x.scene.hears p x.frame.block.identity then
    match x.event with
    | .line => t.lineStarts x.thread x.frame.block.identity x.frame.line (x.time p)
    | .ret => t.blockLeft x.thread x.frame.block.identity (x.time p)
    | .call | .exception => t
  else t

namespace Sighting

variable {p : ProfilerId} {t t' : Tally} (x : Sighting)

theorem same_book (h : Tally.Same t t') : Tally.Same (x.book p t) (x.book p t') := by
  unfold book
  split
  · split
    · exact h.lineStarts _ _ _ _
    · exact h.blockLeft _ _ _
    · exact h
    · exact h
  · exact h

theorem tidy_book (h : t.Tidy) : (x.book p t).Tidy := by
  unfold book
  split
  · split
    · exact h.lineStarts _ _ _ _
    · exact h.blockLeft _ _ _
    · exact h
    · exact h
  · exact h

/-- Nothing is recorded of a call or an exception. -/
theorem book_passing (h : x.event = .call ∨ x.event = .exception) (t : Tally) : x.book p t = t := by
  unfold book
  rcases h with h | h <;> simp [h]

end Sighting

namespace Log

variable {p : ProfilerId}

/-- What a profiler makes of a log. -/
def tally (p : ProfilerId) : List Sighting → Tally
  | [] => {}
  | x :: earlier => x.book p (tally p earlier)

theorem tidy_tally (log : List Sighting) : (tally p log).Tidy := by
  induction log with
  | nil => exact .empty
  | cons x earlier ih => exact x.tidy_book ih

/-- Announcements that a profiler does not hear of play no part. -/
theorem tally_filter {keep : Sighting → Bool} {log : List Sighting}
    (h : ∀ x ∈ log, x.scene.hears p x.frame.block.identity → keep x) :
    tally p (log.filter keep) = tally p log := by
  induction log with
  | nil => rfl
  | cons x earlier ih =>
    have rest := ih fun y mem => h y (List.mem_cons_of_mem x mem)
    rw [List.filter_cons]
    by_cases kept : keep x
    · rw [if_pos kept]
      exact congrArg (x.book p) rest
    · have silent : ¬ x.scene.hears p x.frame.block.identity :=
        fun hears => kept (h x List.mem_cons_self hears)
      have same : tally p (x :: earlier) = tally p earlier := if_neg silent
      rw [if_neg kept, same, rest]

end Log

/-- Every profiler has recorded what the log tells, and watches still what it heard of. -/
structure View.Told (v : View) : Prop where
  fair : v.scene.AllFair
  tally : ∀ p, Tally.Same (Log.tally p v.log) (v.scene.profiler p).tally
  tidy : ∀ p, (v.scene.profiler p).tally.Tidy
  watched : ∀ p, ∀ x ∈ v.log, x.scene.hears p x.frame.block.identity →
    (v.scene.profiler p).watches x.frame.block.identity

namespace View.Told

variable {v w : View}

/-- Changes that leave profilers and log alone. -/
theorem same (h : v.Told) (fair : w.scene.AllFair)
    (profiler : ∀ p, w.scene.profiler p = v.scene.profiler p) (log : w.log = v.log) : w.Told := by
  refine ⟨fair, fun p => ?_, fun p => ?_, fun p x mem hears => ?_⟩
  · rw [log, profiler]
    exact h.tally p
  · rw [profiler]
    exact h.tidy p
  · rw [profiler]
    rw [log] at mem
    exact h.watched p x mem hears

/-- What the clock shows now is not in the books. -/
theorem withClock (h : v.Told) (clock : Counter) : (v.on fun s => s.withClock clock).Told :=
  h.same h.fair (fun _ => rfl) rfl

/-- One more announcement, of which every profiler records what it should. -/
theorem next (h : v.Told) (y : Sighting) (scene : y.scene = v.scene) (fair : w.scene.AllFair)
    (log : w.log = y :: v.log)
    (books : ∀ p, w.scene.profiler p =
      { v.scene.profiler p with tally := y.book p (v.scene.profiler p).tally }) : w.Told := by
  refine ⟨fair, fun p => ?_, fun p => ?_, fun p x mem hears => ?_⟩
  · rw [log, books]
    exact y.same_book (h.tally p)
  · rw [books]
    exact y.tidy_book (h.tidy p)
  · rw [books]
    rw [log] at mem
    rcases List.mem_cons.mp mem with rfl | mem
    · rw [scene] at hears
      exact (Bool.and_eq_true_iff.mp hears).2
    · exact h.watched p x mem hears

/-- An announcement of which nothing is recorded. -/
theorem passing (h : v.Told) (y : Sighting) (scene : y.scene = v.scene)
    (event : y.event = .call ∨ y.event = .exception) : View.Told { v with log := y :: v.log } := by
  refine h.next y scene h.fair rfl fun p => ?_
  rw [y.book_passing event]

/-- A block that is left is recorded by whoever hears of it. -/
theorem exit (h : v.Told) (frame : Frame) :
    View.Told ⟨v.scene.recordExit frame.block.identity, ⟨v.scene, frame, .ret⟩ :: v.log⟩ := by
  refine h.next ⟨v.scene, frame, .ret⟩ rfl h.fair rfl fun p => ?_
  have after := Scene.profiler_recordExit h.fair.once frame.block.identity p
  rw [after]
  unfold Sighting.book Scene.hears Profiler.blockLeft
  cases v.scene.isOn p with
  | false => rfl
  | true =>
    cases (v.scene.profiler p).watches frame.block.identity with
    | false => rfl
    | true => rfl

theorem startLine (h : v.Told) (frame : Frame) : (v.startLine frame).Told := by
  refine h.next ⟨v.scene, { frame with suspended := false }, .line⟩ rfl h.fair rfl fun p => ?_
  have after := Scene.profiler_recordLine h.fair.once frame.block.identity frame.line p
  have scene : (v.startLine frame).scene =
    v.scene.recordLine frame.block.identity frame.line := rfl
  rw [scene, after]
  unfold Sighting.book Scene.hears Profiler.lineStarts
  cases v.scene.isOn p with
  | false => rfl
  | true =>
    cases (v.scene.profiler p).watches frame.block.identity with
    | false => rfl
    | true => rfl

end View.Told

/-- **Whatever a run does**, profilers record what the log tells. -/
theorem View.told_lasting : Lasting View.Told where
  addFrame h := h.same h.fair (fun _ => rfl) rfl
  withClock h clock := h.withClock clock
  enterScope {v} h routine :=
    h.same (h.fair.enterScope routine) (v.scene.enterScope_profiler routine) rfl
  leaveScope {v} h routine :=
    h.same (h.fair.leaveScope routine) (v.scene.leaveScope_profiler routine) rfl
  enterFrame h _ := h.passing _ rfl (.inl rfl)
  startLine h frame := h.startLine frame
  depart h frame flow := h.exit { frame with suspended := flow = .yielded }
  unwind {v} h frame :=
    (h.passing ⟨v.scene, { frame with suspended := false }, .exception⟩ rfl (.inr rfl)).exit
      { frame with suspended := false }

end LineClock

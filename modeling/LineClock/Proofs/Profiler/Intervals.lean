import LineClock.Proofs.Profiler.Rows
import Mathlib.Data.List.Induction
import Mathlib.Data.List.Nodup

/-!
# Intervals

What a tally shows, told from the changes that were made to it alone: a line that starts opens an
interval, and the next line or exit of the same block on the same thread closes it, unless it was
dropped in between. Hits count closed intervals, ticks add up their lengths, and what is pending is
the lines whose intervals are open.

Main statement: `counts_intervals`.
-/

namespace LineClock

namespace Tally

/-- A change of a tally. -/
inductive Change where
  | line (thread : ThreadKey) (block : BlockHash) (line : UInt32) (now : Counter)
  | exit (thread : ThreadKey) (block : BlockHash) (now : Counter)
  /-- The running line of a block is dropped. -/
  | clear (thread : ThreadKey) (block : BlockHash)
  /-- All running lines of a thread are dropped. -/
  | clearThread (thread : ThreadKey)
  deriving DecidableEq, Repr

/-- A line of a block from its start to the next line or exit of the block. -/
structure Interval where
  thread : ThreadKey
  block : BlockHash
  line : UInt32
  opened : Counter
  closed : Counter
  deriving DecidableEq, Repr

/-- How long an interval is; one that ends before it starts has no length. -/
def Interval.length (i : Interval) : Counter := i.closed.satSub i.opened

namespace Change

/-- The thread on which a change is made. -/
def thread : Change → ThreadKey
  | line th .. | exit th .. | clear th _ | clearThread th => th

/-- Make a change. -/
def apply (t : Tally) : Change → Tally
  | line th b l now => t.lineStarts th b l now
  | exit th b now => t.blockLeft th b now
  | clear th b => t.forget th b
  | clearThread th => t.forgetThread th

/-- Whether a change ends what is running of a block on a thread; if it closes the interval, when. -/
def ends? (th : ThreadKey) (b : BlockHash) : Change → Option (Option Counter)
  | line th' b' _ now => if th' = th ∧ b' = b then some (some now) else none
  | exit th' b' now => if th' = th ∧ b' = b then some (some now) else none
  | clear th' b' => if th' = th ∧ b' = b then some none else none
  | clearThread th' => if th' = th then some none else none

/-- The line of a block on a thread that a change leaves running, of those that it starts. -/
def starts? (th : ThreadKey) (b : BlockHash) : Change → Option Mark
  | line th' b' l now => if th' = th ∧ b' = b then some ⟨l, now⟩ else none
  | exit .. | clear .. | clearThread _ => none

/-- The block and the time of a change that closes intervals. -/
def closes? : Change → Option (BlockHash × Counter)
  | line _ b _ now | exit _ b now => some (b, now)
  | clear .. | clearThread _ => none

theorem ends?_other {c : Change} {th : ThreadKey} (h : c.thread ≠ th) (b : BlockHash) :
    c.ends? th b = none := by
  cases c <;> exact if_neg fun same => h (by simp_all [thread])

theorem starts?_eq_some {c : Change} {th : ThreadKey} {b : BlockHash} {mark : Mark} :
    c.starts? th b = some mark ↔ c = line th b mark.line mark.ticks := by
  obtain ⟨l, now⟩ := mark
  cases c <;> simp [starts?, and_assoc]

/-- A change that starts a line closes what was running. -/
theorem ends?_of_starts? {c : Change} {th : ThreadKey} {b : BlockHash} {mark : Mark}
    (h : c.starts? th b = some mark) : c.ends? th b = some (some mark.ticks) := by
  rw [starts?_eq_some.mp h]
  exact if_pos ⟨rfl, rfl⟩

/-- What closes the interval of a block on a thread is a change of that block on that thread. -/
theorem ends?_eq_closed {c : Change} {th : ThreadKey} {b : BlockHash} {now : Counter} :
    c.ends? th b = some (some now) ↔ c.thread = th ∧ c.closes? = some (b, now) := by
  cases c with
  | line th' b' l now' =>
    simp only [ends?, closes?, thread]
    split <;> simp_all
  | exit th' b' now' =>
    simp only [ends?, closes?, thread]
    split <;> simp_all
  | clear th' b' =>
    simp only [ends?, closes?]
    split <;> simp
  | clearThread th' =>
    simp only [ends?, closes?]
    split <;> simp

end Change

/-- What becomes of a line of a block on a thread through later changes: nothing, or it is closed at
some time, or dropped. -/
def fate (th : ThreadKey) (b : BlockHash) (later : List Change) : Option (Option Counter) :=
  later.findSome? (Change.ends? th b)

/-- The interval that a change opens, if it is closed later. -/
def Change.interval? (c : Change) (later : List Change) : Option Interval :=
  match c with
  | .line th b l opened =>
    match fate th b later with
    | some (some closed) => some ⟨th, b, l, opened, closed⟩
    | _ => none
  | .exit .. | .clear .. | .clearThread _ => none

/-- The closed intervals, in the order in which they were opened. -/
def intervals : List Change → List Interval
  | [] => []
  | c :: later => (c.interval? later).toList ++ intervals later

theorem intervals_cons (c : Change) (later : List Change) :
    intervals (c :: later) = (c.interval? later).toList ++ intervals later := rfl

/-- The line of a block on a thread that a change starts, if it is neither closed nor dropped later. -/
def Change.stays? (th : ThreadKey) (c : Change) (later : List Change) : Option (BlockHash × Mark) :=
  match c with
  | .line th' b l now => if th' = th ∧ fate th b later = none then some (b, ⟨l, now⟩) else none
  | .exit .. | .clear .. | .clearThread _ => none

/-- The lines on a thread that are neither closed nor dropped. -/
def standing (th : ThreadKey) : List Change → List (BlockHash × Mark)
  | [] => []
  | c :: later => (c.stays? th later).toList ++ standing th later

theorem standing_cons (th : ThreadKey) (c : Change) (later : List Change) :
    standing th (c :: later) = (c.stays? th later).toList ++ standing th later := rfl

/-- The tally after changes were made to an empty one. -/
def after (changes : List Change) : Tally := changes.foldl Change.apply {}

theorem after_snoc (changes : List Change) (c : Change) :
    after (changes ++ [c]) = c.apply (after changes) := by
  unfold after
  rw [List.foldl_append]
  rfl

/-! ## Running lines -/

variable {th : ThreadKey} {b : BlockHash} {mark : Mark}

theorem mark?_forget (t : Tally) (th th' : ThreadKey) (b b' : BlockHash) :
    (t.forget th b).mark? th' b' = if th = th' ∧ b = b' then none else t.mark? th' b' := by
  have gone : (t.forget th b).mark? th' b' =
    if (th, b) = (th', b') then none else t.mark? th' b' := Assoc.get?_erase _ _ _
  rw [gone]
  simp only [Prod.mk.injEq]

/-- A change ends what was running and may start another line. -/
theorem mark?_apply (t : Tally) (c : Change) (th : ThreadKey) (b : BlockHash) :
    (c.apply t).mark? th b =
      match c.ends? th b with
      | none => t.mark? th b
      | some _ => c.starts? th b := by
  cases c with
  | line th' b' l now =>
    rw [Change.apply, mark?_lineStarts, Change.ends?, Change.starts?]
    split <;> rfl
  | exit th' b' now =>
    rw [Change.apply, mark?_blockLeft, Change.ends?, Change.starts?]
    split <;> rfl
  | clear th' b' =>
    rw [Change.apply, mark?_forget, Change.ends?, Change.starts?]
    split <;> rfl
  | clearThread th' =>
    rw [Change.apply, mark?_forgetThread, Change.ends?, Change.starts?]
    split <;> rfl

theorem fate_snoc (th : ThreadKey) (b : BlockHash) (later : List Change) (c : Change) :
    fate th b (later ++ [c]) = (fate th b later).or (c.ends? th b) := by
  unfold fate
  rw [List.findSome?_append]
  cases h : c.ends? th b <;> simp [h]

theorem stays?_eq_some {c : Change} {later : List Change} :
    c.stays? th later = some (b, mark) ↔ c.starts? th b = some mark ∧ fate th b later = none := by
  cases c with
  | line th' b' l now =>
    simp only [Change.stays?, Change.starts?]
    constructor
    · intro h
      split at h
      · rename_i stays
        cases h
        exact ⟨if_pos ⟨stays.1, rfl⟩, stays.2⟩
      · cases h
    · rintro ⟨starts, stays⟩
      split at starts
      · rename_i same
        cases starts
        obtain ⟨rfl, rfl⟩ := same
        exact if_pos ⟨rfl, stays⟩
      · cases starts
  | exit | clear | clearThread => simp [Change.stays?, Change.starts?]

/-- Of what no change ends, none was started. -/
theorem not_mem_standing {changes : List Change} (h : fate th b changes = none) (mark : Mark) :
    (b, mark) ∉ standing th changes := by
  induction changes with
  | nil => exact List.not_mem_nil
  | cons c later ih =>
    unfold fate at h
    rw [List.findSome?_cons] at h
    cases ends : c.ends? th b with
    | some o => simp [ends] at h
    | none =>
      rw [ends] at h
      rw [standing_cons, List.mem_append, Option.mem_toList, stays?_eq_some]
      rintro (⟨starts, -⟩ | mem)
      · rw [Change.ends?_of_starts? starts] at ends
        cases ends
      · exact ih h mem

/-- What stands after one more change. -/
theorem mem_standing_snoc (changes : List Change) (c : Change) :
    (b, mark) ∈ standing th (changes ++ [c]) ↔
      ((b, mark) ∈ standing th changes ∧ c.ends? th b = none) ∨ c.starts? th b = some mark := by
  induction changes with
  | nil =>
    rw [List.nil_append, standing_cons, List.mem_append, Option.mem_toList, stays?_eq_some]
    simp [standing, fate]
  | cons d later ih =>
    rw [List.cons_append, standing_cons, standing_cons, List.mem_append, List.mem_append, ih,
      Option.mem_toList, Option.mem_toList, stays?_eq_some, stays?_eq_some, fate_snoc,
      Option.or_eq_none_iff]
    tauto

/-- What is running is what stands. -/
theorem mark?_after (changes : List Change) :
    (after changes).mark? th b = some mark ↔ (b, mark) ∈ standing th changes := by
  induction changes using List.reverseRecOn generalizing mark with
  | nil => simp [after, mark?, standing, Assoc.get?, Assoc.find?]
  | append_singleton changes c ih =>
    rw [after_snoc, mark?_apply, mem_standing_snoc]
    cases ends : c.ends? th b with
    | none =>
      have none : c.starts? th b ≠ some mark := fun starts => by
        rw [Change.ends?_of_starts? starts] at ends
        cases ends
      simp [ih, none]
    | some o => simp

/-- Each block has one line that stands, at most. -/
theorem nodup_standing (th : ThreadKey) (changes : List Change) :
    ((standing th changes).map Prod.fst).Nodup := by
  induction changes with
  | nil => exact List.nodup_nil
  | cons c later ih =>
    rw [standing_cons]
    cases stays : c.stays? th later with
    | none => exact ih
    | some e =>
      obtain ⟨b, mark⟩ := e
      obtain ⟨-, ended⟩ := stays?_eq_some.mp stays
      rw [Option.toList_some, List.singleton_append, List.map_cons]
      refine List.nodup_cons.mpr ⟨fun mem => ?_, ih⟩
      obtain ⟨⟨b', mark'⟩, mem', same⟩ := List.mem_map.mp mem
      cases same
      exact not_mem_standing ended mark' mem'

/-! ## Closed intervals -/

/-- The intervals that a change closes. -/
def Change.closing (c : Change) (changes : List Change) : List Interval :=
  match c.closes? with
  | some (b, now) => ((standing c.thread changes).filter fun e => e.1 = b).map fun e =>
      ⟨c.thread, b, e.2.line, e.2.ticks, now⟩
  | none => []

/-- The interval that one change opens and another closes, if none came in between. -/
def Change.span? (c d : Change) (later : List Change) : Option Interval :=
  match d.closes?, c.stays? d.thread later with
  | some (b, now), some (b', mark) =>
    if b' = b then some ⟨d.thread, b, mark.line, mark.ticks, now⟩ else none
  | _, _ => none

theorem closing_cons (c d : Change) (later : List Change) :
    c.closing (d :: later) = (d.span? c later).toList ++ c.closing later := by
  unfold Change.closing Change.span?
  rw [standing_cons]
  cases c.closes? with
  | none => rfl
  | some e =>
    cases d.stays? c.thread later with
    | none => rfl
    | some e' =>
      by_cases same : e'.1 = e.1 <;> simp [same]

theorem interval?_eq_some {c : Change} {later : List Change} {i : Interval} :
    c.interval? later = some i ↔ c.starts? i.thread i.block = some ⟨i.line, i.opened⟩ ∧
      fate i.thread i.block later = some (some i.closed) := by
  obtain ⟨th, b, l, opened, closed⟩ := i
  cases c with
  | line th' b' l' opened' =>
    simp only [Change.interval?, Change.starts?, Option.ite_none_right_eq_some, Option.some.injEq,
      Mark.mk.injEq]
    constructor
    · intro h
      split at h
      · rename_i ended
        cases h
        exact ⟨⟨⟨rfl, rfl⟩, rfl, rfl⟩, ended⟩
      · cases h
    · rintro ⟨⟨⟨rfl, rfl⟩, rfl, rfl⟩, ended⟩
      rw [ended]
  | exit | clear | clearThread => simp [Change.interval?, Change.starts?]

theorem span?_eq_some {c d : Change} {later : List Change} {i : Interval} :
    c.span? d later = some i ↔ c.starts? i.thread i.block = some ⟨i.line, i.opened⟩ ∧
      fate i.thread i.block later = none ∧ d.ends? i.thread i.block = some (some i.closed) := by
  rw [Change.ends?_eq_closed, ← and_assoc, ← stays?_eq_some]
  obtain ⟨th, b, l, opened, closed⟩ := i
  unfold Change.span?
  constructor
  · intro h
    split at h
    · rename_i closes stays
      split at h
      · rename_i same
        cases h
        cases same
        exact ⟨stays, rfl, closes⟩
      · cases h
    · cases h
  · rintro ⟨stays, rfl, closes⟩
    rw [closes, stays]
    exact if_pos rfl

/-- The line whose interval is closed is the line that the change starts. -/
theorem fate_of_interval? {c : Change} {later : List Change} {i : Interval}
    (h : c.interval? later = some i) (starts : c.starts? th b = some mark) :
    fate th b later ≠ none := by
  obtain ⟨starts', ended⟩ := interval?_eq_some.mp h
  rw [Change.starts?_eq_some] at starts starts'
  obtain ⟨rfl, rfl, -⟩ := Change.line.inj (starts.symm.trans starts')
  rw [ended]
  exact Option.some_ne_none _

/-- What was closed in between is not closed again. -/
theorem span?_of_interval? {c : Change} {later : List Change} {i : Interval}
    (h : c.interval? later = some i) (d : Change) : c.span? d later = none :=
  Option.eq_none_iff_forall_not_mem.mpr fun _ here =>
    fate_of_interval? h (span?_eq_some.mp here).1 (span?_eq_some.mp here).2.1

/-- What a change opens is closed as before, or by the change that comes last. -/
theorem interval?_snoc (c d : Change) (later : List Change) :
    c.interval? (later ++ [d]) = (c.interval? later).or (c.span? d later) := by
  refine Option.ext fun i => ?_
  rw [interval?_eq_some, fate_snoc, Option.or_eq_some_iff]
  cases before : c.interval? later with
  | some i' =>
    rw [Option.some_or, ← before, interval?_eq_some]
    exact ⟨fun ⟨starts, now⟩ =>
      ⟨starts, now.resolve_right fun now => fate_of_interval? before starts now.1⟩,
      fun ⟨starts, ended⟩ => ⟨starts, .inl ended⟩⟩
  | none =>
    rw [Option.none_or, span?_eq_some]
    refine ⟨fun ⟨starts, now⟩ => ⟨starts, now.resolve_left fun ended => ?_⟩,
      fun ⟨starts, now⟩ => ⟨starts, .inr now⟩⟩
    rw [interval?_eq_some.mpr ⟨starts, ended⟩] at before
    cases before

/-- One more change closes what it closes and leaves other intervals as they were. -/
theorem intervals_snoc (changes : List Change) (c : Change) :
    (intervals (changes ++ [c])).Perm (intervals changes ++ c.closing changes) := by
  induction changes with
  | nil =>
    have none : c.interval? [] = none := by
      cases c <;> rfl
    have closing : c.closing [] = [] := by
      unfold Change.closing standing
      cases c.closes? <;> rfl
    rw [List.nil_append, intervals_cons, none, closing]
    exact .refl _
  | cons d later ih =>
    have apart : ((d.interval? later).or (d.span? c later)).toList =
        (d.interval? later).toList ++ (d.span? c later).toList := by
      cases before : d.interval? later with
      | none => rfl
      | some i => rw [span?_of_interval? before]; rfl
    rw [List.cons_append, intervals_cons, intervals_cons, closing_cons, interval?_snoc, apart,
      List.append_assoc, List.append_assoc]
    refine .append_left _ ?_
    exact (ih.append_left _).trans (by
      rw [← List.append_assoc, ← List.append_assoc]
      exact List.perm_append_comm.append_right _)

/-- A change closes the interval of the line that is running. -/
theorem closing_perm (changes : List Change) (c : Change) : (c.closing changes).Perm
    (match c.closes? with
      | some (b, now) => ((after changes).mark? c.thread b).toList.map fun mark =>
          ⟨c.thread, b, mark.line, mark.ticks, now⟩
      | none => []) := by
  unfold Change.closing
  cases c.closes? with
  | none => exact .refl _
  | some e =>
    obtain ⟨b, now⟩ := e
    have running : ((standing c.thread changes).filter fun e => e.1 = b).Perm
        (((after changes).mark? c.thread b).toList.map fun mark => (b, mark)) := by
      rw [List.perm_ext_iff_of_nodup ((List.Nodup.of_map _ (nodup_standing _ _)).filter _)
        ((Option.toList_nodup _).map fun _ _ => congrArg Prod.snd)]
      rintro ⟨b', mark⟩
      simp only [List.mem_filter, ← mark?_after, List.mem_map, Option.mem_toList,
        decide_eq_true_eq, Prod.mk.injEq]
      constructor
      · rintro ⟨here, rfl⟩
        exact ⟨mark, here, rfl, rfl⟩
      · rintro ⟨_, here, rfl, rfl⟩
        exact ⟨here, rfl⟩
    have spans := running.map fun e : BlockHash × Mark =>
      (⟨c.thread, b, e.2.line, e.2.ticks, now⟩ : Interval)
    rwa [List.map_map] at spans

/-- Hits and ticks of intervals together. -/
def total (spans : List Interval) : Cell := spans.foldl (fun cell i => cell.charged i.length) {}

theorem total_snoc (spans : List Interval) (i : Interval) :
    total (spans ++ [i]) = (total spans).charged i.length := by
  unfold total
  rw [List.foldl_append]
  rfl

theorem total_perm {spans spans' : List Interval} (h : spans.Perm spans') :
    total spans = total spans' := by
  refine h.foldl_eq' (fun i _ i' _ cell => ?_) ({} : Cell)
  unfold Cell.charged
  rw [Counter.satAdd_right_comm cell.ticks]

/-- The hits are the number of intervals, as far as a counter goes. -/
theorem hits_total (spans : List Interval) :
    (total spans).hits.toNat = min spans.length (2 ^ 64 - 1) := by
  induction spans using List.reverseRecOn with
  | nil => rfl
  | append_singleton spans i ih =>
    have one : (1 : Counter).toNat = 1 := rfl
    rw [total_snoc, Cell.charged, Counter.toNat_satAdd, ih, List.length_append, List.length_singleton, one]
    omega

/-- The ticks are the lengths together. -/
theorem ticks_total (spans : List Interval) :
    (total spans).ticks = Counter.sum (spans.map Interval.length) := by
  induction spans using List.reverseRecOn with
  | nil => rfl
  | append_singleton spans i ih =>
    rw [total_snoc, Cell.charged, ih, Counter.sum, Counter.sum, List.map_append, List.foldl_append,
      List.map_singleton, List.foldl_cons, List.foldl_nil]

/-- The closed intervals of a line of a block. -/
def spans (changes : List Change) (b : BlockHash) (l : UInt32) : List Interval :=
  (intervals changes).filter fun i => i.block = b ∧ i.line = l

theorem cell_apply (t : Tally) (c : Change) (b : BlockHash) (l : UInt32) :
    (c.apply t).cell b l = match c.closes? with
      | some (b', now) => (t.settle c.thread b' now).cell b l
      | none => t.cell b l := by
  cases c with
  | line th b' l' now => exact cell_lineStarts _ _ _ _
  | exit th b' now => exact cell_blockLeft _ _ _
  | clear | clearThread => rfl

/-- A line's cell has what its closed intervals have. -/
theorem cell_after (changes : List Change) (b : BlockHash) (l : UInt32) :
    (after changes).cell b l = total (spans changes b l) := by
  induction changes using List.reverseRecOn with
  | nil => rfl
  | append_singleton changes c ih =>
    have closing := (intervals_snoc changes c).trans ((closing_perm changes c).append_left _)
    have step := total_perm (closing.filter fun i => i.block = b ∧ i.line = l)
    rw [after_snoc, cell_apply, spans, step, List.filter_append]
    cases c.closes? with
    | none => rw [List.filter_nil, List.append_nil]; exact ih
    | some e =>
      obtain ⟨b', now⟩ := e
      cases running : (after changes).mark? c.thread b' with
      | none =>
        simp only [running, settle_none running, Option.toList_none, List.map_nil, List.filter_nil,
          List.append_nil]
        exact ih
      | some mark =>
        simp only [running, settle_some running, cell_charge, Option.toList_some, List.map_singleton,
          List.filter_singleton]
        by_cases here : b' = b ∧ mark.line = l
        · rw [if_pos here, decide_eq_true here, cond_true, total_snoc, ih, spans, Interval.length]
        · rw [if_neg here, decide_eq_false here, cond_false, List.append_nil]
          exact ih

/-! ## What is listed -/

namespace Tidy

variable {t : Tally}

theorem apply (h : t.Tidy) (c : Change) : (c.apply t).Tidy := by
  cases c with
  | line th b l now => exact h.lineStarts th b l now
  | exit th b now => exact h.blockLeft th b now
  | clear | clearThread => exact ⟨h.cells, h.bucket⟩

theorem after (changes : List Change) : (Tally.after changes).Tidy := by
  induction changes using List.reverseRecOn with
  | nil => exact Tidy.empty
  | append_singleton changes c ih =>
    rw [after_snoc]
    exact ih.apply c

end Tidy

@[simp] theorem pending_settle (t : Tally) (th : ThreadKey) (b : BlockHash) (now : Counter) :
    (t.settle th b now).pending = t.pending := by
  unfold settle
  split <;> rfl

/-- Every block of a thread has one running line, at most. -/
theorem nodup_pending (changes : List Change) : (after changes).pending.keys.Nodup := by
  induction changes using List.reverseRecOn with
  | nil => exact List.nodup_nil
  | append_singleton changes c ih =>
    rw [after_snoc]
    have fewer (p : (ThreadKey × BlockHash) × Mark → Bool) :
        (((after changes).pending.entries.filter p).map Prod.fst).Nodup :=
      ih.sublist (List.filter_sublist.map _)
    cases c with
    | line th b l now =>
      refine Assoc.nodup_keys_set ?_ _ _
      rw [pending_settle]
      exact ih
    | exit th b now =>
      have left : ((after changes).blockLeft th b now).pending = (after changes).pending.erase (th, b) :=
        congrArg (Assoc.erase · (th, b)) (pending_settle _ th b now)
      rw [Change.apply, left]
      exact fewer _
    | clear | clearThread => exact fewer _

/-- What is pending on a thread is what stands there. -/
theorem pendingOn_after (th : ThreadKey) (changes : List Change) :
    ((after changes).pendingOn th).Perm (standing th changes) := by
  have once : ((after changes).pendingOn th).Nodup := by
    unfold pendingOn
    refine List.Nodup.map_on ?_ ((List.Nodup.of_map _ (nodup_pending changes)).filter _)
    rintro ⟨⟨th', b⟩, mark⟩ here ⟨⟨th'', b'⟩, mark'⟩ here' same
    have at_th := of_decide_eq_true (List.mem_filter.mp here).2
    have at_th' := of_decide_eq_true (List.mem_filter.mp here').2
    simp only at at_th at_th' same
    obtain ⟨rfl, rfl⟩ := Prod.mk.inj same
    rw [at_th, at_th']
  rw [List.perm_ext_iff_of_nodup once (List.Nodup.of_map _ (nodup_standing th changes))]
  rintro ⟨b, mark⟩
  rw [← mark?_after, mark?, ← Assoc.mem_entries_iff (nodup_pending changes)]
  simp [pendingOn]

/-- A line is listed if it has closed intervals, under its own number, with what they have. -/
theorem mem_samples_after (changes : List Change) (s : Sample) :
    s ∈ (after changes).samples ↔ ∃ b, spans changes b s.line ≠ [] ∧ s.identity = b.line s.line ∧
      s.cell = total (spans changes b s.line) := by
  have hit (b : BlockHash) (l : UInt32) : 0 < (total (spans changes b l)).hits ↔ spans changes b l ≠ [] := by
    rw [UInt64.lt_iff_toNat_lt, hits_total, ← List.length_pos_iff]
    have zero : (0 : Counter).toNat = 0 := rfl
    omega
  rw [mem_samples (Tidy.after changes), cell_after]
  constructor
  · rintro ⟨shown, some⟩
    rw [← shown, hit] at some
    exact ⟨_, some, (LineIdentity.line_block _ _).symm, shown.symm⟩
  · rintro ⟨b, some, named, shown⟩
    rw [named, LineIdentity.block_line, shown, hit]
    exact ⟨rfl, some⟩

/-! ## Threads apart -/

/-- The changes that are made on a thread. -/
def ownChanges (th : ThreadKey) (changes : List Change) : List Change :=
  changes.filter fun c => c.thread = th

theorem ownChanges_cons (th : ThreadKey) (c : Change) (later : List Change) :
    ownChanges th (c :: later) =
      if c.thread = th then c :: ownChanges th later else ownChanges th later := by
  unfold ownChanges
  rw [List.filter_cons]
  simp only [decide_eq_true_eq]

/-- What becomes of a line is decided on its thread. -/
theorem fate_ownChanges (th : ThreadKey) (b : BlockHash) (later : List Change) :
    fate th b (ownChanges th later) = fate th b later := by
  induction later with
  | nil => rfl
  | cons c later ih =>
    unfold fate at ih ⊢
    rw [ownChanges_cons, List.findSome?_cons]
    by_cases here : c.thread = th
    · rw [if_pos here, List.findSome?_cons, ih]
    · rw [if_neg here, ih, Change.ends?_other here]

theorem stays?_ownChanges (th : ThreadKey) (c : Change) (later : List Change) :
    c.stays? th (ownChanges th later) = c.stays? th later := by
  cases c with
  | line => simp only [Change.stays?, fate_ownChanges]
  | exit | clear | clearThread => rfl

theorem standing_ownChanges (th : ThreadKey) (changes : List Change) :
    standing th (ownChanges th changes) = standing th changes := by
  induction changes with
  | nil => rfl
  | cons c later ih =>
    rw [ownChanges_cons, standing_cons]
    by_cases here : c.thread = th
    · rw [if_pos here, standing_cons, stays?_ownChanges, ih]
    · have none : c.stays? th later = none := by
        cases c with
        | line => exact if_neg fun same => here same.1
        | exit | clear | clearThread => rfl
      rw [if_neg here, ih, none, Option.toList_none, List.nil_append]

theorem interval?_ownChanges (c : Change) (later : List Change) :
    c.interval? (ownChanges c.thread later) = c.interval? later := by
  cases c with
  | line th => simp only [Change.interval?, Change.thread, fate_ownChanges]
  | exit | clear | clearThread => rfl

theorem thread_of_interval? {c : Change} {later : List Change} {i : Interval}
    (h : c.interval? later = some i) : i.thread = c.thread := by
  rw [Change.starts?_eq_some.mp (interval?_eq_some.mp h).1]
  rfl

/-- The intervals of a thread are those of its own changes. -/
theorem intervals_ownChanges (th : ThreadKey) (changes : List Change) :
    intervals (ownChanges th changes) = (intervals changes).filter fun i => i.thread = th := by
  induction changes with
  | nil => rfl
  | cons c later ih =>
    rw [ownChanges_cons, intervals_cons, List.filter_append, ← ih]
    by_cases here : c.thread = th
    · subst here
      rw [if_pos rfl, intervals_cons, interval?_ownChanges]
      congr 1
      refine (List.filter_eq_self.mpr fun i mem => ?_).symm
      exact decide_eq_true (thread_of_interval? (Option.mem_toList.mp mem))
    · rw [if_neg here]
      have none : ((c.interval? later).toList.filter fun i => i.thread = th) = [] :=
        List.filter_eq_nil_iff.mpr fun i mem same => here <|
          (thread_of_interval? (Option.mem_toList.mp mem)).symm.trans (of_decide_eq_true same)
      rw [none, List.nil_append]

variable {changes changes' : List Change}

/-- Changes that are the same thread by thread have the same intervals. -/
theorem intervals_perm (h : ∀ th, ownChanges th changes = ownChanges th changes') :
    (intervals changes).Perm (intervals changes') := by
  rw [List.perm_iff_count]
  intro i
  have own (changes : List Change) :
      (intervals changes).count i = (intervals (ownChanges i.thread changes)).count i := by
    rw [intervals_ownChanges]
    exact (List.count_filter (p := fun i' : Interval => i'.thread = i.thread)
      (decide_eq_true rfl)).symm
  rw [own, h, ← own]

/-- The order in which threads take turns does not show. -/
theorem same_of_ownChanges (h : ∀ th, ownChanges th changes = ownChanges th changes') :
    Same (after changes') (after changes) where
  cell b l := by
    rw [cell_after, cell_after]
    exact total_perm ((intervals_perm h).filter _)
  mark? th b := Option.ext fun mark => by
    rw [mark?_after, mark?_after, ← standing_ownChanges, h, standing_ownChanges]

/-- **A tally counts intervals.** After any changes, on any threads and with any times, a line of a
block has as many hits as it has closed intervals, as far as a counter goes, and ticks as their
lengths together; each is listed under its own line, also where another line has the same identity;
what is pending are the open lines; and only the changes of each thread matter, not how the threads
take turns. -/
theorem counts_intervals (changes : List Change) :
    (∀ b l, ((after changes).cell b l).hits.toNat = min (spans changes b l).length (2 ^ 64 - 1) ∧
      ((after changes).cell b l).ticks = Counter.sum ((spans changes b l).map Interval.length)) ∧
    (after changes).samples.Nodup ∧
    (∀ s, s ∈ (after changes).samples ↔ ∃ b, spans changes b s.line ≠ [] ∧
      s.identity = b.line s.line ∧ s.cell = (after changes).cell b s.line) ∧
    (∀ th, ((after changes).pendingOn th).Perm (standing th changes)) ∧
    ∀ changes', (∀ th, ownChanges th changes' = ownChanges th changes) →
      (after changes').samples.Perm (after changes).samples ∧
      ∀ th, ((after changes').pendingOn th).Perm ((after changes).pendingOn th) := by
  refine ⟨fun b l => ?_, nodup_samples (Tidy.after changes), fun s => ?_,
    fun th => pendingOn_after th changes, fun changes' h => ⟨?_, fun th => ?_⟩⟩
  · rw [cell_after]
    exact ⟨hits_total _, ticks_total _⟩
  · rw [mem_samples_after]
    simp only [cell_after]
  · exact ((same_of_ownChanges h).samples (Tidy.after _) (Tidy.after _)).symm
  · have open' : standing th changes' = standing th changes := by
      rw [← standing_ownChanges, h, standing_ownChanges]
    exact ((pendingOn_after th changes').trans (.of_eq open')).trans (pendingOn_after th changes).symm

/-- Two threads in lines of the same identity: their turns do not matter, and the lines are listed
apart. -/
theorem counts_intervals_of_turns :
    let alone : List Change := [.line 1 0 3 10, .exit 1 0 25, .line 2 1 2 5, .exit 2 1 9]
    let turns : List Change := [.line 2 1 2 5, .line 1 0 3 10, .exit 2 1 9, .exit 1 0 25]
    (∀ th, ownChanges th turns = ownChanges th alone) ∧
      (after turns).samples.Perm (after alone).samples ∧
      (after alone).samples = [⟨3, 3, ⟨1, 15⟩⟩, ⟨3, 2, ⟨1, 4⟩⟩] := by
  intro alone turns
  have own : ∀ th, ownChanges th turns = ownChanges th alone := by
    intro th
    by_cases first : 1 = th
    · subst first
      rfl
    · by_cases second : 2 = th <;>
        simp [turns, alone, ownChanges, Change.thread, first, second]
  exact ⟨own, ((counts_intervals alone).2.2.2.2 turns own).1, by decide⟩

end Tally

end LineClock

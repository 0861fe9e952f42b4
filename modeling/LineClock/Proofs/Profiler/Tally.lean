import LineClock.Profiler
import LineClock.Proofs.Counter

/-!
# Reading a tally

What a tally shows is, for each line of a block, a cell, and for each block on each thread the line
that is still running.

Main statements: what both are after a line started and after a block was left, and
`Settles.lineStarts`, `Settles.blockLeft`, `Settles.forgetThread` and `Settles.trans` for all that is
recorded at one moment.
-/

namespace LineClock

/-- Lines of the same number belong to blocks of the same identity. -/
theorem BlockHash.line_inj {block block' : BlockHash} {line : UInt32}
    (h : block.line line = block'.line line) : block = block' := by
  rw [← LineIdentity.block_line block line, h, LineIdentity.block_line]

/-- A cell after one more hit that took some ticks. -/
def Cell.charged (c : Cell) (ticks : Counter) : Cell :=
  { hits := c.hits.satAdd 1, ticks := c.ticks.satAdd ticks }

namespace Tally

/-- Hits and ticks of a line of a block. -/
def cell (t : Tally) (block : BlockHash) (line : UInt32) : Cell :=
  (t.get? (block.line line) line).getD {}

/-- The line of a block that is still running on a thread. -/
def mark? (t : Tally) (thread : ThreadKey) (block : BlockHash) : Option Mark :=
  t.pending.get? (thread, block)

variable {t : Tally} {thread : ThreadKey} {block : BlockHash}

@[simp] theorem mark?_charge (b : BlockHash) (mark : Mark) (now : Counter) :
    (t.charge b mark now).mark? thread block = t.mark? thread block := rfl

theorem cell_charge (mark : Mark) (now : Counter) (block' : BlockHash) (line : UInt32) :
    (t.charge block mark now).cell block' line =
      if block = block' ∧ mark.line = line then
        (t.cell block' line).charged (now.satSub mark.ticks)
      else t.cell block' line := by
  unfold charge credit cell get?
  rw [Assoc.get?_set]
  split
  · rename_i same
    rw [Option.bind_some, Assoc.get?_set]
    split
    · rename_i at_line
      subst at_line
      cases BlockHash.line_inj same
      rw [if_pos ⟨rfl, rfl⟩]
      unfold Assoc.getD Assoc.get?
      cases Assoc.find? (block.line mark.line) t.cells.entries <;> rfl
    · rename_i other
      rw [if_neg fun h => other h.2, ← same]
      unfold Assoc.getD Assoc.get?
      cases Assoc.find? (block.line mark.line) t.cells.entries <;> rfl
  · rename_i other
    rw [if_neg]
    rintro ⟨rfl, rfl⟩
    exact other rfl

theorem settle_none {now : Counter} (h : t.mark? thread block = none) :
    t.settle thread block now = t := by
  unfold mark? at h
  unfold settle
  rw [h]

theorem settle_some {mark : Mark} {now : Counter} (h : t.mark? thread block = some mark) :
    t.settle thread block now = t.charge block mark now := by
  unfold mark? at h
  unfold settle
  rw [h]

theorem mark?_settle (th th' : ThreadKey) (b b' : BlockHash) (now : Counter) :
    (t.settle th b now).mark? th' b' = t.mark? th' b' := by
  cases h : t.mark? th b with
  | none => rw [settle_none h]
  | some mark => rw [settle_some h, mark?_charge]

theorem mark?_lineStarts (line : UInt32) (now : Counter) (thread' : ThreadKey)
    (block' : BlockHash) :
    (t.lineStarts thread block line now).mark? thread' block' =
      if thread = thread' ∧ block = block' then some ⟨line, now⟩ else t.mark? thread' block' := by
  have put : (t.lineStarts thread block line now).mark? thread' block' =
    if (thread, block) = (thread', block') then some ⟨line, now⟩
    else (t.settle thread block now).mark? thread' block' := Assoc.get?_set _ _ _ _
  rw [put, mark?_settle]
  simp only [Prod.mk.injEq]

theorem mark?_blockLeft (now : Counter) (thread' : ThreadKey) (block' : BlockHash) :
    (t.blockLeft thread block now).mark? thread' block' =
      if thread = thread' ∧ block = block' then none else t.mark? thread' block' := by
  have gone : (t.blockLeft thread block now).mark? thread' block' =
    if (thread, block) = (thread', block') then none
    else (t.settle thread block now).mark? thread' block' := Assoc.get?_erase _ _ _
  rw [gone, mark?_settle]
  simp only [Prod.mk.injEq]

theorem mark?_forgetThread (t : Tally) (th th' : ThreadKey) (b : BlockHash) :
    (t.forgetThread th).mark? th' b = if th = th' then none else t.mark? th' b := by
  unfold forgetThread mark? Assoc.get?
  simp only
  induction t.pending.entries with
  | nil => simp [Assoc.find?]
  | cons e rest ih =>
    obtain ⟨⟨th₀, b₀⟩, m⟩ := e
    by_cases same : th = th'
    · subst same
      by_cases here : th₀ = th
      · simpa [here] using ih
      · simpa [here, Assoc.find?] using ih
    · rw [if_neg same] at ih ⊢
      by_cases here : th₀ = th
      · subst here
        simpa [Assoc.find?, same] using ih
      · simp only [ne_eq, here, not_false_eq_true, decide_true, List.filter_cons_of_pos, Assoc.find?]
        rw [ih]

@[simp] theorem cell_lineStarts (line : UInt32) (now : Counter) (block' : BlockHash)
    (line' : UInt32) : (t.lineStarts thread block line now).cell block' line' =
      (t.settle thread block now).cell block' line' := rfl

@[simp] theorem cell_blockLeft (now : Counter) (block' : BlockHash) (line' : UInt32) :
    (t.blockLeft thread block now).cell block' line' =
      (t.settle thread block now).cell block' line' := rfl

/-- A block's cells change only if the block is settled. -/
theorem cell_settle_ne {now : Counter} {block' : BlockHash} (h : block ≠ block') (line : UInt32) :
    (t.settle thread block now).cell block' line = t.cell block' line := by
  cases there : t.mark? thread block with
  | none => rw [settle_none there]
  | some mark => rw [settle_some there, cell_charge, if_neg fun same => h same.1]

/-- Where no block has a running line, nothing is pending. -/
theorem pendingOn_eq_nil {th : ThreadKey} (h : ∀ b, t.mark? th b = none) : t.pendingOn th = [] := by
  unfold pendingOn
  rw [List.map_eq_nil_iff, List.filter_eq_nil_iff]
  rintro ⟨⟨th', b⟩, mark⟩ mem here
  have same : th' = th := of_decide_eq_true here
  subst same
  have absent := (Assoc.get?_eq_none_iff t.pending (th', b)).mp (h b)
  exact absent (List.mem_map.mpr ⟨_, mem, rfl⟩)

/-! ## Tallies that show the same -/

/-- Tallies that show the same cells and the same running lines. -/
structure Same (t t' : Tally) : Prop where
  cell : ∀ block line, t'.cell block line = t.cell block line
  mark? : ∀ thread block, t'.mark? thread block = t.mark? thread block

theorem Same.refl (t : Tally) : Same t t := ⟨fun _ _ => rfl, fun _ _ => rfl⟩

theorem Same.trans {t t' t'' : Tally} (h : Same t t') (h' : Same t' t'') : Same t t'' :=
  ⟨fun b l => (h'.cell b l).trans (h.cell b l), fun th b => (h'.mark? th b).trans (h.mark? th b)⟩

/-- Room for a line does not show. -/
theorem same_reserve (t : Tally) (identity : LineIdentity) : Same t (t.reserve identity) := by
  unfold reserve
  split
  · exact Same.refl t
  · rename_i absent
    refine ⟨fun block line => ?_, fun _ _ => rfl⟩
    unfold cell get?
    rw [Assoc.get?_set]
    split
    · rename_i same
      unfold Assoc.contains at absent
      rw [Bool.not_eq_true, Option.isSome_eq_false_iff, Option.isNone_iff_eq_none, same] at absent
      rw [absent]
      rfl
    · rfl

theorem same_reserveAll (block : BlockHash) (lines : List UInt32) (t : Tally) :
    Same t (lines.foldl (fun t l => t.reserve (block.line l)) t) := by
  induction lines generalizing t with
  | nil => exact Same.refl t
  | cons line rest ih => exact (same_reserve t _).trans (ih _)

namespace Same

variable {t t' : Tally}

theorem settle (h : Same t t') (thread : ThreadKey) (block : BlockHash) (now : Counter) :
    Same (t.settle thread block now) (t'.settle thread block now) := by
  refine ⟨fun b l => ?_, fun th b => ?_⟩
  · cases there : t.mark? thread block with
    | none =>
      rw [settle_none there, settle_none ((h.mark? thread block).trans there)]
      exact h.cell b l
    | some mark =>
      rw [settle_some there, settle_some ((h.mark? thread block).trans there), cell_charge,
        cell_charge, h.cell b l]
  · rw [mark?_settle, mark?_settle]
    exact h.mark? th b

theorem lineStarts (h : Same t t') (thread : ThreadKey) (block : BlockHash) (line : UInt32)
    (now : Counter) :
    Same (t.lineStarts thread block line now) (t'.lineStarts thread block line now) := by
  refine ⟨fun b l => (h.settle thread block now).cell b l, fun th b => ?_⟩
  rw [mark?_lineStarts, mark?_lineStarts, h.mark? th b]

theorem blockLeft (h : Same t t') (thread : ThreadKey) (block : BlockHash) (now : Counter) :
    Same (t.blockLeft thread block now) (t'.blockLeft thread block now) := by
  refine ⟨fun b l => (h.settle thread block now).cell b l, fun th b => ?_⟩
  rw [mark?_blockLeft, mark?_blockLeft, h.mark? th b]

end Same

/-! ## Tidy tallies -/

/-- Every line identity has one bucket, and every line one cell in it. -/
structure Tidy (t : Tally) : Prop where
  cells : t.cells.keys.Nodup
  bucket : ∀ identity bucket, t.cells.get? identity = some bucket → bucket.keys.Nodup

namespace Tidy

variable {t : Tally}

theorem empty : Tidy {} := ⟨List.nodup_nil, fun _ _ h => by cases h⟩

theorem set (h : t.Tidy) (identity : LineIdentity) {bucket : Assoc UInt32 Cell}
    (keys : bucket.keys.Nodup) : Tidy { t with cells := t.cells.set identity bucket } := by
  refine ⟨Assoc.nodup_keys_set h.cells identity bucket, fun i b found => ?_⟩
  simp only [Assoc.get?_set] at found
  split at found
  · cases found
    exact keys
  · exact h.bucket i b found

theorem reserve (h : t.Tidy) (identity : LineIdentity) : (t.reserve identity).Tidy := by
  unfold Tally.reserve
  split
  · exact h
  · exact h.set identity List.nodup_nil

theorem reserveAll (h : t.Tidy) (block : BlockHash) (lines : List UInt32) :
    (lines.foldl (fun t l => t.reserve (block.line l)) t).Tidy := by
  induction lines generalizing t with
  | nil => exact h
  | cons line rest ih => exact ih (h.reserve _)

theorem charge (h : t.Tidy) (block : BlockHash) (mark : Mark) (now : Counter) :
    (t.charge block mark now).Tidy := by
  refine h.set _ (Assoc.nodup_keys_set ?_ _ _)
  unfold Assoc.getD
  cases found : t.cells.get? (block.line mark.line) with
  | none => exact List.nodup_nil
  | some bucket => exact h.bucket _ bucket found

theorem settle (h : t.Tidy) (thread : ThreadKey) (block : BlockHash) (now : Counter) :
    (t.settle thread block now).Tidy := by
  unfold Tally.settle
  split
  · exact h.charge block _ now
  · exact h

theorem lineStarts (h : t.Tidy) (thread : ThreadKey) (block : BlockHash) (line : UInt32)
    (now : Counter) : (t.lineStarts thread block line now).Tidy :=
  ⟨(h.settle thread block now).cells, (h.settle thread block now).bucket⟩

theorem blockLeft (h : t.Tidy) (thread : ThreadKey) (block : BlockHash) (now : Counter) :
    (t.blockLeft thread block now).Tidy :=
  ⟨(h.settle thread block now).cells, (h.settle thread block now).bucket⟩

end Tidy

/-!
## Recording at one moment

All that a tally hears on one thread while the clock stands still. However often a block is settled
meanwhile, each of its lines gets the ticks that were open at the beginning at most once.
-/

/-- What recording on a thread at one moment may do to a tally: on other threads the same lines go on
running; a block whose running line stays gets no ticks; and where the running line changes, it gets
at most the ticks since it started, once, and no line runs since another moment than this. -/
structure Settles (thread : ThreadKey) (now : Counter) (t t' : Tally) : Prop where
  others : ∀ th, th ≠ thread → ∀ block, t'.mark? th block = t.mark? th block
  here : ∀ block,
    (t'.mark? thread block = t.mark? thread block ∧
      ∀ line, (t'.cell block line).ticks = (t.cell block line).ticks) ∨
    ((∀ mark, t'.mark? thread block = some mark → mark.ticks = now) ∧
      ∀ line, (t'.cell block line).ticks = (t.cell block line).ticks ∨
        ∃ mark, t.mark? thread block = some mark ∧ mark.line = line ∧
          (t'.cell block line).ticks = (t.cell block line).ticks.satAdd (now.satSub mark.ticks))

namespace Settles

variable {now : Counter} {t' t'' : Tally}

theorem of_same (h : Same t t') : Settles thread now t t' :=
  ⟨fun th _ b => h.mark? th b, fun b => .inl ⟨h.mark? thread b, fun l => congrArg Cell.ticks (h.cell b l)⟩⟩

/-- What was charged up to this moment is not charged again: there is nothing left to charge. -/
theorem trans (h : Settles thread now t t') (h' : Settles thread now t' t'') :
    Settles thread now t t'' := by
  refine ⟨fun th away b => (h'.others th away b).trans (h.others th away b), fun b => ?_⟩
  have none : now.satSub now = 0 := by
    rw [← UInt64.toNat_inj, Counter.toNat_satSub, Nat.sub_self]
    rfl
  rcases h.here b with ⟨stays, ticks⟩ | ⟨fresh, ticks⟩
  · rcases h'.here b with ⟨stays', ticks'⟩ | ⟨fresh', ticks'⟩
    · exact .inl ⟨stays'.trans stays, fun l => (ticks' l).trans (ticks l)⟩
    · refine .inr ⟨fresh', fun l => ?_⟩
      rw [← stays, ← ticks l]
      exact ticks' l
  · refine .inr ⟨fun mark running => ?_, fun l => ?_⟩
    · rcases h'.here b with ⟨stays', -⟩ | ⟨fresh', -⟩
      · exact fresh mark (stays' ▸ running)
      · exact fresh' mark running
    · have same : (t''.cell b l).ticks = (t'.cell b l).ticks := by
        rcases h'.here b with ⟨-, ticks'⟩ | ⟨-, ticks'⟩
        · exact ticks' l
        · rcases ticks' l with same | ⟨mark, running, -, charged⟩
          · exact same
          · rw [charged, fresh mark running, none, Counter.satAdd_zero]
      rw [same]
      exact ticks l

/-- A block is settled, and then a line of it starts now or none runs. -/
theorem of_settle {r : Tally} (cells : ∀ b l, r.cell b l = (t.settle thread block now).cell b l)
    (others : ∀ th b, ¬ (thread = th ∧ block = b) → r.mark? th b = t.mark? th b)
    (fresh : ∀ mark, r.mark? thread block = some mark → mark.ticks = now) :
    Settles thread now t r := by
  refine ⟨fun th away b => others th b fun same => away same.1.symm, fun b => ?_⟩
  by_cases this : block = b
  · subst this
    refine .inr ⟨fresh, fun l => ?_⟩
    rw [cells]
    cases there : t.mark? thread block with
    | none =>
      rw [settle_none there]
      exact .inl rfl
    | some mark =>
      rw [settle_some there, cell_charge]
      by_cases at_line : mark.line = l
      · rw [if_pos ⟨rfl, at_line⟩]
        exact .inr ⟨mark, rfl, at_line, rfl⟩
      · rw [if_neg fun same => at_line same.2]
        exact .inl rfl
  · refine .inl ⟨others thread b fun same => this same.2, fun l => ?_⟩
    rw [cells, cell_settle_ne this]

theorem lineStarts (t : Tally) (thread : ThreadKey) (block : BlockHash) (line : UInt32)
    (now : Counter) : Settles thread now t (t.lineStarts thread block line now) := by
  refine of_settle (fun b l => (rfl : _ = (t.settle thread block now).cell b l))
    (fun th b other => ?_) fun mark running => ?_
  · rw [mark?_lineStarts, if_neg other]
  · rw [mark?_lineStarts, if_pos ⟨rfl, rfl⟩] at running
    cases running
    rfl

theorem blockLeft (t : Tally) (thread : ThreadKey) (block : BlockHash) (now : Counter) :
    Settles thread now t (t.blockLeft thread block now) := by
  refine of_settle (fun b l => (rfl : _ = (t.settle thread block now).cell b l))
    (fun th b other => ?_) fun mark running => ?_
  · rw [mark?_blockLeft, if_neg other]
  · rw [mark?_blockLeft, if_pos ⟨rfl, rfl⟩] at running
    cases running

theorem forgetThread (t : Tally) (thread : ThreadKey) (now : Counter) :
    Settles thread now t (t.forgetThread thread) := by
  refine ⟨fun th away b => ?_, fun b => .inr ⟨fun mark running => ?_, fun _ => .inl rfl⟩⟩
  · rw [mark?_forgetThread, if_neg (Ne.symm away)]
  · rw [mark?_forgetThread, if_pos rfl] at running
    cases running

end Settles

/-- Where nothing is pending, no block has a running line. -/
theorem mark?_of_pendingOn {th : ThreadKey} (h : t.pendingOn th = []) (b : BlockHash) :
    t.mark? th b = none := by
  unfold mark?
  rw [Assoc.get?_eq_none_iff]
  intro listed
  obtain ⟨⟨⟨th', b'⟩, mark⟩, mem, key⟩ := List.mem_map.mp listed
  cases key
  unfold pendingOn at h
  rw [List.map_eq_nil_iff, List.filter_eq_nil_iff] at h
  exact h _ mem (decide_eq_true rfl)

end Tally

end LineClock

import LineClock.Proofs.Ordered
import LineClock.Proofs.Profiler.Intervals
import LineClock.Proofs.Profiler.Watch
import LineClock.Proofs.Snapshot.Standard

/-!
# Filed counts

A profiler in a state that its own operations reach has `Recorded` some changes of its tally: those
of the lines and exits of the blocks it watched. It is `Orderly`: its sites are in order, each with
the identities that are watched there and each of those once. So its cells are told by the changes,
and the rows of a site by the cells of the identities that are filed there.

Main statements: `Recorded.orderly`, `Recorded.cell` and `Recorded.mem_rowsAt`.
-/

namespace LineClock

namespace Tally

theorem Same.apply {t t' : Tally} (h : Same t t') (c : Change) : Same (c.apply t) (c.apply t') := by
  refine ⟨fun b l => ?_, fun th b => ?_⟩
  · rw [cell_apply, cell_apply]
    cases c.closes? with
    | none => exact h.cell b l
    | some e => exact (h.settle c.thread e.1 e.2).cell b l
  · rw [mark?_apply, mark?_apply, h.mark? th b]

theorem Same.applyAll {t t' : Tally} (h : Same t t') (changes : List Change) :
    Same (changes.foldl Change.apply t) (changes.foldl Change.apply t') := by
  induction changes generalizing t t' with
  | nil => exact h
  | cons c rest ih => exact ih (h.apply c)

/-- Intervals that make no hit make no ticks. -/
theorem ticks_of_hits {spans : List Interval} (none : (total spans).hits = 0) :
    (total spans).ticks = 0 := by
  have count := hits_total spans
  rw [none] at count
  have zero : (0 : Counter).toNat = 0 := rfl
  have empty : spans = [] := List.eq_nil_of_length_eq_zero (by omega)
  rw [empty]
  rfl

end Tally

namespace Profiler

open Machine

/-! ## Reached states -/

/-- What an operation of a profiler makes of it, and how its tally is changed by that. Lines and exits
of blocks that are not watched change nothing. -/
inductive Step : Profiler → List Tally.Change → Profiler → Prop where
  | watch (files : Files) (block : Block) (p : Profiler) :
    Step p [] (answer (Profiler.watch files block) p).2
  | addRoutine (routine : RoutineId) (p : Profiler) : Step p [] (p.addRoutine routine)
  | lineStarts (thread : ThreadKey) (block : BlockHash) (line : UInt32) (now : Counter)
      (p : Profiler) :
    Step p (if p.watches block then [.line thread block line now] else [])
      (p.lineStarts thread block line now)
  | blockLeft (thread : ThreadKey) (block : BlockHash) (now : Counter) (p : Profiler) :
    Step p (if p.watches block then [.exit thread block now] else []) (p.blockLeft thread block now)
  | forgetThread (thread : ThreadKey) (p : Profiler) :
    Step p [.clearThread thread] { p with tally := p.tally.forgetThread thread }

/-- A profiler as its operations leave it, from a new one on, with all changes of its tally. -/
inductive Recorded : Profiler → List Tally.Change → Prop where
  | new (registry : RegistryId) (wrap : Bool) (clock : Timepiece) (sources : Sources) :
    Recorded { registry, wrap, clock, sources } []
  | next {p p' : Profiler} {changes more : List Tally.Change} (before : Recorded p changes)
    (step : Step p more p') : Recorded p' (changes ++ more)

/-- A state that the operations of a profiler can reach. -/
def Reached (p : Profiler) : Prop := ∃ changes, p.Recorded changes

theorem Reached.next {p p' : Profiler} {more : List Tally.Change} (h : p.Reached)
    (step : Step p more p') : p'.Reached := by
  obtain ⟨changes, before⟩ := h
  exact ⟨changes ++ more, before.next step⟩

/-! ## Entering a block -/

/-- The identities of a site, with another one behind them unless it is among them. -/
def joined (hash : BlockHash) (before : Option (List BlockHash)) : List BlockHash :=
  if (before.getD []).contains hash then before.getD [] else before.getD [] ++ [hash]

theorem mem_joined {hash b : BlockHash} {before : Option (List BlockHash)} :
    b ∈ joined hash before ↔ b ∈ before.getD [] ∨ b = hash := by
  unfold joined
  split
  · rename_i inside
    have there := List.contains_iff_mem.mp inside
    exact ⟨.inl, fun h => h.elim id fun same => same ▸ there⟩
  · rw [List.mem_append, List.mem_singleton]

theorem nodup_joined {before : Option (List BlockHash)} (once : (before.getD []).Nodup)
    (hash : BlockHash) : (joined hash before).Nodup := by
  unfold joined
  split
  · exact once
  · rename_i absent
    refine List.nodup_append.mpr ⟨once, List.nodup_singleton hash, fun a inside b last => ?_⟩
    rw [List.mem_singleton.mp last]
    rintro rfl
    exact absent (List.contains_iff_mem.mpr inside)

/-- A block that was not watched stands at its site, and all others where they stood. -/
theorem standsAt_enter {p : Profiler} {block : Block} {lines : List UInt32} {site : Site}
    {b : BlockHash} (fresh : p.watches block.identity = false) :
    (p.enter block lines).standsAt site b ↔
      (b = block.identity ∧ Site.ofBlock block = site) ∨ p.standsAt site b := by
  have unknown := (p.watches_eq_false_iff block.identity).mp fresh
  have blocks : (p.enter block lines).blocks =
      p.blocks.set block.identity ⟨Site.ofBlock block, lines⟩ := rfl
  unfold standsAt
  rw [blocks, Assoc.get?_set]
  by_cases same : block.identity = b
  · rw [same] at unknown
    simp [same, unknown]
  · simp [same, Ne.symm same]

/-! ## Order -/

/-- Sites in order, with the identities that are watched there, and cells in order. -/
structure Orderly (p : Profiler) : Prop where
  sites : p.sites.Sorted
  once : ∀ site hashes, p.sites.get? site = some hashes → hashes.Nodup
  stands : ∀ site block,
    p.standsAt site block ↔ ∃ hashes, p.sites.get? site = some hashes ∧ block ∈ hashes
  tidy : p.tally.Tidy

namespace Orderly

variable {p p' : Profiler} {more : List Tally.Change}

/-- Order is about the catalogue and the cells. -/
theorem congr (h : p.Orderly) (blocks : p'.blocks = p.blocks) (sites : p'.sites = p.sites)
    (tidy : p'.tally.Tidy) : p'.Orderly := by
  refine ⟨sites ▸ h.sites, fun site hashes => sites ▸ h.once site hashes, fun site block => ?_,
    tidy⟩
  unfold standsAt
  rw [blocks, sites]
  exact h.stands site block

theorem mem_filed (h : p.Orderly) {site : Site} {b : BlockHash} :
    p.standsAt site b ↔ b ∈ (p.sites.get? site).getD [] := by
  rw [h.stands]
  cases p.sites.get? site <;> simp

theorem nodup_filed (h : p.Orderly) (site : Site) : ((p.sites.get? site).getD []).Nodup := by
  cases there : p.sites.get? site with
  | none => exact List.nodup_nil
  | some hashes => exact h.once site hashes there

theorem filed_enter (h : p.Orderly) (block : Block) (lines : List UInt32) (site : Site) :
    (p.enter block lines).sites.get? site =
      if Site.ofBlock block = site then some (joined block.identity (p.sites.get? site))
      else p.sites.get? site := by
  have altered := h.sites.get?_alter (Site.ofBlock block) site (joined block.identity)
  by_cases here : Site.ofBlock block = site
  · rw [if_pos here] at altered ⊢
    rw [← here] at altered ⊢
    exact altered
  · rw [if_neg here] at altered ⊢
    exact altered

theorem enter (h : p.Orderly) (block : Block) (fresh : p.watches block.identity = false)
    (lines : List UInt32) : (p.enter block lines).Orderly := by
  refine ⟨h.sites.alter _ _, fun site hashes found => ?_, fun site b => ?_, h.tidy.reserveAll _ _⟩
  · rw [h.filed_enter] at found
    split at found
    · cases found
      exact nodup_joined (h.nodup_filed site) block.identity
    · exact h.once site hashes found
  · rw [standsAt_enter fresh, h.filed_enter, h.mem_filed]
    by_cases here : Site.ofBlock block = site
    · simp only [here, and_true, if_true, Option.some.injEq, exists_eq_left', mem_joined]
      exact or_comm
    · simp only [here, and_false, false_or, if_false]
      rw [← h.mem_filed]
      exact h.stands site b

theorem step (h : p.Orderly) (step : Step p more p') : p'.Orderly := by
  cases step with
  | watch files block =>
    have cases := watch_cases files block p
    generalize answer (Profiler.watch files block) p = r at cases
    cases cases with
    | already known => exact h
    | failed error sources => exact h.congr rfl rfl h.tidy
    | entered fresh sources lines =>
      have searched : ({ p with sources } : Profiler).Orderly := h.congr rfl rfl h.tidy
      exact searched.enter block fresh lines
  | addRoutine routine =>
    rw [addRoutine_eq]
    exact h.congr rfl rfl h.tidy
  | lineStarts thread block line now =>
    unfold Profiler.lineStarts
    split
    · exact h.congr rfl rfl (h.tidy.lineStarts thread block line now)
    · exact h
  | blockLeft thread block now =>
    unfold Profiler.blockLeft
    split
    · exact h.congr rfl rfl (h.tidy.blockLeft thread block now)
    · exact h
  | forgetThread thread => exact h.congr rfl rfl ⟨h.tidy.cells, h.tidy.bucket⟩

end Orderly

/-- **Every reached state is orderly.** -/
theorem Recorded.orderly {p : Profiler} {changes : List Tally.Change} (h : p.Recorded changes) :
    p.Orderly := by
  induction h with
  | new registry wrap clock sources =>
    refine ⟨Ordered.sorted_empty, (fun _ _ found => nomatch found), fun site block => ?_,
      Tally.Tidy.empty⟩
    rw [standsAt_iff]
    constructor
    · rintro ⟨w, found, -⟩
      cases found
    · rintro ⟨hashes, found, -⟩
      cases found
  | next before step ih => exact ih.step step

/-! ## Changes -/

/-- A step changes the tally as it says. -/
theorem Step.same {p p' : Profiler} {more : List Tally.Change} (h : Step p more p') :
    Tally.Same (more.foldl Tally.Change.apply p.tally) p'.tally := by
  cases h with
  | watch files block => exact (watch_enriched files block p).tally
  | addRoutine routine =>
    exact (Enriched.addRoutine p routine).tally
  | lineStarts thread block line now =>
    unfold Profiler.lineStarts
    split <;> exact .refl _
  | blockLeft thread block now =>
    unfold Profiler.blockLeft
    split <;> exact .refl _
  | forgetThread thread => exact .refl _

/-- **The tally of a profiler** shows what the changes made of it. -/
theorem Recorded.same {p : Profiler} {changes : List Tally.Change} (h : p.Recorded changes) :
    Tally.Same (Tally.after changes) p.tally := by
  induction h with
  | new => exact .refl _
  | @next p p' changes more before step ih =>
    unfold Tally.after at ih ⊢
    rw [List.foldl_append]
    exact (ih.applyAll more).trans step.same

/-- The cell of a line of a block has what the closed intervals of that line of that block have. -/
theorem Recorded.cell {p : Profiler} {changes : List Tally.Change} (h : p.Recorded changes)
    (b : BlockHash) (l : UInt32) :
    p.tally.cell b l = Tally.total (Tally.spans changes b l) :=
  (h.same.cell b l).trans (Tally.cell_after changes b l)

/-- What a step records it records for blocks that are watched, and these stay watched. -/
theorem Step.watched {p p' : Profiler} {more : List Tally.Change} (h : Step p more p')
    (before : ∀ b l, (p.tally.cell b l).hits ≠ 0 → p.watches b) (b : BlockHash) (l : UInt32)
    (hit : (p'.tally.cell b l).hits ≠ 0) : p'.watches b := by
  have settled : ∀ (thread : ThreadKey) (block : BlockHash) (now : Counter), p.watches block →
      ((p.tally.settle thread block now).cell b l).hits ≠ 0 → p.watches b := by
    intro thread block now known hit
    by_cases here : block = b
    · exact here ▸ known
    · rw [Tally.cell_settle_ne here] at hit
      exact before b l hit
  cases h with
  | watch files block =>
    have enriched := watch_enriched files block p
    rw [enriched.tally.cell] at hit
    exact enriched.watches b (before b l hit)
  | addRoutine routine =>
    rw [addRoutine_eq] at hit ⊢
    exact before b l hit
  | lineStarts thread block line now =>
    unfold Profiler.lineStarts at hit ⊢
    split at hit
    · rename_i known
      rw [if_pos known]
      exact settled thread block now known (by rwa [Tally.cell_lineStarts] at hit)
    · rename_i unknown
      rw [if_neg unknown]
      exact before b l hit
  | blockLeft thread block now =>
    unfold Profiler.blockLeft at hit ⊢
    split at hit
    · rename_i known
      rw [if_pos known]
      exact settled thread block now known (by rwa [Tally.cell_blockLeft] at hit)
    · rename_i unknown
      rw [if_neg unknown]
      exact before b l hit
  | forgetThread thread => exact before b l hit

/-- **Blocks that were hit are watched.** -/
theorem Recorded.watched {p : Profiler} {changes : List Tally.Change} (h : p.Recorded changes) :
    ∀ b l, (p.tally.cell b l).hits ≠ 0 → p.watches b := by
  induction h with
  | new => exact fun _ _ hit => absurd rfl hit
  | next before step ih => exact step.watched ih

/-! ## Rows -/

variable {p : Profiler}

/-- The rows of a line, before they are put together, are those of the samples of the line. -/
theorem onLine_loose (p : Profiler) (site : Site) (line : UInt32) :
    Row.onLine line (p.loose site) =
      (p.samplesAt site line).map fun s => ⟨s.line, s.cell.hits, s.cell.ticks⟩ :=
  rows_onLine site line p.tally.samples

namespace Orderly

/-- The samples of a line at a site are the cells of the identities there that were hit. -/
theorem samplesAt_perm (h : p.Orderly) {site : Site} {hashes : List BlockHash}
    (filed : p.sites.get? site = some hashes) (line : UInt32) :
    ((p.samplesAt site line).map fun s => s.identity.block s.line).Perm
      (hashes.filter fun b => 0 < (p.tally.cell b line).hits) := by
  have nodup := (h.once site hashes filed).filter fun b => decide (0 < (p.tally.cell b line).hits)
  rw [List.perm_ext_iff_of_nodup (nodup_samplesAt h.tidy site line) nodup]
  intro b
  have stands : p.standsAt site b ↔ b ∈ hashes := by
    rw [h.stands, filed]
    simp
  rw [List.mem_filter, List.mem_map, ← stands, decide_eq_true_eq]
  constructor
  · rintro ⟨s, mem, rfl⟩
    obtain ⟨-, there, shown, hit⟩ := (mem_samplesAt h.tidy site line s).mp mem
    exact ⟨there, shown ▸ hit⟩
  · rintro ⟨there, hit⟩
    have back : (b.line line).block line = b := LineIdentity.block_line b line
    refine ⟨⟨b.line line, line, p.tally.cell b line⟩, ?_, back⟩
    rw [mem_samplesAt h.tidy, back]
    exact ⟨rfl, there, rfl, hit⟩

/-- Sums over the samples of a line are sums over the identities of the site. -/
theorem sum_loose (h : p.Orderly) {site : Site} {hashes : List BlockHash}
    (filed : p.sites.get? site = some hashes) (line : UInt32) (amount : Cell → Counter)
    (none : ∀ b, (p.tally.cell b line).hits = 0 → amount (p.tally.cell b line) = 0) :
    Counter.sum ((p.samplesAt site line).map fun s => amount s.cell) =
      Counter.sum (hashes.map fun b => amount (p.tally.cell b line)) := by
  have cells : (p.samplesAt site line).map (fun s => amount s.cell) =
      ((p.samplesAt site line).map fun s => s.identity.block s.line).map
        fun b => amount (p.tally.cell b line) := by
    rw [List.map_map]
    refine List.map_congr_left fun s mem => ?_
    obtain ⟨-, -, shown, -⟩ := (mem_samplesAt h.tidy site line s).mp mem
    rw [Function.comp_apply, shown]
  rw [cells, Counter.sum_perm ((h.samplesAt_perm filed line).map _)]
  -- What was never hit adds nothing.
  clear filed cells
  induction hashes with
  | nil => rfl
  | cons b rest ih =>
    rw [List.filter_cons]
    by_cases hit : 0 < (p.tally.cell b line).hits
    · rw [if_pos (decide_eq_true hit), List.map_cons, List.map_cons, Counter.sum_cons,
        Counter.sum_cons, ih]
    · have zero : (p.tally.cell b line).hits = 0 := by
        rw [← UInt64.toNat_inj]
        rw [UInt64.lt_iff_toNat_lt] at hit
        have zero : (0 : Counter).toNat = 0 := rfl
        omega
      rw [if_neg (by simpa using hit), ih, List.map_cons, Counter.sum_cons, none b zero,
        Counter.zero_satAdd]

end Orderly

/-- **A row of a site** is there if a cell of an identity of the site was hit on the line, and has the
sums of all cells of the line. -/
theorem Recorded.mem_rowsAt {changes : List Tally.Change} (h : p.Recorded changes) {site : Site}
    {hashes : List BlockHash} (filed : p.sites.get? site = some hashes) (r : Row) :
    r ∈ p.rowsAt site ↔ (∃ b ∈ hashes, 0 < (p.tally.cell b r.line).hits) ∧
      r.hits = Counter.sum (hashes.map fun b => (p.tally.cell b r.line).hits) ∧
      r.ticks = Counter.sum (hashes.map fun b => (p.tally.cell b r.line).ticks) := by
  have loose : p.rowsAt site = Row.merged (p.loose site) := rfl
  have hits := h.orderly.sum_loose filed r.line Cell.hits fun _ zero => zero
  have ticks := h.orderly.sum_loose filed r.line Cell.ticks fun b none => by
    rw [h.cell] at none ⊢
    exact Tally.ticks_of_hits none
  have some : (p.samplesAt site r.line).map (fun s => s.identity.block s.line) ≠ [] ↔
      ∃ b ∈ hashes, 0 < (p.tally.cell b r.line).hits := by
    rw [← List.length_pos_iff, (h.orderly.samplesAt_perm filed r.line).length_eq,
      List.length_pos_iff_exists_mem]
    simp
  rw [loose, Row.mem_merged, onLine_loose, List.map_map, List.map_map, ← hits, ← ticks, ← some]
  simp only [ne_eq, List.map_eq_nil_iff]
  rfl

/-! ## The snapshot -/

/-- The snapshot lists the sites. -/
@[simp] theorem keys_snapshot (p : Profiler) : p.snapshot.timings.keys = p.sites.keys := by
  unfold snapshot Ordered.keys
  simp only
  rw [List.map_map]
  exact List.map_id _

/-- The snapshot has at each site the rows of the site. -/
theorem get?_snapshot (p : Profiler) (site : Site) :
    p.snapshot.get? site = (p.sites.get? site).map fun _ => p.rowsAt site := by
  unfold snapshot Snapshot.get? Ordered.get? Ordered.keys
  simp only
  induction p.sites.entries with
  | nil => rfl
  | cons e rest ih =>
    rw [List.map_cons, List.map_cons, Ordered.find?_cons_of_eq]
    obtain ⟨site', hashes⟩ := e
    rw [Ordered.find?_cons_of_eq]
    by_cases here : site' = site
    · rw [if_pos here, if_pos here, here]
      rfl
    · rw [if_neg here, if_neg here]
      exact ih

/-- **Snapshots are in standard form.** -/
theorem Recorded.standard {changes : List Tally.Change} (h : p.Recorded changes) :
    p.snapshot.Standard where
  sites := by
    have keys : p.snapshot.timings.keys.Pairwise fun a b => compare a b = .lt := by
      rw [keys_snapshot]
      exact List.pairwise_map.mpr h.orderly.sites
    exact List.pairwise_map.mp keys
  rows site rows found := by
    rw [get?_snapshot, Option.map_eq_some_iff] at found
    obtain ⟨-, -, rfl⟩ := found
    exact Row.ascending_merged _

end Profiler

end LineClock

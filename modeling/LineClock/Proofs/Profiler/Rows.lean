import LineClock.Profiler
import LineClock.Proofs.Counter
import LineClock.Proofs.Profiler.Tally

/-!
# Rows of a tally

A profiler's rows are those of all samples of a site put together, one per line. The order in which
a tally keeps its cells does not show, and neither does room for lines that never ran: tallies that
show the `Same` have the same rows. Main statements: `rowsAt_congr`, and `hitsOn_rowsAt`, by which
the hits of a row are those of the cells of all identities watched at its site.
-/

namespace LineClock

namespace Counter

/-- Saturated sums do not depend on the order. -/
theorem satAdd_right_comm (a b c : Counter) : (a.satAdd b).satAdd c = (a.satAdd c).satAdd b := by
  rw [satAdd_assoc, satAdd_comm b c, ← satAdd_assoc]

end Counter

/-! ## Putting rows together -/

namespace Row

/-- The hits listed for a line, none where there is no row for it. -/
def hitsOn (line : UInt32) (rows : List Row) : Counter :=
  ((rows.find? fun r => r.line = line).map Row.hits).getD 0

/-- Rows in ascending order of their lines, one per line. -/
abbrev Ascending (rows : List Row) : Prop := rows.Pairwise fun r r' => r.line < r'.line

theorem addTo_comm (a b : Row) (rows : List Row) : a.addTo (b.addTo rows) = b.addTo (a.addTo rows) := by
  induction rows with
  | nil => grind [addTo, Counter.satAdd_comm]
  | cons r rest ih => grind [addTo, Counter.satAdd_comm, Counter.satAdd_right_comm]

/-- The order of the rows that are put together does not matter. -/
theorem merged_perm {rows rows' : List Row} (h : rows.Perm rows') : merged rows = merged rows' :=
  h.foldl_eq' (fun a _ b _ acc => addTo_comm b a acc) []

theorem mem_addTo {row r : Row} {rows : List Row} (h : r ∈ row.addTo rows) :
    r.line = row.line ∨ r ∈ rows := by
  induction rows with
  | nil =>
    cases List.mem_singleton.mp h
    exact .inl rfl
  | cons first rest ih => grind [addTo]

theorem ascending_addTo (row : Row) {rows : List Row} (h : Ascending rows) :
    Ascending (row.addTo rows) := by
  induction rows with
  | nil => exact List.pairwise_singleton _ _
  | cons first rest ih =>
    have tail := List.pairwise_cons.mp h
    unfold addTo
    split
    · rename_i before
      refine List.pairwise_cons.mpr ⟨fun r mem => ?_, h⟩
      rcases List.mem_cons.mp mem with rfl | mem
      · exact before
      · exact UInt32.lt_trans before (tail.1 r mem)
    · rename_i before
      split
      · exact List.pairwise_cons.mpr tail
      · rename_i other
        refine List.pairwise_cons.mpr ⟨fun r mem => ?_, ih tail.2⟩
        rcases mem_addTo mem with same | mem
        · rw [same]
          exact UInt32.lt_of_le_of_ne (UInt32.not_lt.mp before) (Ne.symm other)
        · exact tail.1 r mem

/-- Adding a row adds its hits to those listed for its line. -/
theorem hitsOn_addTo (row : Row) {rows : List Row} (h : Ascending rows) (line : UInt32) :
    hitsOn line (row.addTo rows) =
      if row.line = line then (hitsOn line rows).satAdd row.hits else hitsOn line rows := by
  induction rows with
  | nil =>
    unfold addTo hitsOn
    by_cases here : row.line = line <;> simp [here]
  | cons first rest ih =>
    have tail := List.pairwise_cons.mp h
    have head : ∀ (r : Row) l, hitsOn line (r :: l) = if r.line = line then r.hits else hitsOn line l := by
      intro r l
      unfold hitsOn
      by_cases here : r.line = line <;> simp [here]
    unfold addTo
    split
    · rename_i before
      rw [head]
      split
      · rename_i here
        have none : hitsOn line (first :: rest) = 0 := by
          unfold hitsOn
          rw [List.find?_eq_none.mpr]
          · rfl
          intro r mem same
          have after : row.line < r.line := by
            rcases List.mem_cons.mp mem with rfl | mem
            · exact before
            · exact UInt32.lt_trans before (tail.1 r mem)
          rw [here, of_decide_eq_true same] at after
          exact UInt32.lt_irrefl _ after
        rw [none, Counter.zero_satAdd]
      · rfl
    · split
      · rename_i same
        rw [head, head, same]
        split <;> rfl
      · rename_i other
        rw [head, head, ih tail.2]
        split
        · rename_i here
          rw [if_neg fun same => other (same.trans here.symm)]
        · rfl

/-- The hits listed for a line are those of all rows of the line together. -/
theorem hitsOn_merged (line : UInt32) (rows : List Row) :
    (hitsOn line (merged rows)).toNat =
      min ((rows.filter fun r => r.line = line).map fun r => r.hits.toNat).sum (2 ^ 64 - 1) := by
  have all : ∀ (rows acc : List Row), Ascending acc →
      (hitsOn line (rows.foldl (fun acc row => row.addTo acc) acc)).toNat =
        min ((hitsOn line acc).toNat +
          ((rows.filter fun r => r.line = line).map fun r => r.hits.toNat).sum) (2 ^ 64 - 1) := by
    intro rows
    induction rows with
    | nil =>
      intro acc _
      have bound := (hitsOn line acc).toNat_lt
      simp only [List.foldl_nil, List.filter_nil, List.map_nil, List.sum_nil]
      omega
    | cons row rest ih =>
      intro acc h
      rw [List.foldl_cons, ih _ (ascending_addTo row h), hitsOn_addTo row h, List.filter_cons]
      by_cases here : row.line = line
      · simp only [here, decide_true, if_true, List.map_cons, List.sum_cons, Counter.toNat_satAdd]
        omega
      · simp only [here, decide_false, Bool.false_eq_true, if_false]
  have whole := all rows [] List.Pairwise.nil
  have nothing : (hitsOn line []).toNat = 0 := rfl
  rw [nothing, Nat.zero_add] at whole
  exact whole

end Row

/-! ## Samples -/

/-- The identity of a line is recovered from its block. -/
theorem LineIdentity.line_block (identity : LineIdentity) (line : UInt32) :
    (identity.block line).line line = identity := by
  rw [BlockHash.line, LineIdentity.block, UInt64.xor_assoc, UInt64.xor_self, UInt64.xor_zero]

namespace Tally

variable {t t' : Tally}

/-- The samples of a tidy tally are the cells that were hit. -/
theorem mem_samples (tidy : t.Tidy) (s : Sample) :
    s ∈ t.samples ↔ t.cell (s.identity.block s.line) s.line = s.cell ∧ 0 < s.cell.hits := by
  obtain ⟨identity, line, cell⟩ := s
  unfold samples Tally.cell get?
  simp only [LineIdentity.line_block, List.mem_flatMap, List.mem_map, List.mem_filter,
    decide_eq_true_eq, Sample.mk.injEq, Prod.exists]
  constructor
  · rintro ⟨_, bucket, mem, _, _, ⟨mem', hit⟩, rfl, rfl, rfl⟩
    have found := (Assoc.mem_entries_iff tidy.cells _ _).mp mem
    rw [found, Option.bind_some, (Assoc.mem_entries_iff (tidy.bucket _ _ found) _ _).mp mem']
    exact ⟨rfl, hit⟩
  · rintro ⟨shown, hit⟩
    cases found : t.cells.get? identity with
    | none =>
      rw [found] at shown
      cases shown
      exact absurd hit (UInt64.lt_irrefl _)
    | some bucket =>
      rw [found, Option.bind_some] at shown
      refine ⟨identity, bucket, (Assoc.mem_entries_iff tidy.cells _ _).mpr found, line, cell,
        ⟨?_, hit⟩, rfl, rfl, rfl⟩
      rw [Assoc.mem_entries_iff (tidy.bucket _ _ found)]
      cases there : bucket.get? line with
      | none =>
        rw [there] at shown
        cases shown
        exact absurd hit (UInt64.lt_irrefl _)
      | some c =>
        rw [there] at shown
        exact congrArg some shown

theorem nodup_samples (tidy : t.Tidy) : t.samples.Nodup := by
  unfold samples List.Nodup
  rw [List.pairwise_flatMap]
  constructor
  · rintro ⟨identity, bucket⟩ mem
    have found := (Assoc.mem_entries_iff tidy.cells _ _).mp mem
    have once := tidy.bucket _ _ found
    unfold Assoc.keys List.Nodup at once
    rw [List.pairwise_map] at once ⊢
    exact (once.sublist List.filter_sublist).imp fun other same => other (Sample.mk.inj same).2.1
  · have once := tidy.cells
    unfold Assoc.keys List.Nodup at once
    rw [List.pairwise_map] at once
    refine once.imp fun other s mem s' mem' same => other ?_
    obtain ⟨_, -, rfl⟩ := List.mem_map.mp mem
    obtain ⟨_, -, rfl⟩ := List.mem_map.mp mem'
    exact (Sample.mk.inj same).1

/-- Tidy tallies that show the same have the same samples. -/
theorem Same.samples (same : Same t t') (tidy : t.Tidy) (tidy' : t'.Tidy) :
    t.samples.Perm t'.samples := by
  rw [List.perm_ext_iff_of_nodup (nodup_samples tidy) (nodup_samples tidy')]
  intro s
  rw [mem_samples tidy, mem_samples tidy', same.cell]

end Tally

/-! ## The rows of a profiler -/

namespace Profiler

variable {p : Profiler} {t : Tally}

/-- Tallies that show the same have the same rows. -/
theorem rowsAt_congr (same : Tally.Same t p.tally) (tidy : t.Tidy) (tidy' : p.tally.Tidy)
    (site : Site) : ({ p with tally := t } : Profiler).rowsAt site = p.rowsAt site :=
  Row.merged_perm (((same.samples tidy tidy').filterMap p.row?).filterMap _)

theorem snapshot_congr (same : Tally.Same t p.tally) (tidy : t.Tidy) (tidy' : p.tally.Tidy) :
    ({ p with tally := t } : Profiler).snapshot = p.snapshot := by
  unfold snapshot
  simp only [rowsAt_congr same tidy tidy']

/-- A snapshot lists the sites with their rows. -/
theorem mem_snapshot {site : Site} {rows : List Row} (h : (site, rows) ∈ p.snapshot.timings.entries) :
    site ∈ p.sites.keys ∧ rows = p.rowsAt site := by
  obtain ⟨_, listed, same⟩ := List.mem_map.mp h
  cases same
  exact ⟨listed, rfl⟩

/-- Whether an identity is watched at a site. -/
def standsAt (p : Profiler) (site : Site) (block : BlockHash) : Bool :=
  (p.blocks.get? block).any fun w => w.site = site

theorem standsAt_iff {site : Site} {block : BlockHash} :
    p.standsAt site block ↔ ∃ w, p.blocks.get? block = some w ∧ w.site = site := by
  unfold standsAt
  cases p.blocks.get? block with
  | none => simp
  | some w => simp

/-- The samples of a line of which the rows of a site are made. -/
def samplesAt (p : Profiler) (site : Site) (line : UInt32) : List Sample :=
  p.tally.samples.filter fun s => s.line = line ∧ p.standsAt site (s.identity.block s.line)

theorem mem_samplesAt (tidy : p.tally.Tidy) (site : Site) (line : UInt32) (s : Sample) :
    s ∈ p.samplesAt site line ↔ s.line = line ∧ p.standsAt site (s.identity.block s.line) ∧
      p.tally.cell (s.identity.block s.line) line = s.cell ∧ 0 < s.cell.hits := by
  unfold samplesAt
  rw [List.mem_filter, Tally.mem_samples tidy, decide_eq_true_eq]
  constructor
  · rintro ⟨⟨shown, hit⟩, here, stands⟩
    rw [here] at shown stands
    rw [here]
    exact ⟨rfl, stands, shown, hit⟩
  · rintro ⟨here, stands, shown, hit⟩
    refine ⟨⟨?_, hit⟩, here, stands⟩
    rw [here] at shown ⊢
    exact shown

/-- Every identity has one sample of a line. -/
theorem nodup_samplesAt (tidy : p.tally.Tidy) (site : Site) (line : UInt32) :
    ((p.samplesAt site line).map fun s => s.identity.block s.line).Nodup := by
  unfold List.Nodup
  rw [List.pairwise_map]
  refine ((Tally.nodup_samples tidy).sublist List.filter_sublist).imp_of_mem ?_
  intro s s' mem mem' other same
  obtain ⟨here, -, shown, -⟩ := (mem_samplesAt tidy site line s).mp mem
  obtain ⟨here', -, shown', -⟩ := (mem_samplesAt tidy site line s').mp mem'
  obtain ⟨identity, l, cell⟩ := s
  obtain ⟨identity', l', cell'⟩ := s'
  simp only at here here' same shown shown'
  rw [here, here'] at same
  have identities := congrArg (BlockHash.line · line) same
  simp only [LineIdentity.line_block] at identities
  rw [here] at shown
  rw [here', ← identities] at shown'
  exact other (by rw [identities, here, here', ← shown, ← shown'])

/-- The rows of a line at a site are those of its samples. -/
theorem rows_onLine (site : Site) (line : UInt32) (samples : List Sample) :
    (((samples.filterMap p.row?).filterMap fun r => if r.1 = site then some r.2 else none).filter
      fun r => r.line = line) =
    (samples.filter fun s => s.line = line ∧ p.standsAt site (s.identity.block s.line)).map
      fun s => ⟨s.line, s.cell.hits, s.cell.ticks⟩ := by
  induction samples with
  | nil => rfl
  | cons s rest ih =>
    unfold row? standsAt at ih ⊢
    rw [List.filterMap_cons, List.filter_cons]
    cases p.blocks.get? (s.identity.block s.line) with
    | none => simpa using ih
    | some w =>
      by_cases there : w.site = site
      · by_cases here : s.line = line
        · simpa [there, here] using ih
        · simpa [there, here] using ih
      · simpa [there] using ih

/-- **The hits of a row** are those of the cells of all identities watched at its site. -/
theorem hitsOn_rowsAt (tidy : p.tally.Tidy) (site : Site) (line : UInt32) :
    ∃ hashes : List BlockHash, hashes.Nodup ∧
      (∀ h, h ∈ hashes ↔ p.standsAt site h ∧ 0 < (p.tally.cell h line).hits) ∧
      (Row.hitsOn line (p.rowsAt site)).toNat =
        min (hashes.map fun h => (p.tally.cell h line).hits.toNat).sum (2 ^ 64 - 1) := by
  refine ⟨(p.samplesAt site line).map fun s => s.identity.block s.line,
    nodup_samplesAt tidy site line, fun h => ⟨fun mem => ?_, ?_⟩, ?_⟩
  · obtain ⟨s, mem', rfl⟩ := List.mem_map.mp mem
    obtain ⟨-, stands, shown, hit⟩ := (mem_samplesAt tidy site line s).mp mem'
    rw [shown]
    exact ⟨stands, hit⟩
  · rintro ⟨stands, hit⟩
    have back : (h.line line).block line = h := LineIdentity.block_line h line
    refine List.mem_map.mpr ⟨⟨h.line line, line, p.tally.cell h line⟩, ?_, back⟩
    rw [mem_samplesAt tidy, back]
    exact ⟨rfl, stands, rfl, hit⟩
  · unfold rowsAt
    rw [Row.hitsOn_merged, rows_onLine, List.map_map, List.map_map]
    congr 2
    refine List.map_congr_left fun s mem => ?_
    obtain ⟨-, -, shown, -⟩ := (mem_samplesAt tidy site line s).mp mem
    rw [Function.comp_apply, Function.comp_apply, shown]

/-! ## Sites of one block -/

/-- A block is the only one that is watched at a site. -/
def StandsAlone (p : Profiler) (site : Site) (block : BlockHash) : Prop :=
  ∀ h, p.standsAt site h ↔ h = block

theorem standsAlone_of_entries {site : Site} {block : BlockHash} (once : p.blocks.keys.Nodup)
    (there : block ∈ p.blocks.keys)
    (alone : ∀ x ∈ p.blocks.entries, x.2.site = site ↔ x.1 = block) : p.StandsAlone site block := by
  intro h
  rw [standsAt_iff]
  constructor
  · rintro ⟨w, found, here⟩
    exact (alone (h, w) ((Assoc.mem_entries_iff once _ _).mpr found)).mp here
  · rintro rfl
    obtain ⟨⟨_, w⟩, mem, rfl⟩ := List.mem_map.mp there
    exact ⟨w, (Assoc.mem_entries_iff once _ _).mp mem, (alone _ mem).mpr rfl⟩

/-- The rows of a site before they are put together. -/
def loose (p : Profiler) (site : Site) : List Row :=
  (p.tally.samples.filterMap p.row?).filterMap fun r => if r.1 = site then some r.2 else none

theorem mem_loose (tidy : p.tally.Tidy) {site : Site} {block : BlockHash}
    (alone : p.StandsAlone site block) (row : Row) :
    row ∈ p.loose site ↔ p.tally.cell block row.line = ⟨row.hits, row.ticks⟩ ∧ 0 < row.hits := by
  obtain ⟨line, hits, ticks⟩ := row
  unfold loose row?
  simp only [List.mem_filterMap, Option.map_eq_some_iff, Prod.exists, Option.ite_none_right_eq_some,
    Option.some.injEq, Prod.mk.injEq]
  constructor
  · rintro ⟨_, _, ⟨s, mem, w, found, rfl, rfl⟩, there, same⟩
    have stands := (alone _).mp (standsAt_iff.mpr ⟨w, found, there⟩)
    obtain ⟨shown, hit⟩ := (Tally.mem_samples tidy s).mp mem
    cases same
    rw [stands] at shown
    exact ⟨shown, hit⟩
  · rintro ⟨shown, hit⟩
    obtain ⟨w, found, there⟩ := standsAt_iff.mp ((alone block).mpr rfl)
    have back : (block.line line).block line = block := LineIdentity.block_line block line
    refine ⟨site, _, ⟨⟨block.line line, line, ⟨hits, ticks⟩⟩, ?_, w, ?_, there, rfl⟩, rfl, rfl⟩
    · rw [Tally.mem_samples tidy, back]
      exact ⟨shown, hit⟩
    · rw [back]
      exact found

theorem nodup_loose (tidy : p.tally.Tidy) {site : Site} {block : BlockHash}
    (alone : p.StandsAlone site block) : (p.loose site).Nodup := by
  have row : ∀ {s : Sample} {r : Site × Row} {row : Row}, row? p s = some r →
      (if r.1 = site then some r.2 else none) = some row →
      s.identity.block s.line = block ∧ row = ⟨s.line, s.cell.hits, s.cell.ticks⟩ := by
    intro s r row found there
    obtain ⟨w, watched, rfl⟩ := Option.map_eq_some_iff.mp found
    simp only [Option.ite_none_right_eq_some, Option.some.injEq] at there
    exact ⟨(alone _).mp (standsAt_iff.mpr ⟨w, watched, there.1⟩), there.2.symm⟩
  unfold loose List.Nodup
  rw [List.pairwise_filterMap, List.pairwise_filterMap]
  refine (Tally.nodup_samples tidy).imp fun {s s'} other r found r' found' x there x' there' same => ?_
  obtain ⟨stands, rfl⟩ := row found there
  obtain ⟨stands', rfl⟩ := row found' there'
  obtain ⟨identity, line, hits, ticks⟩ := s
  obtain ⟨identity', line', hits', ticks'⟩ := s'
  simp only [Row.mk.injEq] at same stands stands' other
  obtain ⟨rfl, rfl, rfl⟩ := same
  have identities := congrArg (BlockHash.line · line) (stands.trans stands'.symm)
  simp only [LineIdentity.line_block] at identities
  exact other (by rw [identities])

/-- **Two sites at each of which one block stands** have the same rows if both blocks have the same
cells. -/
theorem rowsAt_eq_of_cells (tidy : p.tally.Tidy) {site site' : Site} {block block' : BlockHash}
    (alone : p.StandsAlone site block) (alone' : p.StandsAlone site' block')
    (same : ∀ line, p.tally.cell block' line = p.tally.cell block line) :
    p.rowsAt site' = p.rowsAt site := by
  have perm : (p.loose site').Perm (p.loose site) := by
    rw [List.perm_ext_iff_of_nodup (nodup_loose tidy alone') (nodup_loose tidy alone)]
    intro row
    rw [mem_loose tidy alone', mem_loose tidy alone, same]
  exact Row.merged_perm perm

end Profiler

end LineClock

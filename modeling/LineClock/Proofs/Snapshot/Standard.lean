import LineClock.Proofs.Ordered
import LineClock.Proofs.Profiler.Rows
import Mathlib.Data.List.Basic

/-!
# Standard form

Rows are in their standard form if there is one per line, in ascending order of lines. What a list
of rows has for each line is a `table`, which adding a row alters at the row's line: so the rows
of `Row.merged` are told line by line. Main statements: `Row.mem_merged`, `Row.merged_eq_self` and
`Row.merged_append_merged`, by which rows that were put together early or late give the same.
-/

namespace LineClock

namespace Counter

theorem foldl_satAdd (a : Counter) (l : List Counter) : l.foldl satAdd a = a.satAdd (sum l) := by
  unfold sum
  induction l generalizing a with
  | nil => exact (satAdd_zero a).symm
  | cons b rest ih =>
    rw [List.foldl_cons, List.foldl_cons, ih, ih (satAdd 0 b), zero_satAdd, satAdd_assoc]

@[simp] theorem sum_cons (a : Counter) (l : List Counter) : sum (a :: l) = a.satAdd (sum l) := by
  rw [← foldl_satAdd]
  unfold sum
  rw [List.foldl_cons, zero_satAdd]

theorem sum_append (l l' : List Counter) : sum (l ++ l') = (sum l).satAdd (sum l') := by
  unfold sum
  rw [List.foldl_append]
  exact foldl_satAdd _ _

/-- **A saturating sum** is the sum, capped at the largest word. -/
theorem toNat_sum (l : List Counter) :
    (sum l).toNat = min (l.map UInt64.toNat).sum (2 ^ 64 - 1) := by
  induction l with
  | nil => rfl
  | cons a rest ih =>
    rw [sum_cons, toNat_satAdd, ih, List.map_cons, List.sum_cons]
    omega

/-- The order in which counters are added up does not matter. -/
theorem sum_perm {l l' : List Counter} (h : l.Perm l') : sum l = sum l' :=
  h.foldl_eq' (fun a _ b _ acc => satAdd_right_comm acc a b) 0

end Counter

namespace Row

variable {rows rows' : List Row}

/-! ## What rows have for a line -/

/-- The rows of a line. -/
def onLine (line : UInt32) (rows : List Row) : List Row := rows.filter fun r => r.line = line

/-- A row as what there is at its line. -/
def entry (r : Row) : UInt32 × Counter × Counter := (r.line, r.hits, r.ticks)

/-- Hits and ticks by line. -/
def table (rows : List Row) : Ordered UInt32 (Counter × Counter) := ⟨rows.map entry⟩

/-- A row added to what there is at its line. -/
def upon (row : Row) (there : Option (Counter × Counter)) : Counter × Counter :=
  ((there.getD (0, 0)).1.satAdd row.hits, (there.getD (0, 0)).2.satAdd row.ticks)

theorem entry_injective : Function.Injective entry := by
  intro r r' same
  obtain ⟨line, hits, ticks⟩ := r
  obtain ⟨line', hits', ticks'⟩ := r'
  unfold entry at same
  simp only [Prod.mk.injEq] at same
  obtain ⟨rfl, rfl, rfl⟩ := same
  rfl

theorem sorted_table : (table rows).Sorted ↔ Ascending rows := by
  unfold Ordered.Sorted table
  rw [List.pairwise_map]
  simp only [entry, Std.compare_eq_lt]

/-- Ascending rows are what their table has at each line. -/
theorem mem_iff_table (h : Ascending rows) (r : Row) :
    r ∈ rows ↔ (table rows).get? r.line = some (r.hits, r.ticks) := by
  rw [← (sorted_table.mpr h).mem_entries_iff]
  exact (List.mem_map_of_injective entry_injective).symm

/-- Ascending rows are told by which rows there are. -/
theorem Ascending.ext (h : Ascending rows) (h' : Ascending rows')
    (same : ∀ r, r ∈ rows ↔ r ∈ rows') : rows = rows' := by
  have nodup : ∀ {rows : List Row}, Ascending rows → rows.Nodup := fun ascending =>
    ascending.imp fun {_ r} before same => by
      rw [same] at before
      exact UInt32.lt_irrefl r.line before
  have perm : rows.Perm rows' := (List.perm_ext_iff_of_nodup (nodup h) (nodup h')).mpr same
  refine perm.eq_of_pairwise (fun r r' _ _ before after => ?_) h h'
  exact absurd (UInt32.lt_trans before after) (UInt32.lt_irrefl _)

/-! ## Putting rows together -/

/-- **Adding a row** alters the table at its line. -/
theorem table_addTo (row : Row) (rows : List Row) :
    table (row.addTo rows) = (table rows).alter row.line row.upon := by
  induction rows with
  | nil =>
    unfold addTo table Ordered.alter upon
    simp [Ordered.place, entry]
  | cons r rest ih =>
    unfold table Ordered.alter at ih ⊢
    simp only [Ordered.mk.injEq] at ih ⊢
    unfold addTo
    rw [List.map_cons, entry, Ordered.place]
    by_cases before : row.line < r.line
    · rw [if_pos before, Std.compare_eq_lt.mpr before]
      simp [upon, entry]
    · rw [if_neg before]
      by_cases here : row.line = r.line
      · have same : compare r.line r.line = .eq := Std.ReflCmp.compare_self
        rw [if_pos here, here, same]
        simp [upon, entry]
      · have after : r.line < row.line :=
          UInt32.lt_of_le_of_ne (UInt32.not_lt.mp before) (Ne.symm here)
        rw [if_neg here, Std.compare_eq_gt.mpr after, List.map_cons, ih, entry]

theorem table_merged (rows : List Row) :
    table (merged rows) = rows.foldl (fun m r => m.alter r.line r.upon) ⟨[]⟩ := by
  have all : ∀ (rows acc : List Row), table (rows.foldl (fun acc row => row.addTo acc) acc) =
      rows.foldl (fun m r => m.alter r.line r.upon) (table acc) := by
    intro rows
    induction rows with
    | nil => intro acc; rfl
    | cons row rest ih =>
      intro acc
      rw [List.foldl_cons, List.foldl_cons, ih, table_addTo]
  exact all rows []

theorem ascending_merged (rows : List Row) : Ascending (merged rows) := by
  rw [← sorted_table, table_merged]
  exact Ordered.sorted_empty.foldl_alter _ _ _

/-- Rows of one line added up. -/
theorem foldl_upon (row : Row) (rows : List Row) :
    (row :: rows).foldl (fun there r => some (r.upon there)) none =
      some (Counter.sum ((row :: rows).map Row.hits), Counter.sum ((row :: rows).map Row.ticks)) := by
  have all : ∀ (rows : List Row) (hits ticks : Counter),
      rows.foldl (fun there r => some (r.upon there)) (some (hits, ticks)) =
        some (hits.satAdd (Counter.sum (rows.map Row.hits)),
          ticks.satAdd (Counter.sum (rows.map Row.ticks))) := by
    intro rows
    induction rows with
    | nil => intro hits ticks; simp [Counter.sum]
    | cons r rest ih =>
      intro hits ticks
      rw [List.foldl_cons]
      unfold upon at ih ⊢
      simp only [Option.getD_some, ih, List.map_cons, Counter.sum_cons, Counter.satAdd_assoc]
  rw [List.foldl_cons]
  unfold upon at all ⊢
  simp only [Option.getD_none, Counter.zero_satAdd, all, List.map_cons, Counter.sum_cons]

/-- **What is put together at a line**: the saturating sums of its rows. -/
theorem get?_table_merged (rows : List Row) (line : UInt32) :
    (table (merged rows)).get? line =
      if onLine line rows = [] then none
      else some (Counter.sum ((onLine line rows).map Row.hits),
        Counter.sum ((onLine line rows).map Row.ticks)) := by
  have empty : (⟨[]⟩ : Ordered UInt32 (Counter × Counter)).get? line = none := rfl
  rw [table_merged, Ordered.sorted_empty.get?_foldl_alter, empty]
  change (onLine line rows).foldl _ none = _
  cases onLine line rows with
  | nil => rfl
  | cons row rest => rw [if_neg (List.cons_ne_nil _ _), foldl_upon]

/-- **A row of rows that were put together** has the sums of its line. -/
theorem mem_merged (rows : List Row) (r : Row) :
    r ∈ merged rows ↔ onLine r.line rows ≠ [] ∧
      r.hits = Counter.sum ((onLine r.line rows).map Row.hits) ∧
      r.ticks = Counter.sum ((onLine r.line rows).map Row.ticks) := by
  rw [mem_iff_table (ascending_merged rows), get?_table_merged]
  split
  · rename_i none
    simp [none]
  · rename_i there
    simp only [Option.some.injEq, Prod.mk.injEq, ne_eq, there, not_false_eq_true, true_and]
    exact ⟨fun h => ⟨h.1.symm, h.2.symm⟩, fun h => ⟨h.1.symm, h.2.symm⟩⟩

/-- Ascending rows have one row of a line. -/
theorem Ascending.onLine (h : Ascending rows) {r : Row} (mem : r ∈ rows) :
    onLine r.line rows = [r] := by
  unfold Row.onLine
  induction rows with
  | nil => cases mem
  | cons first rest ih =>
    have tail := List.pairwise_cons.mp h
    rcases List.mem_cons.mp mem with rfl | later
    · have none : rest.filter (fun r' => r'.line = r.line) = [] := by
        rw [List.filter_eq_nil_iff]
        intro r' mem' same
        have before := tail.1 r' mem'
        rw [of_decide_eq_true same] at before
        exact UInt32.lt_irrefl _ before
      rw [List.filter_cons_of_pos (by simp), none]
    · have other : ¬ first.line = r.line := fun same =>
        UInt32.lt_irrefl r.line (same ▸ tail.1 r later)
      rw [List.filter_cons_of_neg (by simpa using other), ih tail.2 later]

/-- **Ascending rows stay as they are.** -/
theorem merged_eq_self (h : Ascending rows) : merged rows = rows := by
  have single : ∀ r ∈ rows, r.hits = Counter.sum ((Row.onLine r.line rows).map Row.hits) ∧
      r.ticks = Counter.sum ((Row.onLine r.line rows).map Row.ticks) := by
    intro r mem
    rw [h.onLine mem]
    simp [Counter.sum]
  refine (ascending_merged rows).ext h fun r => ?_
  rw [mem_merged]
  constructor
  · rintro ⟨some, hits, ticks⟩
    obtain ⟨r', mem'⟩ := List.exists_mem_of_ne_nil _ some
    obtain ⟨mem', line⟩ := List.mem_filter.mp mem'
    have line' : r'.line = r.line := of_decide_eq_true line
    obtain ⟨hits', ticks'⟩ := single r' mem'
    rw [line', ← hits] at hits'
    rw [line', ← ticks] at ticks'
    have same : r = r' := by
      cases r
      cases r'
      simp_all
    exact same ▸ mem'
  · intro mem
    refine ⟨?_, single r mem⟩
    rw [h.onLine mem]
    exact List.cons_ne_nil _ _

/-- **Rows that were put together before** count as they did. -/
theorem merged_append_merged (rows rows' : List Row) :
    merged (merged rows ++ rows') = merged (rows ++ rows') := by
  have split : ∀ rows : List Row,
      merged (rows ++ rows') = rows'.foldl (fun acc row => row.addTo acc) (merged rows) := by
    intro rows
    unfold merged
    rw [List.foldl_append]
  rw [split, split, merged_eq_self (ascending_merged rows)]

end Row

/-! ## Snapshots -/

namespace Snapshot

variable {s t : Snapshot}

/-- A snapshot in its standard form: sites ascending, and the rows of each. -/
structure Standard (s : Snapshot) : Prop where
  sites : s.timings.Sorted
  rows : ∀ site rows, s.get? site = some rows → Row.Ascending rows

/-- The rows that a snapshot lists for a line of a function. -/
def rowsFor (s : Snapshot) (site : Site) (line : UInt32) : List Row :=
  s.timings.entries.flatMap fun f => if f.1 = site then Row.onLine line f.2 else []

/-- The rows for a line are those of the site that are on the line. -/
theorem rowsFor_eq (sorted : s.timings.Sorted) (site : Site) (line : UInt32) :
    s.rowsFor site line = ((s.get? site).map (Row.onLine line)).getD [] :=
  sorted.flatMap_at site (Row.onLine line)

namespace Standard

/-- A standard snapshot lists one row for a line, if any. -/
theorem rowsFor_of_mem (h : s.Standard) {site : Site} {line : UInt32} {r : Row}
    (mem : r ∈ s.rowsFor site line) : s.rowsFor site line = [r] := by
  rw [rowsFor_eq h.sites] at mem ⊢
  cases listed : s.get? site with
  | none =>
    rw [listed] at mem
    cases mem
  | some rows =>
    rw [listed] at mem
    obtain ⟨mem, here⟩ := List.mem_filter.mp mem
    have line' : r.line = line := of_decide_eq_true here
    rw [← line']
    exact (h.rows site rows listed).onLine mem

/-- Standard snapshots are told by their units, sites and rows. -/
theorem ext (hs : s.Standard) (ht : t.Standard) (unit : s.unit = t.unit)
    (sites : ∀ site, site ∈ s.timings.keys ↔ site ∈ t.timings.keys)
    (rows : ∀ site line, s.rowsFor site line = t.rowsFor site line) : s = t := by
  have timings : s.timings = t.timings := by
    refine hs.sites.ext ht.sites fun site => ?_
    have there := sites site
    rw [hs.sites.mem_keys_iff, ht.sites.mem_keys_iff] at there
    cases listed : s.timings.get? site with
    | none =>
      rw [listed] at there
      cases listed' : t.timings.get? site with
      | none => rfl
      | some rows' =>
        rw [listed'] at there
        exact absurd (there.mpr rfl) Bool.false_ne_true
    | some l =>
      rw [listed] at there
      obtain ⟨l', listed'⟩ := Option.isSome_iff_exists.mp (there.mp rfl)
      rw [listed']
      refine congrArg some ((hs.rows site l listed).ext (ht.rows site l' listed') fun r => ?_)
      have there := rows site r.line
      rw [rowsFor_eq hs.sites, rowsFor_eq ht.sites, get?, get?, listed, listed'] at there
      have on : ∀ l : List Row, r ∈ l ↔ r ∈ Row.onLine r.line l := fun l =>
        ⟨fun mem => List.mem_filter.mpr ⟨mem, decide_eq_true rfl⟩, fun mem =>
          (List.mem_filter.mp mem).1⟩
      rw [on l, on l']
      exact iff_of_eq (congrArg (r ∈ ·) there)
  obtain ⟨u, m⟩ := s
  obtain ⟨u', m'⟩ := t
  cases unit
  cases timings
  rfl

end Standard

end Snapshot

end LineClock

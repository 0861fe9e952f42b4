import LineClock.Proofs.Snapshot.Standard
import LineClock.Proofs.Snapshot.Units

/-!
# Merged snapshots

What merging gathers for a line is told by the rows that the snapshots list for it, each with the
factor that its snapshot is rescaled by. Main statements: `merge?_spec`, which tells the rows of a
merged snapshot, and `merge_exact`.
-/

namespace LineClock.Snapshot

/-! ## Slots -/

/-- What is gathered from rows, each with its factor. -/
def gathered (rows : List (Option Float × Row)) : Slot :=
  rows.foldl (fun slot r => slot.add r.1 r.2) {}

/-- The hits of a slot are those of all its rows. -/
theorem hits_gathered (rows : List (Option Float × Row)) :
    (gathered rows).hits = Counter.sum (rows.map fun r => r.2.hits) := by
  have all : ∀ (rows : List (Option Float × Row)) (slot : Slot),
      (rows.foldl (fun slot r => slot.add r.1 r.2) slot).hits =
        slot.hits.satAdd (Counter.sum (rows.map fun r => r.2.hits)) := by
    intro rows
    induction rows with
    | nil => intro slot; exact (Counter.satAdd_zero _).symm
    | cons r rest ih =>
      intro slot
      have hits : (slot.add r.1 r.2).hits = slot.hits.satAdd r.2.hits := by
        unfold Slot.add
        cases r.1 <;> rfl
      rw [List.foldl_cons, ih, hits, List.map_cons, Counter.sum_cons, Counter.satAdd_assoc]
  exact (all rows {}).trans (Counter.zero_satAdd _)

/-- **Ticks that need no rescaling** are added up exactly. -/
theorem gathered_exact {rows : List (Option Float × Row)} (exact : ∀ r ∈ rows, r.1 = none) :
    (gathered rows).exact = Counter.sum (rows.map fun r => r.2.ticks) ∧
      (gathered rows).scaled = 0.0 := by
  have all : ∀ (rows : List (Option Float × Row)) (slot : Slot), (∀ r ∈ rows, r.1 = none) →
      (rows.foldl (fun slot r => slot.add r.1 r.2) slot).exact =
          slot.exact.satAdd (Counter.sum (rows.map fun r => r.2.ticks)) ∧
        (rows.foldl (fun slot r => slot.add r.1 r.2) slot).scaled = slot.scaled := by
    intro rows
    induction rows with
    | nil => intro slot _; exact ⟨(Counter.satAdd_zero _).symm, rfl⟩
    | cons r rest ih =>
      intro slot exact
      have plain : slot.add r.1 r.2 = ⟨slot.hits.satAdd r.2.hits, slot.exact.satAdd r.2.ticks,
          slot.scaled⟩ := by
        rw [exact r List.mem_cons_self]
        rfl
      have later := ih (slot.add r.1 r.2) fun r' mem => exact r' (List.mem_cons_of_mem _ mem)
      rw [List.foldl_cons, later.1, later.2, plain, List.map_cons, Counter.sum_cons,
        Counter.satAdd_assoc]
      exact ⟨rfl, rfl⟩
  obtain ⟨ticks, scaled⟩ := all rows {} exact
  exact ⟨ticks.trans (Counter.zero_satAdd _), scaled⟩

/-- A slot without rescaled ticks is the row of its sums. -/
theorem row_gathered {rows : List (Option Float × Row)} (exact : ∀ r ∈ rows, r.1 = none)
    (line : UInt32) : (gathered rows).row line =
      ⟨line, Counter.sum (rows.map fun r => r.2.hits), Counter.sum (rows.map fun r => r.2.ticks)⟩ := by
  obtain ⟨ticks, scaled⟩ := gathered_exact exact
  have none : nearest 0.0 = 0 := by decide +kernel
  unfold Slot.row
  rw [hits_gathered, ticks, scaled, none, Counter.satAdd_zero]

/-! ## Slots by site and line -/

/-- The slot of a line, if something was gathered for it. -/
def slotAt? (sums : Sums) (site : Site) (line : UInt32) : Option Slot :=
  (sums.get? site).bind fun slots => slots.get? line

/-- Sites ascending, and the lines of each. -/
structure Tidy (sums : Sums) : Prop where
  sites : sums.Sorted
  lines : ∀ site slots, sums.get? site = some slots → slots.Sorted

theorem tidy_empty : Tidy {} := ⟨Ordered.sorted_empty, fun _ _ found => nomatch found⟩

/-- The functions of snapshots, each with the factor that its snapshot is rescaled by. -/
def functions (target : Float) (snapshots : List Snapshot) :
    List (Option Float × Site × List Row) :=
  snapshots.flatMap fun s => s.timings.entries.map fun f => (factor? target s.unit, f)

/-- Add the rows of one function. -/
def addFunction (sums : Sums) (f : Option Float × Site × List Row) : Sums :=
  sums.alter f.2.1 fun slots => addRows f.1 (slots.getD {}) f.2.2

/-- The rows that are added to one slot, each with its factor. -/
def rowsTo (site : Site) (line : UInt32) (f : Option Float × Site × List Row) :
    List (Option Float × Row) :=
  if f.2.1 = site then (Row.onLine line f.2.2).map (f.1, ·) else []

/-- A row added to a slot that may not be there. -/
def addTo? (slot : Option Slot) (r : Option Float × Row) : Option Slot :=
  some ((slot.getD {}).add r.1 r.2)

theorem foldl_addTo (target : Float) (snapshots : List Snapshot) (sums : Sums) :
    snapshots.foldl (addTo target) sums = (functions target snapshots).foldl addFunction sums := by
  unfold functions
  rw [List.foldl_flatMap]
  congr 1
  funext sums s
  rw [List.foldl_map]
  rfl

section

variable {sums : Sums} (tidy : Tidy sums)

include tidy

theorem Tidy.addFunction (f : Option Float × Site × List Row) : Tidy (addFunction sums f) := by
  unfold Snapshot.addFunction
  constructor
  · exact tidy.sites.alter _ _
  · intro site slots found
    rw [tidy.sites.get?_alter] at found
    split at found
    · cases found
      refine Ordered.Sorted.foldl_alter ?_ _ _ _
      cases there : sums.get? f.2.1 with
      | none => exact Ordered.sorted_empty
      | some slots => exact tidy.lines _ slots there
    · exact tidy.lines site slots found

/-- **Adding a function** adds its rows for a line to the slot of the line. -/
theorem slotAt?_addFunction (f : Option Float × Site × List Row) (site : Site) (line : UInt32) :
    slotAt? (addFunction sums f) site line =
      (rowsTo site line f).foldl addTo? (slotAt? sums site line) := by
  unfold slotAt? addFunction rowsTo
  rw [tidy.sites.get?_alter]
  split
  · rename_i here
    cases here
    rw [Option.bind_some, List.foldl_map]
    unfold addRows
    cases there : sums.get? f.2.1 with
    | none =>
      rw [Option.getD_none, Ordered.sorted_empty.get?_foldl_alter]
      rfl
    | some slots =>
      rw [Option.getD_some, (tidy.lines _ slots there).get?_foldl_alter]
      rfl
  · rfl

theorem tidy_functions (fs : List (Option Float × Site × List Row)) :
    Tidy (fs.foldl addFunction sums) := by
  induction fs generalizing sums with
  | nil => exact tidy
  | cons f rest ih => exact ih (tidy.addFunction f)

theorem slotAt?_functions (fs : List (Option Float × Site × List Row)) (site : Site)
    (line : UInt32) : slotAt? (fs.foldl addFunction sums) site line =
      (fs.flatMap (rowsTo site line)).foldl addTo? (slotAt? sums site line) := by
  induction fs generalizing sums with
  | nil => rfl
  | cons f rest ih =>
    rw [List.foldl_cons, ih (tidy.addFunction f), slotAt?_addFunction tidy, List.flatMap_cons,
      List.foldl_append]

end

theorem mem_keys_functions (fs : List (Option Float × Site × List Row)) (sums : Sums)
    (site : Site) : site ∈ (fs.foldl addFunction sums).keys ↔
      site ∈ sums.keys ∨ ∃ f ∈ fs, f.2.1 = site := by
  induction fs generalizing sums with
  | nil => simp
  | cons f rest ih =>
    have one : site ∈ (addFunction sums f).keys ↔ f.2.1 = site ∨ site ∈ sums.keys := by
      constructor
      · intro mem
        exact (Ordered.mem_keys_alter mem).imp Eq.symm id
      · rintro (rfl | mem)
        · exact Ordered.mem_keys_alter_self _ _ _
        · exact Ordered.mem_keys_alter_of_mem mem
    rw [List.foldl_cons, ih, one, List.exists_mem_cons_iff]
    tauto

theorem foldl_addTo? (rows : List (Option Float × Row)) :
    rows.foldl addTo? none = if rows = [] then none else some (gathered rows) := by
  have all : ∀ (rows : List (Option Float × Row)) (slot : Slot), rows.foldl addTo? (some slot) =
      some (rows.foldl (fun slot r => slot.add r.1 r.2) slot) := by
    intro rows
    induction rows with
    | nil => intro slot; rfl
    | cons r rest ih => intro slot; exact ih _
  cases rows with
  | nil => rfl
  | cons r rest =>
    rw [if_neg (List.cons_ne_nil _ _)]
    exact all rest _

/-! ## Rows of the merged snapshot -/

/-- The rows that snapshots list for a line of a function, each with the factor that its snapshot
is rescaled by. -/
def addends (target : Float) (snapshots : List Snapshot) (site : Site) (line : UInt32) :
    List (Option Float × Row) :=
  snapshots.flatMap fun s => (s.rowsFor site line).map (factor? target s.unit, ·)

theorem flatMap_rowsTo (target : Float) (snapshots : List Snapshot) (site : Site)
    (line : UInt32) : (functions target snapshots).flatMap (rowsTo site line) =
      addends target snapshots site line := by
  unfold functions addends rowsFor rowsTo
  rw [List.flatMap_assoc]
  congr 1
  funext s
  rw [List.flatMap_map, List.map_flatMap]
  congr 1
  funext f
  simp only
  split <;> rfl

/-- The row of a line among the rows of slots. -/
theorem onLine_slots {slots : Ordered UInt32 Slot} (sorted : slots.Sorted) (line : UInt32) :
    Row.onLine line (slots.entries.map fun e => e.2.row e.1) =
      ((slots.get? line).map fun slot => [slot.row line]).getD [] := by
  rw [← sorted.flatMap_at]
  unfold Row.onLine
  induction slots.entries with
  | nil => rfl
  | cons e rest ih =>
    have there : (e.2.row e.1).line = e.1 := rfl
    rw [List.map_cons, List.filter_cons, List.flatMap_cons, there, ih]
    by_cases here : e.1 = line <;> simp [here]

/-- Tidy slots are listed in standard form. -/
theorem Tidy.standard {sums : Sums} (tidy : Tidy sums) (unit : Float) :
    Standard ⟨unit, sums.mapValues fun slots => slots.entries.map fun e => e.2.row e.1⟩ where
  sites := tidy.sites.mapValues _
  rows site rows listed := by
    rw [get?, Ordered.get?_mapValues, Option.map_eq_some_iff] at listed
    obtain ⟨slots, there, rfl⟩ := listed
    refine List.pairwise_map.mpr ((tidy.lines site slots there).imp fun before => ?_)
    exact Std.compare_eq_lt.mp before

/-- **A merged snapshot is in standard form**, whatever the units are. -/
theorem standard_of_merge? {snapshots : List Snapshot} {t : Snapshot}
    (h : merge? snapshots = some t) : t.Standard := by
  unfold merge? at h
  cases coarsest : coarsest? (snapshots.map unit) with
  | none =>
    rw [coarsest] at h
    cases h
  | some unit =>
    rw [coarsest] at h
    cases h
    rw [foldl_addTo]
    exact (tidy_functions tidy_empty _).standard unit

/-- **What a merged snapshot lists**: one row for each line of a function that some snapshot has,
which is what is gathered for it. -/
theorem merge?_spec {snapshots : List Snapshot} (some : snapshots ≠ [])
    (units : ∀ s ∈ snapshots, IsDuration s.unit) :
    ∃ t, merge? snapshots = .some t ∧ t.Standard ∧
      t.unit ∈ snapshots.map unit ∧ (∀ s ∈ snapshots, s.unit ≤ t.unit) ∧
      (∀ site, site ∈ t.timings.keys ↔ ∃ s ∈ snapshots, site ∈ s.timings.keys) ∧
      ∃ finestFirst : List Snapshot, finestFirst.Perm snapshots ∧ ∀ site line,
        t.rowsFor site line = if addends t.unit finestFirst site line = [] then []
          else [(gathered (addends t.unit finestFirst site line)).row line] := by
  have some' : snapshots.map unit ≠ [] := fun none => some (List.map_eq_nil_iff.mp none)
  obtain ⟨unit, coarsest, mem, largest⟩ := coarsest?_units some' (fun u mem => by
    obtain ⟨s, listed, rfl⟩ := List.mem_map.mp mem
    exact units s listed)
  let finestFirst := snapshots.mergeSort fun a b => rank a.unit ≤ rank b.unit
  let sums : Sums := finestFirst.foldl (addTo unit) {}
  have perm : finestFirst.Perm snapshots := List.mergeSort_perm _ _
  have folded : sums = (functions unit finestFirst).foldl addFunction {} := foldl_addTo _ _ _
  have tidy : Tidy sums := folded ▸ tidy_functions tidy_empty _
  have slot : ∀ site line, slotAt? sums site line =
      if addends unit finestFirst site line = [] then none
      else .some (gathered (addends unit finestFirst site line)) := by
    intro site line
    rw [folded, slotAt?_functions tidy_empty, flatMap_rowsTo]
    exact foldl_addTo? _
  refine ⟨⟨unit, sums.mapValues fun slots => slots.entries.map fun e => e.2.row e.1⟩, ?_,
    tidy.standard unit, mem, fun s listed => largest _ (List.mem_map_of_mem listed), fun site => ?_, finestFirst, perm,
    fun site line => ?_⟩
  · unfold merge?
    rw [coarsest]
    rfl
  · rw [Ordered.keys_mapValues, folded, mem_keys_functions]
    unfold functions Ordered.keys
    simp only [List.map_nil, List.not_mem_nil, false_or, List.mem_flatMap, List.mem_map]
    constructor
    · rintro ⟨_, ⟨s, listed, f, mem, rfl⟩, here⟩
      exact ⟨s, perm.mem_iff.mp listed, f, mem, here⟩
    · rintro ⟨s, listed, f, mem, here⟩
      exact ⟨_, ⟨s, perm.mem_iff.mpr listed, f, mem, rfl⟩, here⟩
  · have shown := slot site line
    unfold slotAt? at shown
    rw [rowsFor_eq (tidy.sites.mapValues _), get?, Ordered.get?_mapValues]
    cases there : sums.get? site with
    | none =>
      rw [there] at shown
      split at shown
      · rename_i none
        rw [if_pos none]
        rfl
      · cases shown
    | some slots =>
      rw [there, Option.bind_some] at shown
      simp only [Option.map_some, Option.getD_some]
      rw [onLine_slots (tidy.lines site slots there), shown]
      split <;> rfl

/-! ## Totals -/

/-- The rows that snapshots list for a line of a function. -/
def listed (snapshots : List Snapshot) (site : Site) (line : UInt32) : List Row :=
  snapshots.flatMap fun s => s.rowsFor site line

theorem map_addends (target : Float) (snapshots : List Snapshot) (site : Site) (line : UInt32) :
    (addends target snapshots site line).map Prod.snd = listed snapshots site line := by
  unfold addends listed
  rw [List.map_flatMap]
  congr 1
  funext s
  rw [List.map_map]
  exact List.map_id _

/-- One row for all rows of a line. -/
def total (line : UInt32) (rows : List Row) : List Row :=
  if rows = [] then []
  else [⟨line, Counter.sum (rows.map Row.hits), Counter.sum (rows.map Row.ticks)⟩]

theorem total_perm (line : UInt32) {rows rows' : List Row} (h : rows.Perm rows') :
    total line rows = total line rows' := by
  unfold total
  rw [Counter.sum_perm (h.map Row.hits), Counter.sum_perm (h.map Row.ticks)]
  by_cases none : rows = []
  · rw [if_pos none, if_pos (List.nil_perm.mp (none ▸ h))]
  · have none' : ¬ rows' = [] := fun empty => none (List.perm_nil.mp (empty ▸ h))
    rw [if_neg none, if_neg none']

/-- Totals of two parts are told by the totals of each. -/
theorem total_append (line : UInt32) {rows rows' more more' : List Row}
    (same : total line rows = total line rows') (further : total line more = total line more') :
    total line (rows ++ more) = total line (rows' ++ more') := by
  have parts : ∀ {rows rows' : List Row}, total line rows = total line rows' →
      (rows = [] ↔ rows' = []) ∧
        Counter.sum (rows.map Row.hits) = Counter.sum (rows'.map Row.hits) ∧
        Counter.sum (rows.map Row.ticks) = Counter.sum (rows'.map Row.ticks) := by
    intro rows rows' same
    unfold total at same
    by_cases none : rows = [] <;> by_cases none' : rows' = [] <;> simp_all
  obtain ⟨empty, hits, ticks⟩ := parts same
  obtain ⟨empty', hits', ticks'⟩ := parts further
  unfold total
  simp only [List.append_eq_nil_iff, empty, empty', List.map_append, Counter.sum_append, hits,
    hits', ticks, ticks']

/-! ## Rows of the result -/

section

variable (target : Float) {snapshots sorted : List Snapshot} (perm : sorted.Perm snapshots)
  (site : Site) (line : UInt32)

include perm

theorem listed_perm : (listed sorted site line).Perm (listed snapshots site line) :=
  perm.flatMap_right _

theorem addends_eq_nil : addends target sorted site line = [] ↔ listed snapshots site line = [] := by
  have rows := listed_perm perm site line
  rw [← List.map_eq_nil_iff, map_addends]
  exact ⟨fun none => List.nil_perm.mp (none ▸ rows), fun none => List.perm_nil.mp (none ▸ rows)⟩

theorem sum_addends (f : Row → Counter) :
    Counter.sum ((addends target sorted site line).map fun r => f r.2) =
      Counter.sum ((listed snapshots site line).map f) := by
  have rows : (addends target sorted site line).map (fun r => f r.2) =
      (listed sorted site line).map f := by
    rw [← map_addends target, List.map_map]
    rfl
  rw [rows, Counter.sum_perm ((listed_perm perm site line).map f)]

/-- All hits of a line are counted. -/
theorem hits_addends : ((gathered (addends target sorted site line)).row line).hits =
    Counter.sum ((listed snapshots site line).map Row.hits) := by
  rw [← sum_addends target perm]
  exact hits_gathered _

/-- All ticks of a line are counted exactly if it is listed in the unit of the result only. -/
theorem ticks_addends (isUnit : IsDuration target)
    (coarse : ∀ s ∈ snapshots, s.rowsFor site line ≠ [] → s.unit = target) :
    ((gathered (addends target sorted site line)).row line).ticks =
      Counter.sum ((listed snapshots site line).map Row.ticks) := by
  have plain : ∀ r ∈ addends target sorted site line, r.1 = none := by
    intro r mem
    obtain ⟨s, listed, there⟩ := List.mem_flatMap.mp mem
    obtain ⟨row, mem', rfl⟩ := List.mem_map.mp there
    rw [coarse s (perm.mem_iff.mp listed) (List.ne_nil_of_mem mem')]
    exact factor?_self isUnit
  rw [row_gathered plain]
  exact sum_addends target perm site line Row.ticks

end

/-! ## Sums of snapshots of one unit -/

/-- A snapshot has the sites of snapshots of one unit, and the totals of their lines. -/
structure IsSum (unit : Float) (snapshots : List Snapshot) (t : Snapshot) : Prop where
  unit : t.unit = unit
  sites : ∀ site, site ∈ t.timings.keys ↔ ∃ s ∈ snapshots, site ∈ s.timings.keys
  rows : ∀ site line, total line (t.rowsFor site line) = total line (listed snapshots site line)

/-- A line of a standard snapshot is its own total. -/
theorem Standard.total_rowsFor {s : Snapshot} (h : s.Standard) (site : Site) (line : UInt32) :
    total line (s.rowsFor site line) = s.rowsFor site line := by
  cases there : s.rowsFor site line with
  | nil => rfl
  | cons r rest =>
    have mem : r ∈ s.rowsFor site line := there ▸ List.mem_cons_self
    have alone := h.rowsFor_of_mem mem
    rw [rowsFor_eq h.sites] at mem
    have here : r.line = line := by
      cases listed : s.get? site with
      | none =>
        rw [listed] at mem
        cases mem
      | some rows =>
        rw [listed] at mem
        exact of_decide_eq_true (List.mem_filter.mp mem).2
    rw [← there, alone, ← here]
    simp [total, Counter.sum]

namespace IsSum

variable {unit : Float} {l l' : List Snapshot} {s t : Snapshot}

theorem single (h : s.unit = unit) : IsSum unit [s] s where
  unit := h
  sites site := by simp
  rows site line := by simp [listed]

/-- **Sums of the same snapshots** are the same in their standard form. -/
theorem unique (hs : IsSum unit l s) (ht : IsSum unit l' t) (perm : l.Perm l')
    (standard : s.Standard) (standard' : t.Standard) : s = t := by
  refine standard.ext standard' (hs.unit.trans ht.unit.symm) (fun site => ?_) fun site line => ?_
  · rw [hs.sites, ht.sites]
    simp only [perm.mem_iff]
  · have rows : (listed l site line).Perm (listed l' site line) := perm.flatMap_right _
    rw [← standard.total_rowsFor, ← standard'.total_rowsFor, hs.rows, ht.rows,
      total_perm line rows]

/-- **Merging snapshots of one unit** gives their sum. -/
theorem merge? (some : l ≠ []) (isUnit : IsDuration unit) (same : ∀ s ∈ l, s.unit = unit) :
    ∃ t, Snapshot.merge? l = .some t ∧ t.Standard ∧ IsSum unit l t := by
  obtain ⟨t, merged, standard, mem, -, sites, sorted, perm, rows⟩ :=
    merge?_spec some fun s mem => (same s mem).symm ▸ isUnit
  have unit_eq : t.unit = unit := by
    obtain ⟨s, listed, here⟩ := List.mem_map.mp mem
    exact here ▸ same s listed
  refine ⟨t, merged, standard, unit_eq, sites, fun site line => ?_⟩
  have isUnit' : IsDuration t.unit := unit_eq ▸ isUnit
  have hits := hits_addends t.unit perm site line
  have ticks := ticks_addends t.unit perm site line isUnit' fun s mem _ => (same s mem).trans unit_eq.symm
  rw [standard.total_rowsFor, rows, total, ← hits, ← ticks]
  simp only [addends_eq_nil t.unit perm]
  rfl

/-- **The sum of two sums** is a sum. -/
theorem add (isUnit : IsDuration unit) (hs : IsSum unit l s) (ht : IsSum unit l' t) :
    (s + t).Standard ∧ IsSum unit (l ++ l') (s + t) := by
  have same : ∀ x ∈ [s, t], x.unit = unit := by
    intro x mem
    rcases List.mem_cons.mp mem with rfl | mem
    · exact hs.unit
    · rw [List.mem_singleton.mp mem]
      exact ht.unit
  obtain ⟨sum, merged, standard, sums⟩ := merge? (List.cons_ne_nil _ _) isUnit same
  have there : s + t = sum := by
    have unfolded : s + t = (Snapshot.merge? [s, t]).getD s := rfl
    rw [unfolded, merged]
    rfl
  rw [there]
  refine ⟨standard, sums.unit, fun site => ?_, fun site line => ?_⟩
  · rw [sums.sites]
    simp only [List.mem_cons, List.not_mem_nil, or_false, exists_eq_left,
      hs.sites, ht.sites, List.mem_append, or_and_right, exists_or]
  · have pair : listed [s, t] site line = s.rowsFor site line ++ t.rowsFor site line := by
      unfold listed
      simp
    have split : listed (l ++ l') site line = listed l site line ++ listed l' site line :=
      List.flatMap_append
    rw [sums.rows, pair, split]
    exact total_append line (hs.rows site line) (ht.rows site line)

end IsSum

/-! ## Groupings -/

/-- Snapshots that are put together two by two: as `a + b`, or by adding `b` to a kept `a`. -/
inductive Grouping where
  | one (s : Snapshot)
  | sum (a b : Grouping)
  | onto (a b : Grouping)

namespace Grouping

/-- The snapshots that are put together. -/
def leaves : Grouping → List Snapshot
  | one s => [s]
  | sum a b => a.leaves ++ b.leaves
  | onto a b => a.leaves ++ b.leaves

/-- What comes out. -/
def value : Grouping → Snapshot
  | one s => s
  | sum a b => a.value + b.value
  | onto a b => ((accumulate b.value).run a.value).2

/-- Adding to a snapshot in its place gives the sum. -/
theorem run_accumulate (a b : Snapshot) : ((accumulate b).run a).2 = a + b := by
  have sum : a + b = (merge? [a, b]).getD a := rfl
  rw [sum]
  cases merged : merge? [a, b] <;> simp [accumulate, merged] <;> rfl

/-- **A grouping gives the sum** of its snapshots. -/
theorem isSum {unit : Float} (isUnit : IsDuration unit) (g : Grouping)
    (same : ∀ s ∈ g.leaves, s.unit = unit) : IsSum unit g.leaves g.value := by
  induction g with
  | one s => exact .single (same s (List.mem_singleton.mpr rfl))
  | sum a b iha ihb =>
    have left := iha fun s mem => same s (List.mem_append_left _ mem)
    have right := ihb fun s mem => same s (List.mem_append_right _ mem)
    exact (left.add isUnit right).2
  | onto a b iha ihb =>
    have left := iha fun s mem => same s (List.mem_append_left _ mem)
    have right := ihb fun s mem => same s (List.mem_append_right _ mem)
    rw [value, run_accumulate]
    exact (left.add isUnit right).2

end Grouping

/-! ## Merging is exact -/

theorem merge_of_merge? {snapshots : List Snapshot} {t : Snapshot} (h : merge? snapshots = some t) :
    merge snapshots = .ok t := by
  unfold merge
  rw [h]

/-- **Merging is an exact sum.** Snapshots, whatever their units, are merged in the coarsest unit,
in standard form: at every line of a function that some snapshot lists there is one row, with all
hits, and with all ticks if only snapshots of the coarsest unit have the line. Of snapshots of one
unit neither the order matters nor how they are put together two by two. -/
theorem merge_exact (snapshots : List Snapshot) (some : snapshots ≠ [])
    (units : ∀ s ∈ snapshots, IsDuration s.unit) :
    ∃ t, merge snapshots = .ok t ∧ t.Standard ∧
      t.unit ∈ snapshots.map unit ∧ (∀ s ∈ snapshots, s.unit ≤ t.unit) ∧
      (∀ site, site ∈ t.timings.keys ↔ ∃ s ∈ snapshots, site ∈ s.timings.keys) ∧
      (∀ site line, t.rowsFor site line = [] ↔ listed snapshots site line = []) ∧
      (∀ site line, ∀ row ∈ t.rowsFor site line,
        row.hits.toNat = min ((listed snapshots site line).map fun r => r.hits.toNat).sum
          (2 ^ 64 - 1) ∧
        ((∀ s ∈ snapshots, s.rowsFor site line ≠ [] → s.unit = t.unit) →
          row.ticks.toNat = min ((listed snapshots site line).map fun r => r.ticks.toNat).sum
            (2 ^ 64 - 1))) ∧
      ((∀ s ∈ snapshots, s.unit = t.unit) →
        (∀ snapshots' : List Snapshot, snapshots'.Perm snapshots → merge snapshots' = .ok t) ∧
        ∀ a b : Grouping, (a.leaves ++ b.leaves).Perm snapshots →
          (a.sum b).value = t ∧ (a.onto b).value = t) := by
  obtain ⟨t, merged, standard, mem, largest, sites, sorted, perm, rows⟩ := merge?_spec some units
  have isUnit : IsDuration t.unit := by
    obtain ⟨s, listed, here⟩ := List.mem_map.mp mem
    exact here ▸ units s listed
  refine ⟨t, merge_of_merge? merged, standard, mem, largest, sites, fun site line => ?_,
    fun site line row there => ?_, fun same => ?_⟩
  · rw [rows, ← addends_eq_nil t.unit perm]
    split <;> simp_all
  · rw [rows] at there
    split at there
    · cases there
    rw [List.mem_singleton.mp there, hits_addends t.unit perm site line]
    refine ⟨by rw [Counter.toNat_sum, List.map_map]; rfl, fun coarse => ?_⟩
    rw [ticks_addends t.unit perm site line isUnit coarse, Counter.toNat_sum, List.map_map]
    rfl
  · obtain ⟨t', merged', standard', sum⟩ := IsSum.merge? some isUnit same
    cases merged.symm.trans merged'
    constructor
    · intro snapshots' perm'
      have some' : snapshots' ≠ [] := fun none => some (List.nil_perm.mp (none ▸ perm'))
      have same' : ∀ s ∈ snapshots', s.unit = t.unit := fun s mem => same s (perm'.mem_iff.mp mem)
      obtain ⟨t', merged', standard', sum'⟩ := IsSum.merge? some' isUnit same'
      rw [sum.unique sum' perm'.symm standard standard']
      exact merge_of_merge? merged'
    · intro a b leaves
      have same' : ∀ s ∈ a.leaves ++ b.leaves, s.unit = t.unit := fun s mem =>
        same s (leaves.mem_iff.mp mem)
      have left := a.isSum isUnit fun s mem => same' s (List.mem_append_left _ mem)
      have right := b.isSum isUnit fun s mem => same' s (List.mem_append_right _ mem)
      obtain ⟨standard', sum'⟩ := left.add isUnit right
      have here := sum'.unique sum leaves standard' standard
      exact ⟨here, (Grouping.run_accumulate _ _).trans here⟩

/-- Where the function of the two runs below stands. -/
def loader : Site := ⟨"pipeline.py", 3, "load"⟩

/-- A run whose rows are out of order, with a line that is listed twice. -/
def coarseRun : Snapshot :=
  ⟨1e-6, ⟨[(loader, [⟨5, 2, 40⟩, ⟨4, 1, 7⟩, ⟨5, 1, 0xffffffffffffffff⟩])]⟩⟩

/-- A run that is measured in a finer unit, and did not come to line 5. -/
def fineRun : Snapshot := ⟨1e-9, ⟨[(loader, [⟨4, 3, 2500⟩])]⟩⟩

/-- A line that the coarser run alone lists keeps its exact ticks, at the limit of counting. -/
theorem merge_exact_two_units : ∃ t, merge [fineRun, coarseRun] = .ok t ∧ t.unit = 1e-6 ∧
    t.rowsFor loader 5 ≠ [] ∧
    (∀ row ∈ t.rowsFor loader 5, row.hits = 3 ∧ row.ticks = Counter.top) ∧
    ∀ row ∈ t.rowsFor loader 4, row.hits = 4 := by
  have units : ∀ s ∈ [fineRun, coarseRun], IsDuration s.unit := by
    have both : IsDuration fineRun.unit ∧ IsDuration coarseRun.unit := by
      unfold IsDuration
      decide +kernel
    intro s mem
    rcases List.mem_cons.mp mem with rfl | mem
    · exact both.1
    · rw [List.mem_singleton.mp mem]
      exact both.2
  obtain ⟨t, merged, standard, mem, largest, -, listed, rows, -⟩ :=
    merge_exact [fineRun, coarseRun] (List.cons_ne_nil _ _) units
  have unit : t.unit = 1e-6 := by
    have coarse := largest coarseRun (by simp)
    rcases List.mem_cons.mp mem with here | mem
    · rw [here] at coarse
      exact absurd coarse (by decide +kernel)
    · exact List.mem_singleton.mp mem
  have alone : ∀ s ∈ [fineRun, coarseRun], s.rowsFor loader 5 ≠ [] → s.unit = t.unit := by
    intro s mem some
    rcases List.mem_cons.mp mem with rfl | mem
    · exact absurd rfl some
    · rw [List.mem_singleton.mp mem, unit]
      rfl
  refine ⟨t, merged, unit, fun none => ?_, fun row there => ?_, fun row there => ?_⟩
  · exact absurd ((listed loader 5).mp none) (by decide)
  · obtain ⟨hits, ticks⟩ := rows loader 5 row there
    have ticks := ticks alone
    exact ⟨UInt64.toNat_inj.mp (hits.trans (by decide)),
      UInt64.toNat_inj.mp (ticks.trans (by decide))⟩
  · have hits := (rows loader 4 row there).1
    exact UInt64.toNat_inj.mp (hits.trans (by decide))

end LineClock.Snapshot

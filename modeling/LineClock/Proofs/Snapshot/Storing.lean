import LineClock.Proofs.Files
import LineClock.Proofs.MessagePack
import LineClock.Proofs.Profiler.Filing
import LineClock.Proofs.Snapshot.Merging
import LineClock.Snapshot.File

/-!
# Stored snapshots are read back

The tree of a snapshot holds its functions as they stand: what is read from it is what is made of
them. If its texts and lists are no longer than 32 bits can tell, it is stored without loss.

A snapshot that is read is in standard form: of what was stored, the rows of each line are put
together. Snapshots that a profiler hands out, that are merged or that were read are in this form
already, so they come back as they were.

Main statements: `Tree.snapshot?_ofSnapshot`, `Snapshot.Brief.lossless` and `stored_exact`.
-/

namespace LineClock

namespace Tree

/-! ## Snapshots as trees: fields -/

theorem below?_whole {n bound : Nat} (h : n < bound) : below? bound (whole n) = some n :=
  if_pos ⟨Int.natCast_nonneg n, Int.ofNat_lt.mpr h⟩

theorem line?_whole (line : UInt32) : line? (whole line.toNat) = some line := by
  unfold line?
  rw [below?_whole line.toNat_lt]
  simp

theorem counter?_whole (c : Counter) : counter? (whole c.toNat) = some c := by
  unfold counter?
  rw [below?_whole c.toNat_lt]
  simp

theorem fields?_row (line hits ticks : Tree) :
    fields? rowFields (record [(.name "lineno", line), (.name "hits", hits),
      (.name "total_ticks", ticks)]) = some [line, hits, ticks] := by
  simp [fields?, rowFields, field?, marks]

theorem fields?_function (file first name lines : Tree) :
    fields? functionFields (record [(.name "filename", file), (.name "first_line", first),
      (.name "name", name), (.name "lines", lines)]) = some [file, first, name, lines] := by
  simp [fields?, functionFields, field?, marks]

theorem fields?_snapshot (unit functions : Tree) :
    fields? snapshotFields (record [(.name "unit", unit), (.name "functions", functions)]) =
      some [unit, functions] := by
  simp [fields?, snapshotFields, field?, marks]

/-! ## Snapshots as trees: records -/

theorem row?_of_fields {t line hits ticks : Tree}
    (h : t.fields? rowFields = some [line, hits, ticks]) :
    t.row? = (do return ⟨← line.line?, ← hits.counter?, ← ticks.counter?⟩) := by
  unfold row?
  rw [h]
  rfl

theorem row?_ofRow (r : Row) : (ofRow r).row? = some r := by
  have fields : (ofRow r).fields? rowFields =
      some [whole r.line.toNat, whole r.hits.toNat, whole r.ticks.toNat] := fields?_row _ _ _
  rw [row?_of_fields fields, line?_whole, counter?_whole, counter?_whole]
  rfl

/-- What every item is read back from, all are. -/
theorem mapM_map {α : Type} {read : Tree → Option α} {write : α → Tree}
    (back : ∀ a, read (write a) = some a) (l : List α) : (l.map write).mapM read = some l := by
  induction l with
  | nil => rfl
  | cons a rest ih =>
    rw [List.map_cons, List.mapM_cons, back, ih]
    rfl

theorem function?_of_fields {t file first name lines : Tree}
    (h : t.fields? functionFields = some [file, first, name, lines]) :
    t.function? = (do
      return (⟨← file.text?, ← first.line?, ← name.text?⟩, ← (← lines.items?).mapM row?)) := by
  unfold function?
  rw [h]
  rfl

theorem function?_ofFunction (f : Site × List Row) : (ofFunction f).function? = some f := by
  have fields : (ofFunction f).fields? functionFields = some [text f.1.file,
      whole f.1.firstLine.toNat, text f.1.name, list (f.2.map ofRow)] := fields?_function _ _ _ _
  have items : items? (list (f.2.map ofRow)) = some (f.2.map ofRow) := rfl
  rw [function?_of_fields fields, line?_whole, items]
  simp only [text?, Option.bind_eq_bind, Option.bind_some, mapM_map row?_ofRow]
  rfl

theorem snapshot?_of_fields {t unit functions : Tree}
    (h : t.fields? snapshotFields = some [unit, functions]) :
    t.snapshot? = (do
      return Snapshot.ofFunctions (← unit.seconds?) (← (← functions.items?).mapM function?)) := by
  unfold snapshot?
  rw [h]
  rfl

/-- **What is read from a snapshot's tree** is made of its functions as they stand. -/
theorem snapshot?_ofSnapshot (s : Snapshot) :
    (ofSnapshot s).snapshot? = some (Snapshot.ofFunctions s.unit s.timings.entries) := by
  have fields : (ofSnapshot s).fields? snapshotFields =
      some [real s.unit, list (s.timings.entries.map ofFunction)] := fields?_snapshot _ _
  have items : items? (list (s.timings.entries.map ofFunction)) =
      some (s.timings.entries.map ofFunction) := rfl
  rw [snapshot?_of_fields fields, items]
  simp only [seconds?, Option.bind_eq_bind, Option.bind_some, mapM_map function?_ofFunction]
  rfl

/-- A snapshot that is read from a tree is made of functions. -/
theorem eq_ofFunctions {t : Tree} {s : Snapshot} (h : t.snapshot? = some s) :
    ∃ unit functions, s = Snapshot.ofFunctions unit functions := by
  unfold snapshot? at h
  obtain ⟨fields, -, h⟩ := Option.bind_eq_some_iff.mp h
  split at h
  · obtain ⟨unit, -, h⟩ := Option.bind_eq_some_iff.mp h
    obtain ⟨items, -, h⟩ := Option.bind_eq_some_iff.mp h
    obtain ⟨functions, -, h⟩ := Option.bind_eq_some_iff.mp h
    cases h
    exact ⟨unit, functions, rfl⟩
  · cases h

end Tree

/-! ## Lengths -/

namespace Snapshot

open MessagePack

/-- A snapshot whose texts and lists are no longer than 32 bits can tell. -/
structure Brief (s : Snapshot) : Prop where
  functions : s.timings.entries.length < 2 ^ 32
  rows : ∀ f ∈ s.timings.entries, f.2.length < 2 ^ 32
  files : ∀ f ∈ s.timings.entries, (Bytes.ofString f.1.file).length < 2 ^ 32
  names : ∀ f ∈ s.timings.entries, (Bytes.ofString f.1.name).length < 2 ^ 32

/-- A snapshot whose tree is read back as it was stored. -/
def Lossless (s : Snapshot) : Prop :=
  MessagePack.decode? (MessagePack.encode (Tree.ofSnapshot s)) = some (Tree.ofSnapshot s)

/-- The names of all fields are short. -/
theorem storable_names : ∀ name ∈ Tree.rowFields ++ Tree.functionFields ++ Tree.snapshotFields,
    StorableLabel (.name name) := by
  unfold StorableLabel
  decide +kernel

theorem storable_ofRow (depth : Nat) (r : Row) : Storable (depth + 2) (Tree.ofRow r) := by
  have line := r.line.toNat_lt
  have hits := UInt64.toNat_lt r.hits
  have ticks := UInt64.toNat_lt r.ticks
  refine ⟨by omega, by simp, fun f mem => ?_⟩
  simp only [List.mem_cons, List.not_mem_nil, or_false] at mem
  rcases mem with rfl | rfl | rfl
  · exact ⟨storable_names _ (by decide), by unfold Storable; omega⟩
  · exact ⟨storable_names _ (by decide), by unfold Storable; omega⟩
  · exact ⟨storable_names _ (by decide), by unfold Storable; omega⟩

theorem storable_ofFunction {depth : Nat} {f : Site × List Row} (rows : f.2.length < 2 ^ 32)
    (file : (Bytes.ofString f.1.file).length < 2 ^ 32)
    (name : (Bytes.ofString f.1.name).length < 2 ^ 32) :
    Storable (depth + 4) (Tree.ofFunction f) := by
  have first := f.1.firstLine.toNat_lt
  refine ⟨by omega, by simp, fun field mem => ?_⟩
  simp only [List.mem_cons, List.not_mem_nil, or_false] at mem
  rcases mem with rfl | rfl | rfl | rfl
  · exact ⟨storable_names _ (by decide), file⟩
  · exact ⟨storable_names _ (by decide), by unfold Storable; omega⟩
  · exact ⟨storable_names _ (by decide), name⟩
  · refine ⟨storable_names _ (by decide), by omega, by rwa [List.length_map], fun t mem => ?_⟩
    obtain ⟨r, -, rfl⟩ := List.mem_map.mp mem
    exact storable_ofRow depth r

/-- **Short texts and lists are stored without loss.** -/
theorem Brief.lossless {s : Snapshot} (h : s.Brief) : s.Lossless := by
  have whole : ∀ depth, Storable (depth + 6) (Tree.ofSnapshot s) := by
    intro depth
    refine ⟨by omega, by simp, fun field mem => ?_⟩
    simp only [List.mem_cons, List.not_mem_nil, or_false] at mem
    rcases mem with rfl | rfl
    · exact ⟨storable_names _ (by decide), trivial⟩
    · refine ⟨storable_names _ (by decide), by omega, ?_, fun t mem => ?_⟩
      · rw [List.length_map]
        exact h.functions
      · obtain ⟨f, listed, rfl⟩ := List.mem_map.mp mem
        exact storable_ofFunction (h.rows f listed) (h.files f listed) (h.names f listed)
  exact decode?_encode (whole 1018)

variable {s t : Snapshot}

/-! ## Standard form -/

/-- Whatever functions a snapshot is made of, it is in standard form. -/
theorem standard_ofFunctions (unit : Float) (functions : List (Site × List Row)) :
    (ofFunctions unit functions).Standard where
  sites := (Ordered.sorted_empty.foldl_alter functions Prod.fst
    fun f rows => rows.getD [] ++ f.2).mapValues _
  rows site rows found := by
    rw [get?, ofFunctions, Ordered.get?_mapValues, Option.map_eq_some_iff] at found
    obtain ⟨filed, -, rfl⟩ := found
    exact Row.ascending_merged filed

/-- A snapshot with the rows of each function merged. -/
def normal (s : Snapshot) : Snapshot := ⟨s.unit, s.timings.mapValues Row.merged⟩

/-- The functions of a snapshot make it again, with their rows merged. -/
theorem ofFunctions_entries (sorted : s.timings.Sorted) :
    ofFunctions s.unit s.timings.entries = s.normal := by
  -- Each site stands once, so nothing is put behind rows that are already there.
  let behind (rows : List Row) (before : Option (List Row)) : List Row := before.getD [] ++ rows
  have first : ∀ rows, behind rows none = rows := fun rows => List.nil_append rows
  have once := sorted.foldl_entries first
  unfold ofFunctions normal
  exact congrArg (fun m => Snapshot.mk s.unit (m.mapValues Row.merged)) once

/-- **What is in standard form stays as it is.** -/
theorem Standard.normal_eq (h : s.Standard) : s.normal = s := by
  have timings : s.timings.mapValues Row.merged = s.timings := by
    refine (h.sites.mapValues _).ext h.sites fun site => ?_
    rw [Ordered.get?_mapValues]
    cases found : s.timings.get? site with
    | none => rfl
    | some rows => exact congrArg some (Row.merged_eq_self (h.rows site rows found))
  unfold normal
  rw [timings]

/-! ## Where snapshots come from -/

/-- A snapshot that a profiler hands out, that is merged from others, or that was read. -/
inductive Arises : Snapshot → Prop where
  | taken {p : Profiler} (reached : p.Reached) : Arises p.snapshot
  | merged {snapshots : List Snapshot} {s : Snapshot} (done : merge snapshots = .ok s) : Arises s
  | sum (a b : Snapshot) : Arises (a + b)
  | accumulated (a b : Snapshot) : Arises ((accumulate b).run a).2
  | stored {path : String} {bytes : Bytes} {s : Snapshot} (done : decode path bytes = .ok s) :
    Arises s

/-- Two snapshots can always be merged. -/
theorem merge?_pair (a b : Snapshot) : ∃ t, merge? [a, b] = some t := ⟨_, rfl⟩

/-- **All snapshots that arise are in standard form.** -/
theorem Arises.standard (h : s.Arises) : s.Standard := by
  cases h with
  | taken reached =>
    obtain ⟨changes, recorded⟩ := reached
    exact recorded.standard
  | @merged snapshots s done =>
    unfold merge at done
    cases there : merge? snapshots with
    | none =>
      rw [there] at done
      cases done
    | some t =>
      rw [there] at done
      cases done
      exact standard_of_merge? there
  | sum a b =>
    obtain ⟨t, there⟩ := merge?_pair a b
    have same : a + b = t := congrArg (·.getD a) there
    exact same ▸ standard_of_merge? there
  | accumulated a b =>
    obtain ⟨t, there⟩ := merge?_pair a b
    have same : a + b = t := congrArg (·.getD a) there
    rw [Grouping.run_accumulate, same]
    exact standard_of_merge? there
  | @stored path bytes s done =>
    unfold decode at done
    split at done
    · split at done
      · rename_i t there
        cases done
        obtain ⟨tree, -, read⟩ := Option.bind_eq_some_iff.mp there
        obtain ⟨unit, functions, rfl⟩ := Tree.eq_ofFunctions read
        exact standard_ofFunctions unit functions
      · cases done
    · cases done

/-! ## Bytes and files -/

/-- **What is read from a stored snapshot** is the snapshot with its rows merged. -/
theorem decode_encode (sorted : s.timings.Sorted) (lossless : s.Lossless) (path : String) :
    decode path s.encode = .ok s.normal := by
  have starts : magic.isPrefixOf s.encode = true := List.isPrefixOf_iff_prefix.mpr ⟨_, rfl⟩
  have rest : s.encode.drop magic.length = MessagePack.encode (Tree.ofSnapshot s) :=
    List.drop_left
  unfold Lossless at lossless
  unfold decode
  rw [if_pos starts, rest, lossless, Option.bind_some, Tree.snapshot?_ofSnapshot,
    ofFunctions_entries sorted]

/-- What is written to a disk that reads back is read as it is decoded. -/
theorem read_write {σ : Type} {disk : Disk (StateM σ)} {path : String} {x : σ}
    (back : disk.ReadsBack path) (done : ((disk.write path s.encode).run x).1 = .ok ()) :
    ((write disk s path).run x).1 = .ok () ∧
      ((read disk path).run ((write disk s path).run x).2).1 = decode path s.encode := by
  have read' := back _ x done
  rcases there : (disk.write path s.encode).run x with ⟨out, x'⟩
  rw [there] at done read'
  cases done
  have wrote : (write disk s path).run x = (.ok (), x') := by
    unfold write
    rw [StateT.run_bind, there]
    rfl
  rw [wrote]
  refine ⟨rfl, ?_⟩
  rcases there' : (disk.read path).run x' with ⟨out', x''⟩
  rw [there'] at read'
  cases read'
  unfold read
  rw [StateT.run_bind, there']
  generalize decode path = decoded
  rfl

/-- A snapshot lists the same functions as another, with one row for each line instead of all rows of
the line, in ascending order, that has their saturating sums. -/
structure Normalizes (s t : Snapshot) : Prop where
  unit : t.unit = s.unit
  sites : t.timings.keys = s.timings.keys
  rows : ∀ site rows, s.get? site = some rows → ∃ rows', t.get? site = some rows' ∧
    Row.Ascending rows' ∧ ∀ r, r ∈ rows' ↔ Row.onLine r.line rows ≠ [] ∧
      r.hits = Counter.sum ((Row.onLine r.line rows).map Row.hits) ∧
      r.ticks = Counter.sum ((Row.onLine r.line rows).map Row.ticks)

theorem normalizes_normal (s : Snapshot) : Normalizes s s.normal where
  unit := rfl
  sites := Ordered.keys_mapValues _ _
  rows site rows found := by
    refine ⟨Row.merged rows, ?_, Row.ascending_merged rows, Row.mem_merged rows⟩
    have mapped : s.normal.get? site = (s.get? site).map Row.merged := Ordered.get?_mapValues _ _ _
    rw [mapped, found]
    rfl

/-- **Stored snapshots are read back**, if the format loses nothing, which it does not where texts and
lists are no longer than 32 bits can tell: the same functions, with the rows of each line put
together, and just the same snapshot if it came from a profiler, from merging or from reading. This
holds of the bytes as of any disk that reads back what was written, such as the one in memory. -/
theorem stored_exact (s : Snapshot) (sorted : s.timings.Sorted) :
    (s.Brief → s.Lossless) ∧
    (s.Lossless → ∃ t, Normalizes s t ∧ (s.Arises → t = s) ∧
      (∀ path, decode path s.encode = .ok t) ∧
      ∀ {σ : Type} (disk : Disk (StateM σ)) (path : String) (x : σ), disk.ReadsBack path →
        ((disk.write path s.encode).run x).1 = .ok () →
        ((write disk s path).run x).1 = .ok () ∧
          ((read disk path).run ((write disk s path).run x).2).1 = .ok t) ∧
    ∀ path, Files.disk.ReadsBack path := by
  refine ⟨Brief.lossless, fun lossless => ?_, Files.readsBack_disk⟩
  refine ⟨s.normal, normalizes_normal s, fun arises => arises.standard.normal_eq,
    decode_encode sorted lossless, fun disk path x back done => ?_⟩
  obtain ⟨wrote, got⟩ := read_write back done
  exact ⟨wrote, got.trans (decode_encode sorted lossless path)⟩

/-- Rows of a function as they may be put together by hand: a line twice, and out of order. -/
def loose : Snapshot := ⟨1e-9, ⟨[(loader, [⟨5, 2, 7⟩, ⟨4, 1, 3⟩, ⟨5, 3, 11⟩])]⟩⟩

theorem brief_loose : loose.Brief := by
  refine ⟨by decide, ?_, ?_, ?_⟩ <;> decide +kernel

theorem brief_normal_loose : loose.normal.Brief := by
  refine ⟨by decide, ?_, ?_, ?_⟩ <;> decide +kernel

/-- Loose rows are put together in a file, and what is read then stays as it is. -/
theorem stored_exact_of_loose : loose.timings.Sorted ∧ ¬ loose.Standard ∧
    ∃ t, Normalizes loose t ∧ t.get? loader = some [⟨4, 1, 3⟩, ⟨5, 5, 18⟩] ∧
      ((read Files.disk "out.lprof").run ((write Files.disk loose "out.lprof").run {}).2).1 = .ok t ∧
      t.Arises ∧ decode "out.lprof" t.encode = .ok t := by
  have sorted : loose.timings.Sorted := List.pairwise_singleton _ _
  have again : loose.normal.timings.Sorted := List.pairwise_singleton _ _
  obtain ⟨small, stored, back⟩ := stored_exact loose sorted
  obtain ⟨t, normal, -, bytes, files⟩ := stored (small brief_loose)
  have writable : ∀ bytes, ((Files.disk.write "out.lprof" bytes).run {}).1 = .ok () := by
    intro bytes
    rw [Files.run_write_disk, Files.write_eq_ok_iff.mpr ⟨?_, rfl⟩]
    decide +kernel
  have arises : t.Arises := .stored (bytes "out.lprof")
  have same : t = loose.normal :=
    Except.ok.inj ((bytes "").symm.trans (decode_encode sorted (small brief_loose) ""))
  refine ⟨sorted, fun standard => ?_, t, normal, same ▸ rfl,
    (files Files.disk "out.lprof" {} (back _) (writable _)).2, arises, ?_⟩
  · exact absurd (standard.rows loader _ rfl) (by decide)
  · rw [same] at arises ⊢
    obtain ⟨small', stored', -⟩ := stored_exact loose.normal again
    obtain ⟨t', -, kept, bytes', -⟩ := stored' (small' brief_normal_loose)
    rw [bytes', kept arises]

end Snapshot

end LineClock

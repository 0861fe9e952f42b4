import LineClock.Files

/-!
# What was written is read

A path is stored in one form, so a file that was written is found again under its path. Main
statement: `Files.readsBack_disk`.
-/

namespace LineClock

/-- What can be written to a path of a disk is read there afterwards. -/
def Disk.ReadsBack {σ : Type} (disk : Disk (StateM σ)) (path : String) : Prop :=
  ∀ bytes x, ((disk.write path bytes).run x).1 = .ok () →
    ((disk.read path).run ((disk.write path bytes).run x).2).1 = .ok bytes

namespace Files

/-! ## Paths -/

/-- What stands between two separators has none. -/
theorem not_mem_of_mem_splitOn {sep : Char} {text piece : List Char}
    (mem : piece ∈ text.splitOn sep) : sep ∉ piece := by
  induction text generalizing piece with
  | nil =>
    rw [List.splitOn_nil, List.mem_singleton] at mem
    rw [mem]
    exact List.not_mem_nil
  | cons c rest ih =>
    rw [List.splitOn_cons_eq_if_modifyHead] at mem
    split at mem
    · rcases List.mem_cons.mp mem with rfl | mem
      · exact List.not_mem_nil
      · exact ih mem
    · rename_i differ
      cases pieces : rest.splitOn sep with
      | nil => exact absurd pieces (List.splitOn_ne_nil sep rest)
      | cons first more =>
        rw [pieces] at mem ih
        rcases List.mem_cons.mp mem with rfl | mem
        · rw [List.mem_cons, not_or]
          exact ⟨fun same => differ (by rw [same]; exact beq_self_eq_true c), ih List.mem_cons_self⟩
        · exact ih (List.mem_cons_of_mem _ mem)

/-- A component of a path has no separator. -/
theorem not_mem_of_mem_components {path c : String} (mem : c ∈ components path) :
    '/' ∉ c.toList := by
  obtain ⟨piece, split, rfl⟩ := List.mem_map.mp (List.mem_filter.mp mem).1
  rw [String.toList_ofList]
  exact not_mem_of_mem_splitOn split

/-- **The stored form of a path** has the components of the path. -/
theorem components_intercalate (path : String) :
    components ("/".intercalate (components path)) = components path := by
  by_cases none : components path = []
  · rw [none]
    decide
  · have slash : "/".toList = ['/'] := rfl
    have pieces : ("/".intercalate (components path)).toList.splitOn '/' =
        (components path).map String.toList := by
      rw [String.toList_intercalate, slash]
      refine List.splitOn_intercalate '/' (fun l mem => ?_) fun empty => ?_
      · obtain ⟨c, listed, rfl⟩ := List.mem_map.mp mem
        exact not_mem_of_mem_components listed
      · exact none (List.map_eq_nil_iff.mp empty)
    have texts : ((components path).map String.toList).map String.ofList = components path := by
      rw [List.map_map]
      exact (List.map_congr_left fun c _ => String.ofList_toList).trans (List.map_id _)
    have kept : ((components path).filter fun c => c ≠ "" ∧ c ≠ ".") = components path := by
      refine List.filter_eq_self.mpr fun c mem => ?_
      exact (List.mem_filter.mp mem).2
    have unfolded (text : String) : components text =
        ((text.toList.splitOn '/').map String.ofList).filter fun c => c ≠ "" ∧ c ≠ "." := rfl
    rw [unfolded, pieces, texts, kept]

/-! ## Directories -/

variable {files : Files} {name : String} {bytes : Bytes}

/-- Writing a file takes none away, and makes none but its own. -/
theorem mem_keys_set (k : String) :
    k ∈ (files.contents.set name bytes).keys ↔ name = k ∨ k ∈ files.contents.keys := by
  have after := Assoc.get?_eq_none_iff (files.contents.set name bytes) k
  have before := Assoc.get?_eq_none_iff files.contents k
  rw [Assoc.get?_set] at after
  by_cases here : name = k
  · simpa [here] using after
  · rw [if_neg here, before] at after
    simp only [here, false_or]
    exact ⟨fun mem => Decidable.byContradiction fun absent => after.mp absent mem,
      fun mem => Decidable.byContradiction fun absent => after.mpr absent mem⟩

/-- A directory stays one when a file is written. -/
theorem isDirectory_set {path : List String} (there : files.isDirectory path = true) :
    (Files.mk (files.contents.set name bytes)).isDirectory path = true := by
  unfold isDirectory at there ⊢
  rw [Bool.or_eq_true, List.any_eq_true] at there ⊢
  refine there.imp id ?_
  rintro ⟨k, listed, below⟩
  exact ⟨k, (mem_keys_set k).mpr (.inr listed), below⟩

/-- No directory comes about above a file that is written. -/
theorem not_isDirectory_set {path : String} (none : files.isDirectory (components path) = false) :
    (Files.mk (files.contents.set ("/".intercalate (components path)) bytes)).isDirectory
      (components path) = false := by
  unfold isDirectory at none ⊢
  rw [Bool.or_eq_false_iff, List.any_eq_false] at none ⊢
  refine ⟨none.1, fun k listed => ?_⟩
  rcases (mem_keys_set k).mp listed with rfl | listed
  · rw [components_intercalate]
    simp
  · exact none.2 k listed

/-- A walk that arrives arrives also when a file was written. -/
theorem walk_set (rest : List String) {above : List String} (arrives : files.walk above rest = .ok ()) :
    (Files.mk (files.contents.set name bytes)).walk above rest = .ok () := by
  induction rest generalizing above with
  | nil => rfl
  | cons c rest ih =>
    unfold walk at arrives ⊢
    split at arrives
    · cases arrives
    · rename_i short
      rw [if_neg short]
      split at arrives
      · rename_i last
        rw [if_pos last]
      · rename_i more
        rw [if_neg more]
        split at arrives
        · rename_i there
          rw [if_pos (isDirectory_set there)]
          exact ih arrives
        · split at arrives <;> cases arrives

/-! ## Writing and reading -/

/-- What a file needs to be written, and what is written then. -/
theorem write_eq_ok_iff {files' : Files} {path : String} : files.write path bytes = .ok files' ↔
    (checkName path = .ok () ∧ ¬ (path.startsWith "/" ∧ components path ≠ []) ∧
      files.walk [] (components path) = .ok () ∧ path.endsWith "/" = false ∧
      files.isDirectory (components path) = false) ∧
      files' = ⟨files.contents.set ("/".intercalate (components path)) bytes⟩ := by
  unfold write
  simp only [bind, Except.bind, pure, Except.pure, throw, throwThe, MonadExceptOf.throw]
  constructor
  · intro h
    cases name : checkName path with
    | error err =>
      rw [name] at h
      cases h
    | ok _ =>
      rw [name] at h
      simp only at h
      split at h
      · cases h
      · rename_i below
        cases arrives : files.walk [] (components path) with
        | error err =>
          rw [arrives] at h
          cases h
        | ok _ =>
          rw [arrives] at h
          simp only at h
          split at h
          · cases h
          · rename_i free
            rw [not_or, Bool.not_eq_true, Bool.not_eq_true] at free
            cases h
            exact ⟨⟨rfl, below, rfl, free⟩, rfl⟩
  · rintro ⟨⟨name, below, arrives, ends, free⟩, rfl⟩
    rw [name, if_neg below]
    simp only
    rw [arrives]
    simp [ends, free]

/-- **A file that was written is read.** -/
theorem read_write {files' : Files} {path : String} (h : files.write path bytes = .ok files') :
    files'.read path = .ok bytes := by
  obtain ⟨⟨name, below, arrives, ends, free⟩, rfl⟩ := write_eq_ok_iff.mp h
  unfold read
  simp only [bind, Except.bind, pure, Except.pure, throw, throwThe, MonadExceptOf.throw]
  rw [name, if_neg below]
  simp only
  rw [walk_set _ arrives, not_isDirectory_set free]
  simp [ends]

/-- A file that can be written is written to the tree in memory. -/
theorem run_write_disk (path : String) (bytes : Bytes) (files : Files) :
    (Files.disk.write path bytes).run files =
      match files.write path bytes with
      | .ok files' => (.ok (), files')
      | .error e => (.error e, files) := by
  show (match files.write path bytes with
    | .ok files' => do
      set files'
      pure (.ok ())
    | .error e => pure (.error e) : StateM Files (Except FileError Unit)).run files = _
  cases files.write path bytes <;> rfl

/-- **The tree in memory reads back** what was written to a path. -/
theorem readsBack_disk (path : String) : Files.disk.ReadsBack path := by
  intro bytes files done
  rw [run_write_disk] at done ⊢
  cases there : files.write path bytes with
  | error e =>
    rw [there] at done
    cases done
  | ok files' => exact read_write there

end Files

end LineClock

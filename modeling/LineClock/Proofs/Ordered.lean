import LineClock.Ordered

/-!
# Laws of sorted entry lists

A map whose keys are strictly ascending is determined by what it has at each key, and altering it
keeps it so. What a run of alterations leaves at a key is what those of them leave that are about
this key. Main statements: `Sorted.get?_alter`, `Sorted.get?_foldl_alter`, `Sorted.ext`.
-/

namespace LineClock.Ordered

variable {κ α β ι : Type} [Ord κ] {m m' : Ordered κ α}

/-! ## Entries -/

section

variable [Std.LawfulEqOrd κ]

/-- What is found at a key, as equality of keys decides it. -/
theorem find?_cons_of_eq [DecidableEq κ] (k k' : κ) (a : α) (l : List (κ × α)) :
    find? k' ((k, a) :: l) = if k = k' then some a else find? k' l := by
  by_cases here : k = k'
  · rw [if_pos here, here]
    exact if_pos Std.ReflCmp.compare_self
  · rw [if_neg here]
    exact if_neg fun same => here (Std.LawfulEqOrd.eq_of_compare same).symm

namespace Sorted

theorem mem_entries_iff (h : m.Sorted) (k : κ) (a : α) :
    (k, a) ∈ m.entries ↔ m.get? k = some a := by
  obtain ⟨l⟩ := m
  unfold Sorted at h
  unfold get?
  simp only at *
  induction l with
  | nil => simp [find?]
  | cons e rest ih =>
    obtain ⟨k₀, a₀⟩ := e
    have tail := List.pairwise_cons.mp h
    unfold find?
    split
    · rename_i same
      cases Std.LawfulEqOrd.eq_of_compare same
      rw [List.mem_cons, Option.some.injEq]
      constructor
      · rintro (here | later)
        · exact (Prod.mk.inj here).2.symm
        · -- The key would stand behind itself.
          have behind := tail.1 (k, a) later
          simp only [Std.ReflCmp.compare_self] at behind
          cases behind
      · rintro rfl
        exact .inl rfl
    · rename_i differ
      rw [List.mem_cons, ← ih tail.2]
      refine or_iff_right fun here => differ ?_
      rw [(Prod.mk.inj here).1]
      exact Std.ReflCmp.compare_self

/-- No key is there twice. -/
theorem nodup_keys (h : m.Sorted) : m.keys.Nodup := by
  refine List.pairwise_map.mpr (h.imp fun {e e'} less same => ?_)
  rw [same] at less
  simp only [Std.ReflCmp.compare_self] at less
  cases less

theorem mem_keys_iff (h : m.Sorted) (k : κ) : k ∈ m.keys ↔ (m.get? k).isSome := by
  unfold keys
  rw [List.mem_map, Option.isSome_iff_exists]
  constructor
  · rintro ⟨⟨_, a⟩, mem, rfl⟩
    exact ⟨a, (h.mem_entries_iff _ a).mp mem⟩
  · rintro ⟨a, found⟩
    exact ⟨(k, a), (h.mem_entries_iff k a).mpr found, rfl⟩

/-- **Sorted maps with the same values are the same.** -/
theorem ext [Std.TransOrd κ] (h : m.Sorted) (h' : m'.Sorted)
    (same : ∀ k, m.get? k = m'.get? k) : m = m' := by
  have nodup : ∀ {m : Ordered κ α}, m.Sorted → m.entries.Nodup := fun sorted =>
    List.Pairwise.of_map Prod.fst (fun _ _ differ same => differ (congrArg Prod.fst same))
      sorted.nodup_keys
  have perm : m.entries.Perm m'.entries := by
    rw [List.perm_ext_iff_of_nodup (nodup h) (nodup h')]
    rintro ⟨k, a⟩
    rw [h.mem_entries_iff, h'.mem_entries_iff, same]
  obtain ⟨l⟩ := m
  obtain ⟨l'⟩ := m'
  refine congrArg Ordered.mk (perm.eq_of_pairwise (fun e e' _ _ before after => ?_) h h')
  rw [Std.OrientedOrd.eq_swap, after] at before
  cases before

end Sorted

end

/-! ## Altering -/

theorem find?_eq_none_of_lt {k : κ} {l : List (κ × α)} (h : ∀ e ∈ l, compare k e.1 = .lt) :
    find? k l = none := by
  induction l with
  | nil => rfl
  | cons e rest ih =>
    unfold find?
    rw [if_neg (by rw [h e List.mem_cons_self]; exact Ordering.noConfusion)]
    exact ih fun e mem => h e (List.mem_cons_of_mem _ mem)

section

variable [Std.TransOrd κ]

theorem Sorted.alter (h : m.Sorted) (k : κ) (f : Option α → α) : (m.alter k f).Sorted := by
  obtain ⟨l⟩ := m
  unfold Sorted Ordered.alter at *
  simp only at *
  induction l with
  | nil => exact List.pairwise_singleton _ _
  | cons e rest ih =>
    obtain ⟨k₀, a⟩ := e
    have tail := List.pairwise_cons.mp h
    unfold place
    split
    · rename_i before
      refine List.pairwise_cons.mpr ⟨fun e mem => ?_, h⟩
      rcases List.mem_cons.mp mem with rfl | mem
      · exact before
      · exact Std.TransCmp.lt_trans before (tail.1 e mem)
    · exact List.pairwise_cons.mpr tail
    · rename_i after
      refine List.pairwise_cons.mpr ⟨fun e mem => ?_, ih tail.2⟩
      -- What stands behind is the altered key or was there.
      have known : e.1 ∈ ((⟨rest⟩ : Ordered κ α).alter k f).keys :=
        List.mem_map.mpr ⟨e, mem, rfl⟩
      rcases mem_keys_alter known with here | old
      · rw [here]
        exact Std.OrientedCmp.lt_of_gt after
      · obtain ⟨e', mem', same⟩ := List.mem_map.mp old
        rw [← same]
        exact tail.1 e' mem'

theorem Sorted.foldl_alter (h : m.Sorted) (l : List ι) (key : ι → κ) (step : ι → Option α → α) :
    (l.foldl (fun m i => m.alter (key i) (step i)) m).Sorted := by
  induction l generalizing m with
  | nil => exact h
  | cons i rest ih => exact ih (h.alter (key i) (step i))

variable [Std.LawfulEqOrd κ] [DecidableEq κ]

namespace Sorted

/-- **What altering a key leaves at a key.** -/
theorem get?_alter (h : m.Sorted) (k k' : κ) (f : Option α → α) :
    (m.alter k f).get? k' = if k = k' then some (f (m.get? k)) else m.get? k' := by
  obtain ⟨l⟩ := m
  unfold Sorted at h
  unfold Ordered.alter get?
  simp only at *
  induction l with
  | nil => exact find?_cons_of_eq _ _ _ _
  | cons e rest ih =>
    obtain ⟨k₀, a⟩ := e
    have tail := List.pairwise_cons.mp h
    unfold place
    split
    · rename_i before
      have none : find? k ((k₀, a) :: rest) = none := by
        refine find?_eq_none_of_lt fun e mem => ?_
        rcases List.mem_cons.mp mem with rfl | mem
        · exact before
        · exact Std.TransCmp.lt_trans before (tail.1 e mem)
      rw [find?_cons_of_eq, none]
    · rename_i same
      cases Std.LawfulEqOrd.eq_of_compare same
      have found : find? k ((k, a) :: rest) = some a := if_pos Std.ReflCmp.compare_self
      rw [find?_cons_of_eq, found]
      split
      · rfl
      · rename_i differ
        exact (if_neg fun same => differ (Std.LawfulEqOrd.eq_of_compare same).symm).symm
    · rename_i after
      have found : find? k ((k₀, a) :: rest) = find? k rest :=
        if_neg (by rw [after]; exact Ordering.noConfusion)
      rw [found]
      by_cases first : compare k' k₀ = .eq
      · have other : ¬ k = k' := by
          rintro rfl
          rw [after] at first
          cases first
        unfold find?
        rw [if_pos first, if_pos first, if_neg other]
      · have ahead : ∀ l : List (κ × α), find? k' ((k₀, a) :: l) = find? k' l :=
          fun _ => if_neg first
        rw [ahead, ahead, ih tail.2]

/-- **What a run of alterations leaves at a key**: only those of this key have a part in it. -/
theorem get?_foldl_alter (h : m.Sorted) (l : List ι) (key : ι → κ)
    (step : ι → Option α → α) (k : κ) :
    (l.foldl (fun m i => m.alter (key i) (step i)) m).get? k =
      (l.filter fun i => key i = k).foldl (fun o i => some (step i o)) (m.get? k) := by
  induction l generalizing m with
  | nil => rfl
  | cons i rest ih =>
    rw [List.foldl_cons, ih (h.alter _ _), h.get?_alter]
    by_cases here : key i = k
    · rw [if_pos here, List.filter_cons_of_pos (by simpa using here), List.foldl_cons, here]
    · rw [if_neg here, List.filter_cons_of_neg (by simpa using here)]

end Sorted

end

/-! ## Collecting a key's values -/

/-- What the entries of a key give is what its value gives. -/
theorem Sorted.flatMap_at [Std.LawfulEqOrd κ] [DecidableEq κ] (h : m.Sorted) (k : κ)
    (g : α → List β) :
    (m.entries.flatMap fun e => if e.1 = k then g e.2 else []) = ((m.get? k).map g).getD [] := by
  obtain ⟨l⟩ := m
  unfold Sorted at h
  unfold get?
  simp only at *
  induction l with
  | nil => rfl
  | cons e rest ih =>
    obtain ⟨k₀, a⟩ := e
    have tail := List.pairwise_cons.mp h
    rw [List.flatMap_cons, ih tail.2, find?_cons_of_eq]
    by_cases here : k₀ = k
    · have behind : find? k rest = none :=
        find?_eq_none_of_lt fun e mem => here ▸ tail.1 e mem
      rw [if_pos here, if_pos here, behind]
      exact List.append_nil _
    · rw [if_neg here, if_neg here, List.nil_append]

/-- The entries of a key. -/
theorem Sorted.filter_at [Std.LawfulEqOrd κ] [DecidableEq κ] (h : m.Sorted) (k : κ) :
    (m.entries.filter fun e => e.1 = k) = ((m.get? k).map fun a => [(k, a)]).getD [] := by
  rw [← h.flatMap_at]
  induction m.entries with
  | nil => rfl
  | cons e rest ih =>
    rw [List.filter_cons, List.flatMap_cons, ih]
    by_cases here : e.1 = k
    · rw [if_pos (by simpa using here), if_pos here, ← here]
      rfl
    · rw [if_neg (by simpa using here), if_neg here, List.nil_append]

/-- **A sorted map is put together again** from its entries, one after the other. -/
theorem Sorted.foldl_entries [Std.LawfulEqOrd κ] [Std.TransOrd κ] [DecidableEq κ] (h : m.Sorted)
    {step : α → Option α → α} (first : ∀ a, step a none = a) :
    m.entries.foldl (fun acc e => acc.alter e.1 (step e.2)) ⟨[]⟩ = m := by
  refine (sorted_empty.foldl_alter _ _ _).ext h fun k => ?_
  rw [sorted_empty.get?_foldl_alter m.entries Prod.fst fun e => step e.2, h.filter_at]
  cases m.get? k with
  | none => rfl
  | some a => exact congrArg some (first a)

/-! ## Changing the values -/

omit [Ord κ] in
@[simp] theorem keys_mapValues (m : Ordered κ α) (f : α → β) : (m.mapValues f).keys = m.keys := by
  unfold keys mapValues
  rw [List.map_map]
  rfl

theorem Sorted.mapValues (h : m.Sorted) (f : α → β) : (m.mapValues f).Sorted :=
  List.pairwise_map.mpr h

@[simp] theorem get?_mapValues (m : Ordered κ α) (f : α → β) (k : κ) :
    (m.mapValues f).get? k = (m.get? k).map f := by
  obtain ⟨l⟩ := m
  unfold Ordered.mapValues get?
  simp only
  induction l with
  | nil => rfl
  | cons e rest ih =>
    unfold find?
    rw [List.map_cons]
    simp only
    split
    · rfl
    · exact ih

end LineClock.Ordered

import LineClock.Proofs.Engine.Scene

/-!
# Switching on and off

The counts of a thread are `Fair` if every profiler that is on is listed once, with a count that is
not zero. Main statements: what switching makes of the counts, that it keeps them fair, and that
switching a profiler on and off again puts fair counts back.
-/

namespace LineClock

/-- Whether a profiler is on where the counts are `on`. -/
def Scene.On (on : List (ProfilerId × Nat)) (p : ProfilerId) : Bool :=
  ({ active := on } : Dispatch).isOn p

/-- Every profiler that is on is listed once, and its count is not zero. -/
structure Scene.Fair (on : List (ProfilerId × Nat)) : Prop where
  once : (on.map Prod.fst).Nodup
  positive : ∀ a ∈ on, 0 < a.2

namespace Dispatch

/-- A list of counts with that of `p` set to `n`. -/
def put (p : ProfilerId) (n : Nat) (on : List (ProfilerId × Nat)) : List (ProfilerId × Nat) :=
  on.map fun a => if a.1 = p then (p, n) else a

/-- A list of counts with that of `p` raised. -/
def bump (p : ProfilerId) (on : List (ProfilerId × Nat)) : List (ProfilerId × Nat) :=
  on.map fun a => if a.1 = p then (p, a.2 + 1) else a

variable {p q : ProfilerId} {on : List (ProfilerId × Nat)} {n : Nat}

theorem isOn_iff (d : Dispatch) (p : ProfilerId) :
    d.isOn p = true ↔ p ∈ d.active.map Prod.fst := by
  simp [isOn]

theorem countOf_cons (a : ProfilerId × Nat) (on : List (ProfilerId × Nat)) (p : ProfilerId) :
    ({ active := a :: on } : Dispatch).countOf p =
      if a.1 = p then a.2 else ({ active := on } : Dispatch).countOf p := by
  unfold countOf
  by_cases h : a.1 = p <;> simp [h]

/-- Whatever becomes of the count of `p`, the same profilers are listed. -/
theorem map_fst_change (f : Nat → Nat) :
    (on.map fun a => if a.1 = p then (p, f a.2) else a).map Prod.fst = on.map Prod.fst := by
  rw [List.map_map]
  refine List.map_congr_left fun a _ => ?_
  rw [Function.comp_apply]
  split
  · exact Eq.symm ‹a.1 = p›
  · rfl

/-- There is no count of `p` to change. -/
theorem change_absent (h : p ∉ on.map Prod.fst) (f : Nat → Nat) :
    (on.map fun a => if a.1 = p then (p, f a.2) else a) = on := by
  refine (List.map_congr_left fun a mem => ?_).trans (List.map_id on)
  refine if_neg fun here => h ?_
  rw [← here]
  exact List.mem_map_of_mem mem

theorem map_fst_put : (put p n on).map Prod.fst = on.map Prod.fst := map_fst_change fun _ => n

theorem map_fst_bump : (bump p on).map Prod.fst = on.map Prod.fst := map_fst_change fun k => k + 1

theorem put_absent (h : p ∉ on.map Prod.fst) : put p n on = on := change_absent h fun _ => n

theorem bump_absent (h : p ∉ on.map Prod.fst) : bump p on = on := change_absent h fun k => k + 1

/-- Counts after that of `p` was changed by `f`. -/
theorem countOf_map (f : Nat → Nat) (p q : ProfilerId) (on : List (ProfilerId × Nat)) :
    ({ active := on.map fun a => if a.1 = p then (p, f a.2) else a } : Dispatch).countOf q =
      if p = q ∧ q ∈ on.map Prod.fst then f (({ active := on } : Dispatch).countOf q)
      else ({ active := on } : Dispatch).countOf q := by
  induction on with
  | nil => simp
  | cons a rest ih =>
    rw [List.map_cons, countOf_cons, countOf_cons, ih]
    by_cases here : a.1 = p
    · by_cases this : p = q <;> simp [here, this]
    · rw [if_neg here, List.map_cons]
      by_cases this : a.1 = q
      · have differ : p ≠ q := fun same => here (this.trans same.symm)
        simp [this, differ]
      · simp only [List.mem_cons, if_neg this, Ne.symm this, false_or]

theorem countOf_bump (h : p ∈ on.map Prod.fst) :
    ({ active := bump p on } : Dispatch).countOf p =
      ({ active := on } : Dispatch).countOf p + 1 := by
  refine (countOf_map (· + 1) p p on).trans ?_
  rw [if_pos ⟨rfl, h⟩]

theorem countOf_filter (p q : ProfilerId) (on : List (ProfilerId × Nat)) :
    ({ active := on.filter fun a => a.1 ≠ p } : Dispatch).countOf q =
      if p = q then 0 else ({ active := on } : Dispatch).countOf q := by
  induction on with
  | nil => simp [countOf]
  | cons a rest ih =>
    by_cases here : a.1 = p
    · rw [List.filter_cons_of_neg (by simp [here]), ih, countOf_cons]
      by_cases this : p = q
      · simp [this]
      · simp [this, here]
    · rw [List.filter_cons_of_pos (by simp [here]), countOf_cons, countOf_cons, ih]
      by_cases this : a.1 = q
      · have differ : p ≠ q := fun same => here (this.trans same.symm)
        simp [this, differ]
      · simp [this]

/-- How often profilers are on after one was switched on once more. -/
theorem countOf_raise (d : Dispatch) (p q : ProfilerId) :
    (d.raise p).countOf q = if p = q then d.countOf q + 1 else d.countOf q := by
  unfold raise
  split
  · rename_i here
    rw [isOn_iff] at here
    refine (countOf_map (· + 1) p q d.active).trans ?_
    by_cases this : p = q
    · subst this
      rw [if_pos ⟨rfl, here⟩, if_pos rfl]
      rfl
    · rw [if_neg fun h => this h.1, if_neg this]
      rfl
  · rename_i off
    rw [isOn_iff] at off
    by_cases this : p = q
    · subst this
      have absent : d.active.find? (fun a => a.1 = p) = none := by
        rw [List.find?_eq_none]
        intro a mem found
        exact off (List.mem_map.mpr ⟨a, mem, of_decide_eq_true found⟩)
      simp [countOf, absent]
    · simp [countOf, this]

/-- How often profilers are on after the count of one was set. -/
theorem countOf_lower {d : Dispatch} {p : ProfilerId} (on : d.isOn p = true) (n : Nat)
    (q : ProfilerId) : (d.lower p n).countOf q = if p = q then n else d.countOf q := by
  unfold lower
  split
  · rename_i none
    rw [none]
    exact countOf_filter p q d.active
  · rw [isOn_iff] at on
    refine (countOf_map (fun _ => n) p q d.active).trans ?_
    by_cases this : p = q
    · subst this
      rw [if_pos ⟨rfl, on⟩, if_pos rfl]
    · rw [if_neg fun h => this h.1, if_neg this]
      rfl

/-- A count that was raised is put back to what it was. -/
theorem put_bump (once : (on.map Prod.fst).Nodup) (h : p ∈ on.map Prod.fst) :
    put p (({ active := on } : Dispatch).countOf p) (bump p on) = on := by
  induction on with
  | nil => cases h
  | cons a rest ih =>
    rw [List.map_cons, List.nodup_cons] at once
    have head : bump p (a :: rest) = (if a.1 = p then (p, a.2 + 1) else a) :: bump p rest := rfl
    have tail : ∀ n b l, put p n (b :: l) = (if b.1 = p then (p, n) else b) :: put p n l :=
      fun _ _ _ => rfl
    rw [head, countOf_cons, tail]
    by_cases here : a.1 = p
    · have absent : p ∉ rest.map Prod.fst := by
        rw [← here]
        exact once.1
      rw [if_pos here, if_pos here, if_pos rfl, bump_absent absent, put_absent absent, ← here]
    · rw [if_neg here, if_neg here, if_neg here]
      rw [List.map_cons, List.mem_cons] at h
      rw [ih once.2 (h.resolve_left fun same => here same.symm)]

end Dispatch

namespace Scene.Fair

variable {p : ProfilerId} {on : List (ProfilerId × Nat)}

theorem nil : Fair [] := ⟨List.nodup_nil, fun _ h => by cases h⟩

/-- The count of a profiler that is on is not zero. -/
theorem countOf_pos (fair : Fair on) (h : p ∈ on.map Prod.fst) :
    0 < ({ active := on } : Dispatch).countOf p := by
  obtain ⟨a, mem, here⟩ := List.mem_map.mp h
  unfold Dispatch.countOf
  simp only
  cases found : on.find? fun a => a.1 = p with
  | none =>
    have absent := List.find?_eq_none.mp found a mem
    simp [here] at absent
  | some b => exact fair.positive b (List.mem_of_find?_eq_some found)

/-- Each profiler that is on has one entry, with its count. -/
theorem mem_iff (fair : Fair on) (p : ProfilerId) (n : Nat) :
    (p, n) ∈ on ↔ 0 < n ∧ ({ active := on } : Dispatch).countOf p = n := by
  obtain ⟨once, positive⟩ := fair
  induction on with
  | nil =>
    simp [Dispatch.countOf]
    omega
  | cons a rest ih =>
    rw [List.map_cons, List.nodup_cons] at once
    have rest' := ih once.2 fun b mem => positive b (List.mem_cons_of_mem a mem)
    rw [List.mem_cons, Dispatch.countOf_cons, rest']
    by_cases here : a.1 = p
    · have absent : ({ active := rest } : Dispatch).countOf p = 0 := by
        refine Dispatch.countOf_of_not_isOn ?_
        rw [← Bool.not_eq_true, Dispatch.isOn_iff, ← here]
        exact once.1
      have some := positive a List.mem_cons_self
      rw [if_pos here, absent]
      constructor
      · rintro (rfl | ⟨some', none⟩)
        · exact ⟨some, rfl⟩
        · omega
      · rintro ⟨-, rfl⟩
        exact .inl (by rw [← here])
    · rw [if_neg here]
      constructor
      · rintro (rfl | h)
        · exact absurd rfl here
        · exact h
      · exact .inr

/-- Someone is on if some count is not zero. -/
theorem isActive_iff (fair : Fair on) : ({ active := on } : Dispatch).isActive = true ↔
    ∃ p, 0 < ({ active := on } : Dispatch).countOf p := by
  constructor
  · intro active
    cases h : on with
    | nil =>
      rw [h] at active
      cases active
    | cons a rest =>
      refine ⟨a.1, ?_⟩
      rw [← h]
      exact fair.countOf_pos (by simp [h])
  · rintro ⟨p, some⟩
    cases h : on with
    | nil =>
      rw [h] at some
      cases some
    | cons a rest => rfl

theorem raise (fair : Fair on) (p : ProfilerId) :
    Fair (({ active := on } : Dispatch).raise p).active := by
  unfold Dispatch.raise
  split
  · refine ⟨?_, fun a mem => ?_⟩
    · have keys : (Dispatch.bump p on).map Prod.fst = on.map Prod.fst := Dispatch.map_fst_bump
      exact keys ▸ fair.once
    · obtain ⟨b, mem', rfl⟩ := List.mem_map.mp mem
      split
      · exact Nat.succ_pos _
      · exact fair.positive b mem'
  · rename_i off
    rw [Dispatch.isOn_iff] at off
    refine ⟨?_, fun a mem => ?_⟩
    · rw [List.map_append, List.nodup_append]
      refine ⟨fair.once, by simp, fun a mem b mem' => ?_⟩
      cases List.mem_singleton.mp mem'
      rintro rfl
      exact off mem
    · rcases List.mem_append.mp mem with mem | mem
      · exact fair.positive a mem
      · cases List.mem_singleton.mp mem
        exact Nat.one_pos

theorem lower (fair : Fair on) (p : ProfilerId) (n : Nat) :
    Fair (({ active := on } : Dispatch).lower p n).active := by
  unfold Dispatch.lower
  split
  · refine ⟨fair.once.sublist ?_, fun a mem => fair.positive a (List.mem_filter.mp mem).1⟩
    exact List.Sublist.map _ List.filter_sublist
  · rename_i some
    refine ⟨?_, fun a mem => ?_⟩
    · have keys : (Dispatch.put p n on).map Prod.fst = on.map Prod.fst := Dispatch.map_fst_put
      exact keys ▸ fair.once
    · obtain ⟨b, mem', rfl⟩ := List.mem_map.mp mem
      split
      · exact Nat.pos_of_ne_zero some
      · exact fair.positive b mem'

/-- Once a profiler was switched on, it is on. -/
theorem isOn_raise (on : List (ProfilerId × Nat)) (p : ProfilerId) :
    (({ active := on } : Dispatch).raise p).isOn p = true := by
  unfold Dispatch.raise
  split
  · rename_i here
    rw [Dispatch.isOn_iff] at here ⊢
    have keys : (Dispatch.bump p on).map Prod.fst = on.map Prod.fst := Dispatch.map_fst_bump
    exact keys ▸ here
  · simp [Dispatch.isOn]

/-- **Switching a profiler on and off again** puts fair counts back. -/
theorem lower_raise (fair : Fair on) (p : ProfilerId) :
    let raised := (({ active := on } : Dispatch).raise p).active
    (({ active := raised } : Dispatch).lower p
      (({ active := raised } : Dispatch).countOf p - 1)).active = on := by
  simp only
  by_cases here : ({ active := on } : Dispatch).isOn p
  · have raised : (({ active := on } : Dispatch).raise p).active = Dispatch.bump p on := by
      unfold Dispatch.raise
      rw [if_pos here]
      rfl
    rw [Dispatch.isOn_iff] at here
    have pos := fair.countOf_pos here
    rw [raised, Dispatch.countOf_bump here, Nat.add_sub_cancel]
    unfold Dispatch.lower
    rw [if_neg (Nat.ne_of_gt pos)]
    exact Dispatch.put_bump fair.once here
  · have raised : (({ active := on } : Dispatch).raise p).active = on ++ [(p, 1)] := by
      unfold Dispatch.raise
      rw [if_neg here]
    rw [Dispatch.isOn_iff] at here
    have absent : on.find? (fun a => a.1 = p) = none := by
      rw [List.find?_eq_none]
      intro a mem found
      exact here (List.mem_map.mpr ⟨a, mem, of_decide_eq_true found⟩)
    have count : ({ active := on ++ [(p, 1)] } : Dispatch).countOf p = 1 := by
      unfold Dispatch.countOf
      simp only
      rw [List.find?_append, absent]
      simp
    rw [raised, count]
    unfold Dispatch.lower
    rw [if_pos rfl]
    have others : on.filter (fun a => a.1 ≠ p) = on := by
      rw [List.filter_eq_self]
      intro a mem
      exact decide_eq_true fun same => here (List.mem_map.mpr ⟨a, mem, same⟩)
    simp only [List.filter_append, others]
    simp

end Scene.Fair

namespace Scene

variable {s : Scene}

/-- A profiler that was switched on is switched off again by leaving the same counts. -/
theorem lower_raised {p : ProfilerId} {on : List (ProfilerId × Nat)} (fair : Fair on)
    (here : s.here = (({ active := on } : Dispatch).raise p).active) : s.lower p = s.switch on := by
  have isOn : ({ active := (({ active := on } : Dispatch).raise p).active } : Dispatch).isOn p =
    true := Fair.isOn_raise on p
  unfold lower
  simp only
  rw [here, if_pos isOn, fair.lower_raise p]

/-- How often profilers are on after one was switched on once more. -/
theorem count_raise (s : Scene) (p q : ProfilerId) :
    (s.raise p).count q = if p = q then s.count q + 1 else s.count q := by
  unfold count raise
  rw [switch_here]
  exact Dispatch.countOf_raise _ p q

/-- How often profilers are on after one switching on was undone. -/
theorem count_lower (s : Scene) (p q : ProfilerId) :
    (s.lower p).count q = if p = q then s.count q - 1 else s.count q := by
  unfold lower
  simp only
  split
  · rename_i on
    unfold count
    rw [switch_here]
    refine (Dispatch.countOf_lower on _ q).trans ?_
    by_cases this : p = q
    · rw [if_pos this, if_pos this, this]
    · rw [if_neg this, if_neg this]
  · rename_i off
    have none : s.count p = 0 := Dispatch.countOf_of_not_isOn (Bool.not_eq_true _ ▸ off)
    split
    · rename_i this
      rw [← this, none]
    · rfl

/-- Counts that are fair on every thread. -/
def AllFair (s : Scene) : Prop := ∀ th, Fair (s.active th)

namespace AllFair

theorem switch (h : s.AllFair) {on : List (ProfilerId × Nat)} (fair : Fair on) :
    (s.switch on).AllFair := by
  intro th
  by_cases here : th = s.thread
  · have now : (s.switch on).active th = on := if_pos here
    rw [now]
    exact fair
  · rw [switch_active_ne _ _ here]
    exact h th

theorem raise (h : s.AllFair) (p : ProfilerId) : (s.raise p).AllFair :=
  h.switch ((h _).raise p)

theorem lower (h : s.AllFair) (p : ProfilerId) : (s.lower p).AllFair := by
  unfold Scene.lower
  simp only
  split
  · exact h.switch ((h _).lower p _)
  · exact h

theorem enterScope (h : s.AllFair) (id : RoutineId) : (s.enterScope id).AllFair := by
  unfold Scene.enterScope
  split
  · exact h
  · exact h.raise _

theorem leaveScope (h : s.AllFair) (id : RoutineId) : (s.leaveScope id).AllFair := by
  unfold Scene.leaveScope
  split
  · exact h
  · exact h.lower _

/-- Everyone who is on here is listed once. -/
theorem once (h : s.AllFair) : (s.here.map Prod.fst).Nodup := (h s.thread).once

end AllFair

end Scene

end LineClock

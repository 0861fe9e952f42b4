/-!
# Association lists

`Assoc κ α` is a finite map kept as its list of entries, oldest key first. A key that is written
again keeps its place, so the order of the entries is the order in which keys first appeared.
Main statements: what `get?` answers after `set` and after `erase`.
-/

namespace LineClock

/-- A finite map as a list of entries. Only the first entry of a key counts. -/
structure Assoc (κ α : Type) where
  entries : List (κ × α) := []
  deriving Repr, DecidableEq, Inhabited

namespace Assoc

variable {κ α : Type} [DecidableEq κ]

/-- The value of the first entry with key `k`. -/
def find? (k : κ) : List (κ × α) → Option α
  | [] => none
  | (k', a) :: rest => if k' = k then some a else find? k rest

/-- Overwrite the first entry with key `k`, or append one. -/
def put (k : κ) (a : α) : List (κ × α) → List (κ × α)
  | [] => [(k, a)]
  | (k', b) :: rest => if k' = k then (k', a) :: rest else (k', b) :: put k a rest

/-- The value at a key. -/
def get? (m : Assoc κ α) (k : κ) : Option α := find? k m.entries

/-- The value at a key, or `default` where there is none. -/
def getD (m : Assoc κ α) (k : κ) (default : α) : α := (m.get? k).getD default

/-- The map with `a` at `k`. -/
def set (m : Assoc κ α) (k : κ) (a : α) : Assoc κ α := ⟨put k a m.entries⟩

/-- The map without the key `k`. -/
def erase (m : Assoc κ α) (k : κ) : Assoc κ α := ⟨m.entries.filter fun e => e.1 ≠ k⟩

/-- The map with the value at `k` changed by `f`; a key that is absent stays absent. -/
def modify (m : Assoc κ α) (k : κ) (f : α → α) : Assoc κ α :=
  match m.get? k with
  | some a => m.set k (f a)
  | none => m

/-- Whether a key has a value. -/
def contains (m : Assoc κ α) (k : κ) : Bool := (m.get? k).isSome

omit [DecidableEq κ] in
/-- The keys, oldest first. -/
def keys (m : Assoc κ α) : List κ := m.entries.map Prod.fst

omit [DecidableEq κ] in
/-- The values, those of the oldest keys first. -/
def values (m : Assoc κ α) : List α := m.entries.map Prod.snd

/-! ## Reading after writing -/

theorem find?_put (l : List (κ × α)) (k k' : κ) (a : α) :
    find? k' (put k a l) = if k = k' then some a else find? k' l := by
  induction l with
  | nil => simp [put, find?]
  | cons e rest ih =>
    obtain ⟨k₀, b⟩ := e
    by_cases h₀ : k₀ = k
    · subst h₀
      by_cases h : k₀ = k' <;> simp [put, find?, h]
    · by_cases h : k₀ = k'
      · subst h
        simp [put, find?, h₀, Ne.symm h₀]
      · simp [put, find?, h₀, h, ih]

theorem get?_set (m : Assoc κ α) (k k' : κ) (a : α) :
    (m.set k a).get? k' = if k = k' then some a else m.get? k' :=
  find?_put m.entries k k' a

@[simp] theorem get?_set_self (m : Assoc κ α) (k : κ) (a : α) : (m.set k a).get? k = some a := by
  simp [get?_set]

theorem get?_set_ne (m : Assoc κ α) {k k' : κ} (a : α) (h : k ≠ k') :
    (m.set k a).get? k' = m.get? k' := by
  simp [get?_set, h]

/-- What is found after a value was set is that value, or was found before. -/
theorem of_get?_set {m : Assoc κ α} {k k' : κ} {a b : α} (h : (m.set k a).get? k' = some b) :
    k = k' ∧ a = b ∨ m.get? k' = some b := by
  rw [get?_set] at h
  split at h
  · rename_i same
    exact .inl ⟨same, Option.some.inj h⟩
  · exact .inr h

@[simp] theorem get?_empty (k : κ) : (⟨[]⟩ : Assoc κ α).get? k = none := rfl

theorem find?_filter_ne (l : List (κ × α)) (k k' : κ) :
    find? k' (l.filter fun e => e.1 ≠ k) = if k = k' then none else find? k' l := by
  induction l with
  | nil => simp [find?]
  | cons e rest ih =>
    obtain ⟨k₀, b⟩ := e
    by_cases h₀ : k₀ = k
    · subst h₀
      by_cases h : k₀ = k'
      · simpa [h] using ih
      · simpa [find?, h] using ih
    · by_cases h : k₀ = k'
      · subst h
        simp [find?, h₀, Ne.symm h₀]
      · simp only [ne_eq, h₀, not_false_eq_true, decide_true, List.filter_cons_of_pos, find?, h,
          ↓reduceIte]
        exact ih

theorem get?_erase (m : Assoc κ α) (k k' : κ) :
    (m.erase k).get? k' = if k = k' then none else m.get? k' :=
  find?_filter_ne m.entries k k'

theorem getD_set (m : Assoc κ α) (k k' : κ) (a default : α) :
    (m.set k a).getD k' default = if k = k' then a else m.getD k' default := by
  unfold getD
  rw [get?_set]
  split <;> rfl

theorem get?_modify (m : Assoc κ α) (k k' : κ) (f : α → α) :
    (m.modify k f).get? k' = if k = k' then (m.get? k).map f else m.get? k' := by
  unfold modify
  by_cases same : k = k'
  · subst same
    cases h : m.get? k with
    | some a => simp
    | none => simp [h]
  · rw [if_neg same]
    cases m.get? k with
    | some a => exact get?_set_ne m (f a) same
    | none => rfl

theorem getD_modify (m : Assoc κ α) (k k' : κ) (f : α → α) (default : α) :
    (m.modify k f).getD k' default =
      if k = k' ∧ (m.get? k).isSome then f (m.getD k' default) else m.getD k' default := by
  unfold getD
  rw [get?_modify]
  by_cases same : k = k'
  · subst same
    cases m.get? k <;> simp
  · simp [same]

/-- Reading after every value was changed. -/
theorem find?_map {β : Type} (l : List (κ × α)) (k : κ) (f : α → β) :
    find? k (l.map fun e => (e.1, f e.2)) = (find? k l).map f := by
  induction l with
  | nil => rfl
  | cons e rest ih =>
    by_cases h : e.1 = k
    · simp [find?, h]
    · simpa [find?, h] using ih

/-- Writing after every value was changed. -/
theorem put_map {β : Type} (l : List (κ × α)) (k : κ) (a : α) (f : α → β) :
    put k (f a) (l.map fun e => (e.1, f e.2)) = (put k a l).map fun e => (e.1, f e.2) := by
  induction l with
  | nil => rfl
  | cons e rest ih =>
    by_cases h : e.1 = k
    · simp [put, h]
    · simp [put, h, ih]

/-! ## Keys -/

theorem find?_eq_none_iff (k : κ) (l : List (κ × α)) :
    find? k l = none ↔ k ∉ l.map Prod.fst := by
  induction l with
  | nil => simp [find?]
  | cons e rest ih =>
    by_cases h : e.1 = k
    · simp [find?, h]
    · simp [find?, h, Ne.symm h, ih]

theorem get?_eq_none_iff (m : Assoc κ α) (k : κ) : m.get? k = none ↔ k ∉ m.keys :=
  find?_eq_none_iff k m.entries

theorem isSome_get?_iff (m : Assoc κ α) (k : κ) : (m.get? k).isSome ↔ k ∈ m.keys := by
  rw [Option.isSome_iff_ne_none, ne_eq, get?_eq_none_iff, Decidable.not_not]

theorem getD_of_get? {m : Assoc κ α} {k : κ} {a : α} (h : m.get? k = some a) (default : α) :
    m.getD k default = a := by
  unfold getD
  rw [h]
  rfl

theorem getD_of_get?_none {m : Assoc κ α} {k : κ} (h : m.get? k = none) (default : α) :
    m.getD k default = default := by
  unfold getD
  rw [h]
  rfl

theorem contains_iff (m : Assoc κ α) (k : κ) : m.contains k = true ↔ k ∈ m.keys :=
  m.isSome_get?_iff k

theorem put_of_find?_none {k : κ} {l : List (κ × α)} (h : find? k l = none) (a : α) :
    put k a l = l ++ [(k, a)] := by
  induction l with
  | nil => rfl
  | cons e rest ih =>
    obtain ⟨k₀, b⟩ := e
    by_cases h₀ : k₀ = k
    · simp [find?, h₀] at h
    · simp only [find?, h₀, if_false] at h
      simp [put, h₀, ih h]

/-- A new key comes last. -/
theorem keys_set_of_get?_none {m : Assoc κ α} {k : κ} (h : m.get? k = none) (a : α) :
    (m.set k a).keys = m.keys ++ [k] := by
  unfold keys set
  rw [put_of_find?_none h]
  simp

/-- A key that is there keeps its place. -/
theorem keys_set_of_get?_some {m : Assoc κ α} {k : κ} {b : α} (h : m.get? k = some b) (a : α) :
    (m.set k a).keys = m.keys := by
  obtain ⟨l⟩ := m
  unfold get? at h
  unfold keys set
  simp only at h ⊢
  induction l with
  | nil => simp [find?] at h
  | cons e rest ih =>
    obtain ⟨k₀, c⟩ := e
    by_cases h₀ : k₀ = k
    · simp [put, h₀]
    · simp only [find?, h₀, if_false] at h
      simp [put, h₀, ih h]

theorem keys_modify (m : Assoc κ α) (k : κ) (f : α → α) : (m.modify k f).keys = m.keys := by
  unfold modify
  cases h : m.get? k with
  | none => rfl
  | some a => exact keys_set_of_get?_some h _

theorem length_modify (m : Assoc κ α) (k : κ) (f : α → α) :
    (m.modify k f).entries.length = m.entries.length := by
  have same := congrArg List.length (keys_modify m k f)
  unfold keys at same
  rwa [List.length_map, List.length_map] at same

theorem length_le_set (m : Assoc κ α) (k : κ) (a : α) :
    m.entries.length ≤ (m.set k a).entries.length := by
  unfold set
  induction m.entries with
  | nil => exact Nat.zero_le _
  | cons e rest ih =>
    rw [put]
    split
    · exact Nat.le_refl _
    · exact Nat.succ_le_succ ih

theorem nodup_keys_set {m : Assoc κ α} (h : m.keys.Nodup) (k : κ) (a : α) :
    (m.set k a).keys.Nodup := by
  cases there : m.get? k with
  | none =>
    rw [keys_set_of_get?_none there, List.nodup_append]
    refine ⟨h, List.nodup_cons.mpr ⟨List.not_mem_nil, List.nodup_nil⟩, fun x mem y mem' => ?_⟩
    rw [List.mem_singleton.mp mem']
    rintro rfl
    exact (get?_eq_none_iff m x).mp there mem
  | some b =>
    rw [keys_set_of_get?_some there]
    exact h

/-- Where every key stands once, every entry counts. -/
theorem mem_entries_iff {m : Assoc κ α} (h : m.keys.Nodup) (k : κ) (a : α) :
    (k, a) ∈ m.entries ↔ m.get? k = some a := by
  obtain ⟨l⟩ := m
  unfold get?
  unfold keys at h
  simp only at h ⊢
  induction l with
  | nil => simp [find?]
  | cons e rest ih =>
    obtain ⟨k₀, b⟩ := e
    rw [List.map_cons, List.nodup_cons] at h
    rw [List.mem_cons, ih h.2]
    by_cases h₀ : k₀ = k
    · subst h₀
      have absent := (find?_eq_none_iff k₀ rest).mpr h.1
      simp [find?, absent, eq_comm]
    · simp [find?, h₀, Ne.symm h₀]

/-! ## Writing twice -/

theorem put_put (k : κ) (a b : α) (l : List (κ × α)) : put k b (put k a l) = put k b l := by
  induction l with
  | nil => simp [put]
  | cons e rest ih =>
    obtain ⟨k₀, c⟩ := e
    by_cases h : k₀ = k <;> simp [put, h, ih]

theorem put_find? {k : κ} {a : α} {l : List (κ × α)} (h : find? k l = some a) : put k a l = l := by
  induction l with
  | nil => simp [find?] at h
  | cons e rest ih =>
    obtain ⟨k₀, c⟩ := e
    by_cases h₀ : k₀ = k
    · simp only [find?, h₀, if_true, Option.some.injEq] at h
      simp [put, h₀, h]
    · simp only [find?, h₀, if_false] at h
      simp [put, h₀, ih h]

theorem set_set (m : Assoc κ α) (k : κ) (a b : α) : (m.set k a).set k b = m.set k b :=
  congrArg Assoc.mk (put_put k a b m.entries)

/-- Writing what is there changes nothing. -/
theorem set_get? {m : Assoc κ α} {k : κ} {a : α} (h : m.get? k = some a) : m.set k a = m :=
  congrArg Assoc.mk (put_find? h)

theorem modify_modify (m : Assoc κ α) (k : κ) (f g : α → α) :
    (m.modify k f).modify k g = m.modify k fun a => g (f a) := by
  cases h : m.get? k with
  | none => simp [modify, h]
  | some a => simp [modify, h, set_set]

theorem modify_same {m : Assoc κ α} {k : κ} {f : α → α} (h : ∀ a, m.get? k = some a → f a = a) :
    m.modify k f = m := by
  cases h' : m.get? k with
  | none => simp [modify, h']
  | some a => simp [modify, h', h a h', set_get? h']

end Assoc

end LineClock

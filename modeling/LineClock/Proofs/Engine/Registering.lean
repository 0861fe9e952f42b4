import LineClock.Engine.Watch
import LineClock.Proofs.Engine.Accord
import LineClock.Proofs.Engine.Recording

/-!
# What profilers were told of

Adding a routine registers its admitted block with the profiler, and with the other profilers of the
routine, which follow it to the new block. Everything a profiler watches is the identity of a block
that was registered with it, at that block's site. Main statement: `Knows.addRoutine`.
-/

namespace LineClock

/-- A block that was registered with a profiler. -/
abbrev Registration := ProfilerId × Block

/-- What a profiler watches and where, it has from blocks it was told of. -/
structure Profiler.Knows (told : Block → Prop) (p : Profiler) : Prop where
  blocks : ∀ h w, p.blocks.get? h = some w →
    ∃ block, told block ∧ block.identity = h ∧ Site.ofBlock block = w.site
  sites : ∀ site ∈ p.sites.keys, ∃ block, told block ∧ Site.ofBlock block = site

namespace Profiler.Knows

variable {told : Block → Prop} {p : Profiler}

theorem blank (told : Block → Prop) : Knows told default :=
  ⟨fun _ _ h => (by cases h), fun _ h => (by cases h)⟩

theorem enter (h : p.Knows told) {block : Block} (given : told block) (lines : List UInt32) :
    (p.enter block lines).Knows told := by
  refine ⟨fun hash w found => ?_, fun site mem => ?_⟩
  · unfold Profiler.enter at found
    simp only [Assoc.get?_set] at found
    split at found
    · rename_i same
      cases found
      exact ⟨block, given, same, rfl⟩
    · exact h.blocks hash w found
  · rcases Ordered.mem_keys_alter mem with rfl | mem
    · exact ⟨block, given, rfl⟩
    · exact h.sites site mem

theorem watch (h : p.Knows told) (files : Files) {block : Block} (given : told block) :
    (Machine.answer (Profiler.watch files block) p).2.Knows told := by
  have cases := watch_cases files block p
  generalize Machine.answer (Profiler.watch files block) p = r at cases
  cases cases with
  | already => exact h
  | failed => exact ⟨h.blocks, h.sites⟩
  | entered fresh sources lines =>
    have searched : Knows told { p with sources } := ⟨h.blocks, h.sites⟩
    exact searched.enter given lines

end Profiler.Knows

namespace Engine

open Machine

/-! ## Preparing -/

/-- Profilers follow a routine to a block. -/
abbrev tellAll (block : Block) (others : List ProfilerId) : StateM Engine PUnit :=
  others.forM fun other => Functor.discard (watch other block).run

/-- The block that comes out when a routine is prepared in a registry. -/
def admits (registry : RegistryId) (routine : RoutineId) (e : Engine) : Block :=
  ((e.registry registry).padding.accept (e.codeOf routine) e.blocks).1

/-- The profilers that are told when a routine is prepared in a registry for one of them. -/
def told (registry : RegistryId) (routine : RoutineId) (id : ProfilerId) (e : Engine) :
    List ProfilerId :=
  (((e.registry registry).padding.accept (e.codeOf routine) e.blocks).2.enrol routine
    (e.codeOf routine).id (e.admits registry routine).id id).1

/-- The engine once a routine is enrolled in a registry for a profiler, before the others are told: a
number is given out, the registry takes note, and the admitted block is in the slot. -/
def enrolled (registry : RegistryId) (routine : RoutineId) (id : ProfilerId) (e : Engine) : Engine :=
  let accepted := (e.registry registry).padding.accept (e.codeOf routine) e.blocks
  let padding := (accepted.2.enrol routine (e.codeOf routine).id accepted.1.id id).2
  { e with
    blocks := e.blocks + 1
    registries := e.registries.modify registry fun r => { r with padding }
    code :=
      if accepted.1.id ≠ (e.codeOf routine).id then e.code.set (e.routine routine).slot accepted.1
      else e.code }

/-- **Preparing a routine**: it is enrolled, and the others follow it to the admitted block. -/
theorem run_prepare (registry : RegistryId) (routine : RoutineId) (id : ProfilerId) (e : Engine) :
    (prepare registry routine id).run e = (e.admits registry routine,
      ((tellAll (e.admits registry routine) (e.told registry routine id)).run
        (e.enrolled registry routine id)).2) := by
  unfold prepare enrolled told admits
  rw [run_state_get_bind]
  have made : newBlock.run e = (e.blocks, { e with blocks := e.blocks + 1 }) := rfl
  rw [run_state_bind made, run_state_get_bind]
  have registries : ({ e with blocks := e.blocks + 1 } : Engine).registry registry =
    e.registry registry := rfl
  rw [registries]
  generalize (e.registry registry).padding.accept (e.codeOf routine) e.blocks = accepted
  obtain ⟨block, padding⟩ := accepted
  simp only
  generalize padding.enrol routine (e.codeOf routine).id block.id id = enrolled
  obtain ⟨others, padding⟩ := enrolled
  have noted : ∀ f, (modifyRegistry registry f).run { e with blocks := e.blocks + 1 } =
      ((), { e with blocks := e.blocks + 1, registries := e.registries.modify registry f }) :=
    fun _ => rfl
  simp only
  rw [run_state_bind (noted _)]
  by_cases moved : block.id ≠ (e.codeOf routine).id
  · rw [if_pos moved, if_pos moved, run_state_modify_bind]
    rfl
  · rw [if_neg moved, if_neg moved]
    rfl

/-- Code that is refused is not added. -/
theorem addRoutine_refused {routine : RoutineId} {e : Engine} {error : ProfilerError}
    (unfit : Profiler.refusal? (e.codeOf routine) = some error) (id : ProfilerId) :
    answer (addRoutine id routine) e = (.error error, e) := by
  unfold addRoutine
  rw [answer_get_bind]
  simp only [unfit]
  rfl

/-- A wrapper is made once the routine was added. -/
theorem answer_wrapRoutine (id : ProfilerId) (routine : RoutineId) (e : Engine) :
    answer (wrapRoutine id routine) e = match answer (addRoutine id routine) e with
      | (.ok _, e') =>
        let made := (newWrapper routine ⟨(e'.profiler id).registry, id⟩).run e'
        (.ok made.1, made.2)
      | (.error error, e') => (.error error, e') := by
  unfold wrapRoutine
  rw [answer_bind, answer_discard]
  rcases answer (addRoutine id routine) e with ⟨_ | _, e'⟩ <;> rfl

/-- Several routines are added one after another, also where one cannot be. -/
theorem state_addRoutines (id : ProfilerId) (routines : List RoutineId) (e : Engine) :
    ((addRoutines id routines).run e).2 =
      routines.foldl (fun e routine => (answer (addRoutine id routine) e).2) e := by
  unfold addRoutines
  generalize 0 = n
  induction routines generalizing e n with
  | nil => rfl
  | cons routine rest ih =>
    rw [List.foldlM_cons, bind_assoc, List.foldl_cons]
    rcases run : answer (addRoutine id routine) e with ⟨o, e'⟩
    rw [run_state_bind run]
    split <;> exact ih e' _

theorem addRoutines_cons (id : ProfilerId) (routine : RoutineId) (rest : List RoutineId) (e : Engine) :
    ((addRoutines id (routine :: rest)).run e).2 =
      ((addRoutines id rest).run (answer (addRoutine id routine) e).2).2 := by
  rw [state_addRoutines, state_addRoutines, List.foldl_cons]

/-! ## What is known -/

/-- What the profilers of an engine know. -/
def Knows (told : List Registration) (e : Engine) : Prop :=
  ∀ p, (e.profiler p).Knows fun block => (p, block) ∈ told

/-- What is registered when a routine is added to a profiler: its admitted block, with the profiler
and with the others that follow the routine. -/
def registers (id : ProfilerId) (routine : RoutineId) (e : Engine) : List Registration :=
  let before := e.codeOf routine
  match Profiler.refusal? before with
  | some _ => []
  | none =>
    let (block, padding) :=
      (e.registry (e.profiler id).registry).padding.accept before e.blocks
    (id, block) :: (padding.enrol routine before.id block.id id).1.map fun other => (other, block)

/-- Nothing is registered where code is refused. -/
theorem registers_refused {routine : RoutineId} {e : Engine} {error : ProfilerError}
    (unfit : Profiler.refusal? (e.codeOf routine) = some error) (id : ProfilerId) :
    e.registers id routine = [] := by
  unfold registers
  simp only [unfit]

/-- The admitted block is registered with the profiler and with whoever is told. -/
theorem registers_of_fit {routine : RoutineId} {e : Engine}
    (fit : Profiler.refusal? (e.codeOf routine) = none) (id : ProfilerId) :
    let registry := (e.profiler id).registry
    e.registers id routine = (id, e.admits registry routine) ::
      (e.told registry routine id).map fun other => (other, e.admits registry routine) := by
  unfold registers
  simp only [fit]
  rfl

/-- What is registered when each of a list of routines is added. -/
def registersAll (id : ProfilerId) : List RoutineId → Engine → List Registration
  | [], _ => []
  | routine :: rest, e =>
    e.registers id routine ++ registersAll id rest (answer (addRoutine id routine) e).2

namespace Knows

variable {told : List Registration} {e e' : Engine} {id : ProfilerId} {block : Block}

theorem mono {told' : List Registration} (h : Knows told e) (sub : ∀ r ∈ told, r ∈ told') :
    Knows told' e := by
  intro p
  refine ⟨fun hash w found => ?_, fun site mem => ?_⟩
  · obtain ⟨block, given, rest⟩ := (h p).blocks hash w found
    exact ⟨block, sub _ given, rest⟩
  · obtain ⟨block, given, rest⟩ := (h p).sites site mem
    exact ⟨block, sub _ given, rest⟩

/-- Changes that profilers have no part in. -/
theorem same (h : Knows told e) (profilers : e'.profilers = e.profilers) : Knows told e' := by
  intro p
  rw [profiler_congr profilers]
  exact h p

theorem withClock (h : Knows told e) (clock : Counter) : Knows told (e.withClock clock) :=
  h.same rfl

/-- One profiler changed. -/
theorem modifyProfiler (h : Knows told e) {f : Profiler → Profiler}
    (hf : (f (e.profiler id)).Knows fun block => (id, block) ∈ told) :
    Knows told { e with profilers := e.profilers.modify id f } := by
  intro p
  rw [profiler_modify]
  split
  · rename_i here
    rw [← here.1]
    exact hf
  · exact h p

theorem watch (h : Knows told e) (given : (id, block) ∈ told) :
    Knows told (answer (Engine.watch id block) e).2 :=
  h.modifyProfiler ((h id).watch e.files given)

/-- Several profilers follow. -/
theorem follow {others : List ProfilerId} (h : Knows told e)
    (given : ∀ other ∈ others, (other, block) ∈ told) :
    Knows told ((others.forM fun other => Functor.discard (Engine.watch other block).run :
      StateM Engine PUnit).run e).2 := by
  induction others generalizing e with
  | nil => exact h
  | cons other rest ih =>
    exact ih (h.watch (given other List.mem_cons_self))
      fun next mem => given next (List.mem_cons_of_mem _ mem)

/-- The block that is prepared is the admitted one, and whoever follows was told of it. -/
theorem prepare (h : Knows told e) (registry : RegistryId) (routine : RoutineId)
    (id : ProfilerId) :
    (∀ other ∈ e.told registry routine id, (other, e.admits registry routine) ∈ told) →
      ((Engine.prepare registry routine id).run e).1 = e.admits registry routine ∧
        Knows told ((Engine.prepare registry routine id).run e).2 := by
  intro given
  rw [run_prepare]
  exact ⟨rfl, Knows.follow (h.same rfl) given⟩

/-- **Adding a routine** tells profilers of nothing but what it registers. -/
theorem addRoutine (h : Knows told e) (id : ProfilerId) (routine : RoutineId)
    (given : ∀ r ∈ e.registers id routine, r ∈ told) :
    Knows told (answer (Engine.addRoutine id routine) e).2 := by
  unfold Engine.addRoutine
  rw [answer_get_bind]
  cases refusal : Profiler.refusal? (e.codeOf routine) with
  | some error => exact h
  | none =>
    simp only [registers_of_fit refusal, List.mem_cons, List.mem_map] at given
    rw [answer_get_bind]
    have prepared := h.prepare (e.profiler id).registry routine id fun other mem =>
      given _ (.inr ⟨other, mem, rfl⟩)
    rcases run : (Engine.prepare (e.profiler id).registry routine id).run e with ⟨block, e₁⟩
    rw [run] at prepared
    obtain ⟨rfl, knows⟩ := prepared
    rw [answer_liftM_bind run, answer_bind]
    have watched := knows.watch (given _ (.inl rfl))
    rcases watch : answer (Engine.watch id _) e₁ with ⟨o, e₂⟩
    rw [watch] at watched
    cases o with
    | error error => exact watched
    | ok added =>
      refine watched.modifyProfiler (f := fun p => p.addRoutine routine) ?_
      have noted := (e₂.profiler id).addRoutine_eq routine
      have blocks := congrArg Profiler.blocks noted
      have sites := congrArg Profiler.sites noted
      refine ⟨fun hash w found => ?_, fun site mem => ?_⟩
      · rw [blocks] at found
        exact (watched id).blocks hash w found
      · rw [sites] at mem
        exact (watched id).sites site mem

theorem addRoutines (id : ProfilerId) (routines : List RoutineId) (h : Knows told e)
    (given : ∀ r ∈ registersAll id routines e, r ∈ told) :
    Knows told ((Engine.addRoutines id routines).run e).2 := by
  induction routines generalizing e with
  | nil => exact h
  | cons routine rest ih =>
    have first := h.addRoutine id routine fun r mem => given r (List.mem_append_left _ mem)
    rw [addRoutines_cons]
    exact ih first fun r mem => given r (List.mem_append_right _ mem)

theorem wrapRoutine (h : Knows told e) (id : ProfilerId) (routine : RoutineId)
    (given : ∀ r ∈ e.registers id routine, r ∈ told) :
    Knows told (answer (Engine.wrapRoutine id routine) e).2 := by
  have added := h.addRoutine id routine given
  rw [answer_wrapRoutine]
  rcases run : answer (Engine.addRoutine id routine) e with ⟨o, e'⟩
  rw [run] at added
  cases o with
  | error error => exact added
  | ok added' => exact added.same rfl

/-- Profilers that are the same but for their tallies know the same. -/
theorem of_bare (h : Knows told e) (bare : ∀ p, (e'.profiler p).bare = (e.profiler p).bare) :
    Knows told e' := by
  intro p
  have blocks := congrArg Profiler.blocks (bare p)
  have sites := congrArg Profiler.sites (bare p)
  refine ⟨fun hash w found => ?_, fun site mem => ?_⟩
  · exact (h p).blocks hash w (blocks ▸ found)
  · exact (h p).sites site (sites ▸ mem)

end Knows

end Engine

/-! ## Runs -/

/-- **Runs register nothing**: they leave everything but tallies as it is. -/
theorem View.bare_lasting (kept : ProfilerId → Profiler) :
    Lasting fun v => ∀ p, (v.scene.profiler p).bare = kept p where
  addFrame h := h
  withClock h _ := h
  enterScope {v} h routine p := by
    rw [← h p]
    exact congrArg Profiler.bare (v.scene.enterScope_profiler routine p)
  leaveScope {v} h routine p := by
    rw [← h p]
    exact congrArg Profiler.bare (v.scene.leaveScope_profiler routine p)
  enterFrame h _ := h
  startLine {v} h _ p := (v.scene.bare_recordLine _ _ p).trans (h p)
  depart {v} h _ _ p := (v.scene.bare_recordExit _ p).trans (h p)
  unwind {v} h _ p := (v.scene.bare_recordExit _ p).trans (h p)

end LineClock

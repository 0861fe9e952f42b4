import LineClock.Proofs.Engine.Listing
import LineClock.Proofs.Registry.Enrolled

/-!
# What adding a routine does

The block of the routine is admitted and the profiler enrolled. The other profilers of the routine
are told of the admitted block if it is another one than the routine had when it was enrolled last,
then the profiler itself is. Nobody else is told anything. Main statement: `added_cases`.
-/

namespace LineClock

open Machine

namespace Profiler

variable {p : Profiler} {routine : RoutineId}

theorem mem_addRoutine (p : Profiler) (routine : RoutineId) :
    routine ∈ (p.addRoutine routine).routines := by
  unfold addRoutine
  split
  · rename_i noted
    exact List.contains_iff_mem.mp noted
  · exact List.mem_append_right _ List.mem_cons_self

/-- What is noted is not noted twice. -/
theorem addRoutine_noted (noted : routine ∈ p.routines) : p.addRoutine routine = p :=
  if_pos (List.contains_iff_mem.mpr noted)

end Profiler

namespace Engine

variable {e : Engine} {id q : ProfilerId} {block : Block} {others : List ProfilerId}
  {routine : RoutineId}

/-! ## Watching -/

theorem profiler_watch (id : ProfilerId) (block : Block) (e : Engine) (q : ProfilerId) :
    (answer (watch id block) e).2.profiler q =
      if id = q ∧ id ∈ e.profilers.keys then
        (answer (Profiler.watch e.files block) (e.profiler q)).2
      else e.profiler q := by
  rw [answer_watch]
  refine (profiler_modify e id _ q).trans ?_
  split
  · rename_i here
    rw [here.1]
  · rfl

theorem profiler_watch_other (other : id ≠ q) :
    (answer (watch id block) e).2.profiler q = e.profiler q := by
  rw [profiler_watch, if_neg fun here => other here.1]

theorem keys_watch (id : ProfilerId) (block : Block) (e : Engine) :
    (answer (watch id block) e).2.profilers.keys = e.profilers.keys :=
  Assoc.keys_modify _ _ _

/-- A profiler that is there watches a block that it did not fail to watch. -/
theorem watches_watch (there : id ∈ e.profilers.keys) {added : Bool}
    (ok : (answer (watch id block) e).1 = .ok added) :
    ((answer (watch id block) e).2.profiler id).watches block.identity = true := by
  rw [profiler_watch, if_pos ⟨rfl, there⟩]
  rw [answer_watch] at ok
  simp only at ok
  have cases := Profiler.watch_cases e.files block (e.profiler id)
  generalize answer (Profiler.watch e.files block) (e.profiler id) = r at cases ok
  cases cases with
  | already known => exact known
  | failed error sources => cases ok
  | entered fresh sources lines =>
    exact Option.isSome_iff_exists.mpr ⟨_, Assoc.get?_set_self _ _ _⟩

/-- Watching a block of instructions does not fail. -/
theorem watch_ok (id : ProfilerId) (plain : block.native = false)
    (fit : Profiler.refusal? block = none) (e : Engine) :
    ∃ added, (answer (watch id block) e).1 = .ok added := by
  rw [answer_watch]
  cases known : (e.profiler id).watches block.identity with
  | true =>
    unfold Profiler.watch
    rw [answer_get_bind, if_pos known]
    exact ⟨false, rfl⟩
  | false => exact ⟨true, by rw [Profiler.watch_plain e.files plain fit known]⟩

/-- A block that is watched already is not news. -/
theorem watch_known (known : (e.profiler id).watches block.identity = true) :
    answer (watch id block) e = (.ok false, e) := by
  have still : answer (Profiler.watch e.files block) (e.profiler id) =
      (.ok false, e.profiler id) := by
    unfold Profiler.watch
    rw [answer_get_bind, if_pos known]
    rfl
  rw [answer_watch, still]
  refine congrArg (Prod.mk _) ?_
  have same : (e.profilers.modify id fun _ => e.profiler id) = e.profilers :=
    Assoc.modify_same fun _ found => Assoc.getD_of_get? found default
  simp only [same]

/-! ## Following -/

/-- What watching brings about in a profiler, following brings about. -/
theorem tellAll_profiler {R : Profiler → Profiler → Prop} (refl : ∀ p, R p p)
    (trans : ∀ {p p' p''}, R p p' → R p' p'' → R p p'')
    (watched : ∀ files p, R p (answer (Profiler.watch files block) p).2)
    (others : List ProfilerId) (e : Engine) (q : ProfilerId) :
    R (e.profiler q) (((tellAll block others).run e).2.profiler q) := by
  induction others generalizing e with
  | nil => exact refl _
  | cons other rest ih =>
    refine trans ?_ (ih (answer (watch other block) e).2)
    rw [profiler_watch]
    split
    · exact watched e.files _
    · exact refl _

theorem enriched_tellAll (others : List ProfilerId) (e : Engine) (q : ProfilerId) :
    (e.profiler q).Enriched (((tellAll block others).run e).2.profiler q) :=
  tellAll_profiler .refl .trans (fun files p => Profiler.watch_enriched files block p) others e q

/-- Who is not told stays as it is. -/
theorem tellAll_other (absent : q ∉ others) :
    ((tellAll block others).run e).2.profiler q = e.profiler q := by
  induction others generalizing e with
  | nil => rfl
  | cons other rest ih =>
    rw [List.mem_cons, not_or] at absent
    refine (ih absent.2).trans ?_
    exact profiler_watch_other (Ne.symm absent.1)

/-- Who is told watches the block. -/
theorem tellAll_watches (mem : q ∈ others) (there : q ∈ e.profilers.keys)
    (plain : block.native = false) (fit : Profiler.refusal? block = none) :
    (((tellAll block others).run e).2.profiler q).watches block.identity = true := by
  induction others generalizing e with
  | nil => cases mem
  | cons other rest ih =>
    rcases List.mem_cons.mp mem with rfl | mem
    · obtain ⟨added, ok⟩ := watch_ok q plain fit e
      exact (enriched_tellAll rest _ q).watches _ (watches_watch there ok)
    · exact ih mem ((keys_watch other block e).symm ▸ there)

/-! ## Adding -/

/-- The outcomes of adding a routine: its code is refused, or the others follow it to the admitted
block, which the profiler then cannot watch, or watches. -/
inductive Added (id : ProfilerId) (routine : RoutineId) (e : Engine) :
    Except ProfilerError Bool × Engine → Prop where
  | refused (error : ProfilerError) (unfit : Profiler.refusal? (e.codeOf routine) = some error) :
    Added id routine e (.error error, e)
  | failed (fit : Profiler.refusal? (e.codeOf routine) = none) {block : Block}
    (admitted : block = e.admits (e.profiler id).registry routine) {e₁ e₂ : Engine}
    (profilers : e₁.profilers = e.profilers)
    (followed : ((tellAll block (e.told (e.profiler id).registry routine id)).run e₁).2 = e₂)
    {error : ProfilerError} (failed : (answer (watch id block) e₂).1 = .error error) :
    Added id routine e (.error error, (answer (watch id block) e₂).2)
  | watched (fit : Profiler.refusal? (e.codeOf routine) = none) {block : Block}
    (admitted : block = e.admits (e.profiler id).registry routine) {e₁ e₂ : Engine}
    (profilers : e₁.profilers = e.profilers)
    (followed : ((tellAll block (e.told (e.profiler id).registry routine id)).run e₁).2 = e₂)
    {fresh : Bool} (watched : (answer (watch id block) e₂).1 = .ok fresh) :
    Added id routine e (.ok fresh,
      { (answer (watch id block) e₂).2 with
        profilers := (answer (watch id block) e₂).2.profilers.modify id (·.addRoutine routine) })

theorem added_cases (id : ProfilerId) (routine : RoutineId) (e : Engine) :
    Added id routine e (answer (addRoutine id routine) e) := by
  unfold addRoutine
  rw [answer_get_bind]
  cases refusal : Profiler.refusal? (e.codeOf routine) with
  | some error => exact .refused error refusal
  | none =>
    simp only
    rw [answer_get_bind]
    rw [answer_liftM_bind (run_prepare (e.profiler id).registry routine id e), answer_bind]
    have profilers : (e.enrolled (e.profiler id).registry routine id).profilers = e.profilers := rfl
    generalize e.enrolled (e.profiler id).registry routine id = e₁ at profilers ⊢
    generalize followed : ((tellAll _ _).run e₁).2 = e₂
    rcases watched : answer (watch id _) e₂ with ⟨error | fresh, e₃⟩
    · have failed := Added.failed refusal rfl profilers followed (congrArg Prod.fst watched)
      rw [watched] at failed
      exact failed
    · have done := Added.watched refusal rfl profilers followed (congrArg Prod.fst watched)
      rw [watched] at done
      exact done

section

variable {r : Except ProfilerError Bool × Engine}

/-- What is there stays there. -/
theorem Added.keys (h : Added id routine e r) : r.2.profilers.keys = e.profilers.keys := by
  cases h with
  | refused error unfit => rfl
  | failed fit admitted profilers followed failed =>
    rw [keys_watch, ← followed, keys_follow, profilers]
  | watched fit admitted profilers followed watched =>
    refine (Assoc.keys_modify _ _ _).trans ?_
    rw [keys_watch, ← followed, keys_follow, profilers]

/-- A note about a profiler changes nobody else. -/
theorem profiler_noted (e : Engine) (id : ProfilerId) (routine : RoutineId) (q : ProfilerId) :
    ({ e with profilers := e.profilers.modify id (·.addRoutine routine) } : Engine).profiler q =
      if id = q ∧ id ∈ e.profilers.keys then (e.profiler q).addRoutine routine
      else e.profiler q :=
  profiler_modify e id _ q

/-- What watching and taking notes bring about in a profiler, adding brings about. -/
theorem Added.profiler {R : Profiler → Profiler → Prop} (h : Added id routine e r)
    (refl : ∀ p, R p p) (trans : ∀ {p p' p''}, R p p' → R p' p'' → R p p'')
    (watched : ∀ files block p, R p (answer (Profiler.watch files block) p).2)
    (noted : ∀ p : Profiler, R p (p.addRoutine routine)) (q : ProfilerId) :
    R (e.profiler q) (r.2.profiler q) := by
  have both : ∀ {block e₁ e₂} {others : List ProfilerId}, e₁.profilers = e.profilers →
      ((tellAll block others).run e₁).2 = e₂ →
      R (e.profiler q) ((answer (watch id block) e₂).2.profiler q) := by
    intro block e₁ e₂ others profilers followed
    rw [← profiler_congr profilers q]
    have following : R (e₁.profiler q) (e₂.profiler q) := by
      rw [← followed]
      exact tellAll_profiler refl trans (fun files p => watched files block p) others e₁ q
    refine trans following ?_
    rw [profiler_watch]
    split
    · exact watched e₂.files block _
    · exact refl _
  cases h with
  | refused error unfit => exact refl _
  | failed fit admitted profilers followed failed => exact both profilers followed
  | watched fit admitted profilers followed done =>
    refine trans (both profilers followed) ?_
    rw [profiler_noted]
    split
    · exact noted _
    · exact refl _

/-- Adding takes nothing from a profiler. -/
theorem Added.enriched (h : Added id routine e r) (q : ProfilerId) :
    (e.profiler q).Enriched (r.2.profiler q) := by
  exact h.profiler .refl .trans Profiler.watch_enriched (fun p => .addRoutine p routine) q

/-- Who is neither told nor added to stays as it is. -/
theorem Added.other (h : Added id routine e r) (other : q ≠ id)
    (untold : q ∉ e.told (e.profiler id).registry routine id) :
    r.2.profiler q = e.profiler q := by
  have both : ∀ {block e₁ e₂}, e₁.profilers = e.profilers →
      ((tellAll block (e.told (e.profiler id).registry routine id)).run e₁).2 = e₂ →
      (answer (watch id block) e₂).2.profiler q = e.profiler q := by
    intro block e₁ e₂ profilers followed
    rw [profiler_watch_other (Ne.symm other), ← followed, tellAll_other untold]
    exact profiler_congr profilers q
  cases h with
  | refused error unfit => rfl
  | failed fit admitted profilers followed failed => exact both profilers followed
  | watched fit admitted profilers followed done =>
    rw [profiler_noted, if_neg fun here => other here.1.symm]
    exact both profilers followed

/-- Who is told watches the admitted block. -/
theorem Added.tells (h : Added id routine e r)
    (fit : Profiler.refusal? (e.codeOf routine) = none)
    (plain : (e.codeOf routine).native = false)
    (told : q ∈ e.told (e.profiler id).registry routine id) (there : q ∈ e.profilers.keys) :
    (r.2.profiler q).watches (e.admits (e.profiler id).registry routine).identity = true := by
  have plain' : (e.admits (e.profiler id).registry routine).native = false :=
    (Padding.native_accept _ _ _).trans plain
  have fit' : Profiler.refusal? (e.admits (e.profiler id).registry routine) = none :=
    Padding.refusal?_accept _ fit _
  have both : ∀ {e₁ e₂}, e₁.profilers = e.profilers →
      ((tellAll (e.admits (e.profiler id).registry routine)
        (e.told (e.profiler id).registry routine id)).run e₁).2 = e₂ →
      ((answer (watch id (e.admits (e.profiler id).registry routine)) e₂).2.profiler q).watches
        (e.admits (e.profiler id).registry routine).identity = true := by
    intro e₁ e₂ profilers followed
    have watches := tellAll_watches told (profilers.symm ▸ there) plain' fit'
    rw [followed] at watches
    rw [profiler_watch]
    split
    · exact (Profiler.watch_enriched _ _ _).watches _ watches
    · exact watches
  cases h with
  | refused error unfit =>
    rw [fit] at unfit
    cases unfit
  | failed fit admitted profilers followed failed =>
    subst admitted
    exact both profilers followed
  | watched fit admitted profilers followed done =>
    subst admitted
    rw [profiler_noted]
    split
    · rw [Profiler.watches_addRoutine]
      exact both profilers followed
    · exact both profilers followed

/-- A profiler to which a routine was added watches its admitted block, and has a note of it. -/
theorem Added.self {fresh : Bool} {e' : Engine} (h : Added id routine e (.ok fresh, e'))
    (there : id ∈ e.profilers.keys) :
    (e'.profiler id).watches (e.admits (e.profiler id).registry routine).identity = true ∧
      routine ∈ (e'.profiler id).routines := by
  generalize result : (Except.ok fresh, e') = r at h
  cases h with
  | refused error unfit => cases result
  | failed fit admitted profilers followed failed => cases result
  | @watched fit block admitted e₁ e₂ profilers followed fresh done =>
    cases result
    subst admitted
    have there' : id ∈ e₂.profilers.keys := by
      rw [← profilers, ← keys_follow, followed] at there
      exact there
    rw [profiler_noted, if_pos ⟨rfl, (keys_watch id _ _).symm ▸ there'⟩,
      Profiler.watches_addRoutine]
    exact ⟨watches_watch there' done, Profiler.mem_addRoutine _ _⟩

/-- Adding what is known already, and of which nobody has to be told, changes no profiler. -/
theorem Added.again (h : Added id routine e r)
    (fit : Profiler.refusal? (e.codeOf routine) = none)
    (untold : e.told (e.profiler id).registry routine id = [])
    (known : (e.profiler id).watches (e.admits (e.profiler id).registry routine).identity = true)
    (noted : routine ∈ (e.profiler id).routines) :
    r.1 = .ok false ∧ ∀ q, r.2.profiler q = e.profiler q := by
  generalize whole : (e.profiler id).registry = registry at *
  -- Nobody follows, and the profiler learns nothing.
  have still : ∀ {e₁ e₂ : Engine}, e₁.profilers = e.profilers →
      ((tellAll (e.admits registry routine) (e.told registry routine id)).run e₁).2 = e₂ →
      e₂.profilers = e.profilers ∧
        answer (watch id (e.admits registry routine)) e₂ = (.ok false, e₂) := by
    intro e₁ e₂ profilers followed
    rw [untold] at followed
    subst followed
    refine ⟨profilers, watch_known ?_⟩
    rw [← profiler_congr profilers] at known
    exact known
  cases h with
  | refused error unfit =>
    rw [fit] at unfit
    cases unfit
  | failed fit admitted profilers followed failed =>
    rw [whole] at admitted followed
    subst admitted
    rw [(still profilers followed).2] at failed
    cases failed
  | watched fit admitted profilers followed done =>
    rw [whole] at admitted followed
    subst admitted
    obtain ⟨profilers', unchanged⟩ := still profilers followed
    rw [unchanged] at done ⊢
    cases done
    refine ⟨rfl, fun q => ?_⟩
    refine (profiler_noted _ id routine q).trans ?_
    split
    · rename_i here
      rw [← here.1, profiler_congr profilers', Profiler.addRoutine_noted noted]
    · exact profiler_congr profilers' q

end

/-- Beyond profilers, adding a routine admits its block, enrols the profiler, and puts the admitted
block into the slot if it is another one. -/
theorem scene_addRoutine {registry : RegistryId} (h : Ready registry e) (id : ProfilerId)
    (fit : Profiler.refusal? (e.codeOf routine) = none) :
    let s := e.scene registry
    let accepted := s.padding.accept (s.codeOf routine) s.blocks
    ∃ profilers, (answer (addRoutine id routine) e).2.scene registry =
      { s with
        profilers
        blocks := s.blocks + 1
        padding := (accepted.2.enrol routine (s.codeOf routine).id accepted.1.id id).2
        code :=
          if accepted.1.id ≠ (s.codeOf routine).id then s.code.set (s.routine routine).slot accepted.1
          else s.code } := by
  have own : (e.profiler id).registry = registry := h.sole.profilers id
  obtain ⟨profilers, after⟩ := state_addRoutine id fit
  obtain ⟨profilers', scene⟩ := scene_prepare h routine id
  rw [own] at after
  refine ⟨profilers, ?_⟩
  have changed : (answer (addRoutine id routine) e).2.scene registry =
      { ((prepare registry routine id).run e).2.scene registry with profilers } := by
    rw [after]
    rfl
  rw [changed, scene]

/-- Code that was added is not refused. -/
theorem fit_of_added {fresh : Bool} (ok : (answer (addRoutine id routine) e).1 = .ok fresh) :
    Profiler.refusal? (e.codeOf routine) = none := by
  cases refusal : Profiler.refusal? (e.codeOf routine) with
  | none => rfl
  | some error =>
    rw [addRoutine_refused refusal] at ok
    cases ok

/-! ### What is where after a routine was added -/

section

variable {registry : RegistryId} {g : RoutineId}

/-- Routines have no part in adding. -/
theorem routines_addRoutine (given : Ready registry e) (p : ProfilerId) (routine : RoutineId) :
    (answer (addRoutine p routine) e).2.routines = e.routines := by
  cases refusal : Profiler.refusal? (e.codeOf routine) with
  | some error => rw [addRoutine_refused refusal]
  | none =>
    obtain ⟨profilers, scene⟩ := scene_addRoutine given p refusal
    exact congrArg Scene.routines scene

variable (given : Ready registry e) (p : ProfilerId)
  (fit : Profiler.refusal? (e.codeOf routine) = none)

include given fit

/-- The padding of the registry. -/
theorem padding_added :
    ((answer (addRoutine p routine) e).2.registry registry).padding =
      (((e.registry registry).padding.accept (e.codeOf routine) e.blocks).2.enrol routine
        (e.codeOf routine).id (e.admits registry routine).id p).2 := by
  obtain ⟨profilers, scene⟩ := scene_addRoutine given p fit
  exact congrArg Scene.padding scene

/-- One more number was given out. -/
theorem blocks_added : (answer (addRoutine p routine) e).2.blocks = e.blocks + 1 := by
  obtain ⟨profilers, scene⟩ := scene_addRoutine given p fit
  exact congrArg Scene.blocks scene

/-- The admitted block is in the slot of the routine that was added, and other slots are as they
were. -/
theorem slotCode_added (slot : RoutineId) :
    (answer (addRoutine p routine) e).2.slotCode slot =
      if (e.admits registry routine).id ≠ (e.codeOf routine).id ∧ (e.routine routine).slot = slot then
        e.admits registry routine
      else e.slotCode slot := by
  obtain ⟨profilers, scene⟩ := scene_addRoutine given p fit
  have code : (answer (addRoutine p routine) e).2.code =
      if (e.admits registry routine).id ≠ (e.codeOf routine).id then
        e.code.set (e.routine routine).slot (e.admits registry routine)
      else e.code := congrArg Scene.code scene
  unfold slotCode
  rw [code]
  by_cases moved : (e.admits registry routine).id ≠ (e.codeOf routine).id
  · rw [if_pos moved, Assoc.getD_set]
    by_cases here : (e.routine routine).slot = slot
    · rw [if_pos here, if_pos ⟨moved, here⟩]
    · rw [if_neg here, if_neg fun h => here h.2]
  · rw [if_neg moved, if_neg fun h => moved h.1]

/-- A routine keeps its code, unless the routine that was added runs the same code and another block
came out. -/
theorem codeOf_addRoutine :
    (answer (addRoutine p routine) e).2.codeOf g = e.codeOf g ∨
      e.codeOf routine = e.codeOf g ∧ (e.admits registry routine).id ≠ (e.codeOf routine).id := by
  have kept := routine_congr (routines_addRoutine given p routine) g
  by_cases moved : (e.admits registry routine).id ≠ (e.codeOf routine).id ∧
      (e.routine routine).slot = (e.routine g).slot
  · exact .inr ⟨congrArg e.slotCode moved.2, moved.1⟩
  · unfold codeOf
    rw [kept, slotCode_added given p fit, if_neg moved]
    exact .inl rfl

end

end Engine

end LineClock

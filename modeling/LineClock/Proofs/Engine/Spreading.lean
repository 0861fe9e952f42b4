import LineClock.Proofs.Engine.Adding
import LineClock.Proofs.Profiler.Searching

/-!
# How profilers learn of a block

Once a routine is prepared its block is spread: to the profilers that follow the routine, then to the
one to which it is added. Engines are `Alike` if their profilers differ in nothing but in what they
have looked for already, so that a block is spread in them in the same way. Spreading a native block
among profilers that are blind to it changes nothing more. A routine that was prepared for a profiler
is not prepared again: adding it once more concerns that profiler alone.

Main statements: `answer_addRoutine`, `Alike.spread`, `Alike.spread_blind` and `add_prepared`.
-/

namespace LineClock.Engine

open Machine Profiler

variable {e x y : Engine} {b block : Block} {ws others : List ProfilerId} {id q : ProfilerId}
  {routine : RoutineId} {registry : RegistryId}

/-! ## Spreading -/

/-- A block becomes known to the profilers that follow, then to the one to which its routine is
added. -/
def spread (block : Block) (others : List ProfilerId) (id : ProfilerId) (routine : RoutineId) :
    ExceptT ProfilerError (StateM Engine) Bool := do
  liftM (tellAll block others)
  let added ← watch id block
  modifyProfiler id (·.addRoutine routine)
  return added

/-- Profilers that follow write no files. -/
theorem files_tellAll (block : Block) (others : List ProfilerId) (e : Engine) :
    ((tellAll block others).run e).2.files = e.files := by
  induction others generalizing e with
  | nil => rfl
  | cons other rest ih => exact ih (answer (watch other block) e).2

/-- The others are told first. -/
theorem answer_spread (block : Block) (others : List ProfilerId) (id : ProfilerId)
    (routine : RoutineId) (e : Engine) :
    answer (spread block others id routine) e = answer (do
      let added ← watch id block
      modifyProfiler id (·.addRoutine routine)
      return added) ((tellAll block others).run e).2 := rfl

/-- **Adding a routine spreads the block that was admitted** in an engine with the same profilers. -/
theorem answer_addRoutine (fit : Profiler.refusal? (e.codeOf routine) = none) (id : ProfilerId) :
    ∃ e₁ : Engine, e₁.profilers = e.profilers ∧ e₁.files = e.files ∧
      answer (addRoutine id routine) e = answer (spread (e.admits (e.profiler id).registry routine)
        (e.told (e.profiler id).registry routine id) id routine) e₁ := by
  refine ⟨e.enrolled (e.profiler id).registry routine id, rfl, rfl, ?_⟩
  unfold addRoutine
  rw [answer_get_bind, fit, answer_spread]
  simp only
  rw [answer_get_bind, answer_liftM_bind (run_prepare ..)]

/-! ## Engines that are alike -/

/-- Engines whose profilers differ in nothing but in what they have looked for already, where the
profilers `ws` are blind to the block `b`. -/
structure Alike (b : Block) (ws : List ProfilerId) (x y : Engine) : Prop where
  files : x.files = y.files
  keys : x.profilers.keys = y.profilers.keys
  twins : ∀ q, Twin y.files (x.profiler q) (y.profiler q)
  blind : ∀ q ∈ ws, q ∈ y.profilers.keys → Blind y.files b (y.profiler q)

namespace Alike

theorem refl (blind : ∀ q ∈ ws, q ∈ e.profilers.keys → Blind e.files b (e.profiler q)) :
    Alike b ws e e :=
  ⟨rfl, rfl, fun q => .refl e.files (e.profiler q), blind⟩

theorem symm (h : Alike b ws x y) : Alike b ws y x := by
  obtain ⟨files, keys, twins, blind⟩ := h
  refine ⟨files.symm, keys.symm, fun q => ?_, fun q mem there => ?_⟩
  · rw [files]
    exact (twins q).symm
  · rw [files]
    exact (blind q mem (keys ▸ there)).congr (twins q).symm

/-- Nothing but profilers and files counts. -/
theorem congr (h : Alike b ws x y) {x' y' : Engine} (left : x'.profilers = x.profilers)
    (files : x'.files = x.files) (right : y'.profilers = y.profilers)
    (files' : y'.files = y.files) : Alike b ws x' y' := by
  refine ⟨?_, ?_, fun q => ?_, fun q mem there => ?_⟩
  · rw [files, files', h.files]
  · rw [left, right, h.keys]
  · rw [profiler_congr left, profiler_congr right, files']
    exact h.twins q
  · rw [profiler_congr right, files']
    exact h.blind q mem (right ▸ there)

/-- **A block is watched in the same way.** -/
theorem watch (h : Alike b ws x y) (id : ProfilerId) (block : Block) :
    (answer (Engine.watch id block) x).1 = (answer (Engine.watch id block) y).1 ∧
      Alike b ws (answer (Engine.watch id block) x).2 (answer (Engine.watch id block) y).2 := by
  have both := fun q => (h.twins q).watch block
  refine ⟨?_, h.files, ?_, fun q => ?_, fun q mem there => ?_⟩
  · rw [answer_watch, answer_watch, h.files]
    exact (both id).1
  · rw [keys_watch, keys_watch]
    exact h.keys
  · have files : (answer (Engine.watch id block) y).2.files = y.files := rfl
    rw [profiler_watch, profiler_watch, h.keys, h.files, files]
    split
    · exact (both q).2
    · exact h.twins q
  · have files : (answer (Engine.watch id block) y).2.files = y.files := rfl
    rw [keys_watch] at there
    rw [profiler_watch, files]
    split
    · exact (h.blind q mem there).watch block
    · exact h.blind q mem there

/-- Profilers follow in the same way. -/
theorem tellAll (h : Alike b ws x y) (block : Block) (others : List ProfilerId) :
    Alike b ws ((Engine.tellAll block others).run x).2 ((Engine.tellAll block others).run y).2 := by
  induction others generalizing x y with
  | nil => exact h
  | cons other rest ih => exact ih (h.watch other block).2

/-- A note is taken in the same way. -/
theorem noted (h : Alike b ws x y) (id : ProfilerId) (routine : RoutineId) :
    Alike b ws { x with profilers := x.profilers.modify id (·.addRoutine routine) }
      { y with profilers := y.profilers.modify id (·.addRoutine routine) } := by
  refine ⟨h.files, ?_, fun q => ?_, fun q mem there => ?_⟩
  · simp only [Assoc.keys_modify]
    exact h.keys
  · rw [profiler_noted, profiler_noted, h.keys]
    split
    · exact (h.twins q).addRoutine routine
    · exact h.twins q
  · simp only [Assoc.keys_modify] at there
    rw [profiler_noted]
    split
    · exact (h.blind q mem there).addRoutine routine
    · exact h.blind q mem there

/-- **A block is spread in the same way.** -/
theorem spread (h : Alike b ws x y) (block : Block) (others : List ProfilerId) (id : ProfilerId)
    (routine : RoutineId) :
    (answer (Engine.spread block others id routine) x).1 =
        (answer (Engine.spread block others id routine) y).1 ∧
      Alike b ws (answer (Engine.spread block others id routine) x).2
        (answer (Engine.spread block others id routine) y).2 := by
  obtain ⟨same, after⟩ := (h.tellAll block others).watch id block
  rw [answer_spread, answer_spread, answer_bind, answer_bind]
  generalize answer (Engine.watch id block) ((Engine.tellAll block others).run x).2 = r at same after
  generalize answer (Engine.watch id block) ((Engine.tellAll block others).run y).2 = r' at same after
  obtain ⟨o, x'⟩ := r
  obtain ⟨o', y'⟩ := r'
  cases same
  cases o with
  | error error => exact ⟨rfl, after⟩
  | ok added => exact ⟨rfl, after.noted id routine⟩

/-! ## Blind profilers -/

variable (native : b.native = true)

include native

/-- A blind profiler watches in vain. -/
theorem watch_blind (h : Alike b ws x y) (mem : id ∈ ws) :
    Alike b ws x (answer (Engine.watch id b) y).2 := by
  have files : (answer (Engine.watch id b) y).2.files = y.files := rfl
  refine ⟨h.files, ?_, fun q => ?_, fun q mem there => ?_⟩
  · rw [keys_watch]
    exact h.keys
  · rw [profiler_watch, files]
    split
    · rename_i here
      have blind := h.blind q (here.1 ▸ mem) (here.1 ▸ here.2)
      exact (h.twins q).trans (blind.twin native).symm
    · exact h.twins q
  · rw [keys_watch] at there
    rw [profiler_watch, files]
    split
    · exact (h.blind q mem there).watch b
    · exact h.blind q mem there

/-- Blind profilers follow in vain. -/
theorem tellAll_blind (h : Alike b ws x y) (all : ∀ t ∈ others, t ∈ ws) :
    Alike b ws x ((Engine.tellAll b others).run y).2 := by
  induction others generalizing y with
  | nil => exact h
  | cons other rest ih =>
    exact ih (h.watch_blind native (all other List.mem_cons_self))
      fun t mem => all t (List.mem_cons_of_mem _ mem)

/-- **To blind profilers a block is spread in vain**: it comes to the same if none of them is told. -/
theorem spread_blind (h : Alike b ws x y) (all : ∀ t ∈ others, t ∈ ws) (id : ProfilerId)
    (routine : RoutineId) :
    (answer (Engine.spread b [] id routine) x).1 =
        (answer (Engine.spread b others id routine) y).1 ∧
      Alike b ws (answer (Engine.spread b [] id routine) x).2
        (answer (Engine.spread b others id routine) y).2 := by
  rw [answer_spread b others]
  exact (h.tellAll_blind native all).spread b [] id routine

end Alike

/-- Who was told of a native block, and does not watch more blocks than before, is blind to it. -/
theorem blind_of_told (native : b.native = true) (mem : q ∈ others) (there : q ∈ e.profilers.keys)
    (same : (((tellAll b others).run e).2.profiler q).blocks = (e.profiler q).blocks) :
    Blind e.files b (e.profiler q) := by
  induction others generalizing e with
  | nil => cases mem
  | cons other rest ih =>
    by_cases here : other = q
    · subst here
      cases watched : (answer (Profiler.watch e.files b) (e.profiler other)).1 with
      | error error => exact .of_error native watched
      | ok fresh =>
        -- It watches the block from then on, so it did so before.
        have grown : ((answer (watch other b) e).2.profiler other).Enriched
            (((tellAll b (other :: rest)).run e).2.profiler other) := enriched_tellAll rest _ other
        have after := grown.watches _ (watches_watch there watched)
        refine .inl ?_
        unfold watches at after ⊢
        rw [← same]
        exact after
    · have first : (answer (Engine.watch other b) e).2.profiler q = e.profiler q :=
        profiler_watch_other here
      have later := ih (e := (answer (Engine.watch other b) e).2)
        ((List.mem_cons.mp mem).resolve_left (Ne.symm here)) ((keys_watch other b e).symm ▸ there)
      rw [first] at later
      exact later same

/-! ## The profiler itself -/

/-- A block is watched, and if that does not fail a note is made. -/
theorem answer_adopt (id : ProfilerId) (block : Block) (routine : RoutineId) (e : Engine) :
    answer (do
      let added ← watch id block
      modifyProfiler id (·.addRoutine routine)
      return added) e =
      ((Profiler.adopt e.files block routine (e.profiler id)).1,
        { e with profilers := e.profilers.modify id fun _ =>
            (Profiler.adopt e.files block routine (e.profiler id)).2 }) := by
  rw [answer_bind, answer_watch]
  unfold Profiler.adopt
  rcases answer (Profiler.watch e.files block) (e.profiler id) with ⟨error | added, p⟩
  · rfl
  · have noted : ∀ e : Engine, answer (do
        modifyProfiler id (·.addRoutine routine)
        return added : ExceptT ProfilerError (StateM Engine) Bool) e =
          (.ok added, { e with profilers := e.profilers.modify id (·.addRoutine routine) }) :=
      fun _ => rfl
    refine (noted _).trans ?_
    simp only [Assoc.modify_modify]
    rfl

/-- Nobody is told of what is added to himself. -/
theorem not_mem_told (registry : RegistryId) (routine : RoutineId) (id : ProfilerId) (e : Engine) :
    id ∉ e.told registry routine id := by
  intro mem
  obtain ⟨-, -, -, -, other⟩ := (Padding.told_iff _ _ _ _ _ _).mp mem
  exact other rfl

/-- **The profiler to which a routine is added** watches the block that was admitted. -/
theorem added_self (fit : Profiler.refusal? (e.codeOf routine) = none)
    (there : id ∈ e.profilers.keys) :
    let own := Profiler.adopt e.files (e.admits (e.profiler id).registry routine) routine (e.profiler id)
    (answer (addRoutine id routine) e).1 = own.1 ∧
      (answer (addRoutine id routine) e).2.files = e.files ∧
      (answer (addRoutine id routine) e).2.profiler id = own.2 := by
  obtain ⟨e₁, profilers, files, added⟩ := answer_addRoutine fit id
  have untold := not_mem_told (e.profiler id).registry routine id e
  have told : ((tellAll (e.admits (e.profiler id).registry routine)
      (e.told (e.profiler id).registry routine id)).run e₁).2.profiler id = e₁.profiler id :=
    tellAll_other untold
  have files' := files_tellAll (e.admits (e.profiler id).registry routine)
    (e.told (e.profiler id).registry routine id) e₁
  have keys : ((tellAll (e.admits (e.profiler id).registry routine)
      (e.told (e.profiler id).registry routine id)).run e₁).2.profilers.keys = e₁.profilers.keys :=
    keys_follow _ _ e₁
  have same := profiler_congr profilers id
  rw [added, answer_spread, answer_adopt]
  generalize ((tellAll _ _).run e₁).2 = e₂ at *
  rw [files', files, told, same]
  refine ⟨rfl, rfl, ?_⟩
  have here : id ∈ e₂.profilers.keys := by
    rw [keys, profilers]
    exact there
  exact (profiler_modify e₂ id _ id).trans (if_pos ⟨rfl, here⟩)

/-! ## Prepared routines -/

/-- A routine was prepared for a profiler: its block is admitted, and enrolled as the block of the
routine for the profiler among others. -/
structure Prepared (registry : RegistryId) (id : ProfilerId) (routine : RoutineId) (e : Engine) :
    Prop where
  known : (e.codeOf routine).id ∈ (e.registry registry).padding.known
  enrolled : ∃ record, (e.registry registry).padding.enrolled.get? routine = some record ∧
    record.block = (e.codeOf routine).id ∧ id ∈ record.watchers

/-- Enrolling once more changes nothing, and nobody is told. -/
theorem enrol_again {padding : Padding} {record : Enrolment} {before : BlockId}
    (found : padding.enrolled.get? routine = some record) (watches : id ∈ record.watchers) :
    padding.enrol routine before record.block id = ([], padding) := by
  have there := Assoc.getD_of_get? found { block := before }
  unfold Padding.enrol
  simp only [there, if_pos (List.contains_iff_mem.mpr watches), if_true, Assoc.set_get? found]

/-- **Preparing once more** uses up the number of a block, and changes nothing else. -/
theorem run_prepare_again (h : Prepared registry id routine e) :
    (prepare registry routine id).run e = (e.codeOf routine, { e with blocks := e.blocks + 1 }) := by
  obtain ⟨known, record, found, block, watches⟩ := h
  have accepted : (e.registry registry).padding.accept (e.codeOf routine) e.blocks =
      (e.codeOf routine, (e.registry registry).padding) := Padding.accept_known known _
  have again : (e.registry registry).padding.enrol routine (e.codeOf routine).id record.block id =
      ([], (e.registry registry).padding) := enrol_again found watches
  rw [block] at again
  have admits : e.admits registry routine = e.codeOf routine := congrArg Prod.fst accepted
  have told : e.told registry routine id = [] := by
    unfold Engine.told
    rw [admits, accepted, again]
  -- The registry is written over with itself.
  have same : (e.registries.modify registry fun r =>
      { r with padding := (e.registry registry).padding }) = e.registries := by
    refine Assoc.modify_same fun r found => ?_
    rw [show e.registry registry = r from Assoc.getD_of_get? found default]
  have enrolled : e.enrolled registry routine id = { e with blocks := e.blocks + 1 } := by
    unfold Engine.enrolled
    simp only [accepted, again, same, ne_eq, not_true_eq_false, if_false]
  rw [run_prepare, admits, told, enrolled]
  rfl

/-- **Adding once more** what was prepared comes down to adopting its block. -/
theorem add_prepared (h : Prepared (e.profiler id).registry id routine e)
    (fit : Profiler.refusal? (e.codeOf routine) = none) :
    let own := Profiler.adopt e.files (e.codeOf routine) routine (e.profiler id)
    answer (addRoutine id routine) e =
      (own.1, { e with blocks := e.blocks + 1, profilers := e.profilers.modify id fun _ => own.2 }) := by
  unfold addRoutine
  rw [answer_get_bind]
  simp only [fit]
  rw [answer_get_bind, answer_liftM_bind (run_prepare_again h), answer_adopt]
  rfl

end LineClock.Engine

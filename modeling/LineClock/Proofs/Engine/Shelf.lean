import LineClock.Proofs.Engine.Quiet
import LineClock.Proofs.Engine.Registering
import LineClock.Proofs.Registry.Apart

/-!
# The blocks of a scene

The blocks a registry may meet are those it has admitted and those in code slots. They have
different numbers, all of them given out, and their padding is padding; that is what keeps the
admitted ones apart, whatever is put into which slot. Main statement: `Shelf.addRoutine`.
-/

namespace LineClock

open Machine Engine

namespace Scene

/-- A block that was admitted, or that stands in a slot and could be. -/
def Holds (s : Scene) (done : List Block) (b : Block) : Prop :=
  b ∈ done ∨ Profiler.refusal? b = none ∧ ∃ slot, s.code.get? slot = some b

/-- Blocks are told apart by their numbers, and admitted blocks are kept apart. -/
structure Shelf (done : List Block) (s : Scene) : Prop where
  admitted : s.padding.Admitted done
  given : ∀ b, s.Holds done b → b.id < s.blocks
  distinct : ∀ b c, s.Holds done b → s.Holds done c → b.id = c.id → b = c
  padded : ∀ b, s.Holds done b → b.Padded

variable {s s' : Scene} {done done' : List Block} {b block : Block}

/-- What a routine runs is in a slot, unless there is nothing to run. -/
theorem holds_codeOf {routine : RoutineId} (h : Profiler.refusal? (s.codeOf routine) = none) :
    s.Holds done (s.codeOf routine) := by
  refine .inr ⟨h, (s.routine routine).slot, ?_⟩
  unfold codeOf Assoc.getD at *
  cases there : s.code.get? (s.routine routine).slot with
  | none =>
    rw [there] at h
    cases h
  | some b => rfl

/-- A block was put into a slot. -/
theorem holds_set {slot : RoutineId} (code : s'.code = s.code.set slot block)
    (h : s'.Holds done b) : s.Holds done b ∨ b = block ∧ Profiler.refusal? block = none := by
  rcases h with mem | ⟨fit, slot', found⟩
  · exact .inl (.inl mem)
  · rw [code, Assoc.get?_set] at found
    split at found
    · cases found
      exact .inr ⟨rfl, fit⟩
    · exact .inl (.inr ⟨fit, slot', found⟩)

namespace Shelf

/-- Nothing new is met. -/
theorem stay (h : s.Shelf done) (admitted : s'.padding.Admitted done') (given : s.blocks ≤ s'.blocks)
    (holds : ∀ b, s'.Holds done' b → s.Holds done b) : s'.Shelf done' :=
  ⟨admitted, fun b there => Nat.lt_of_lt_of_le (h.given b (holds b there)) given,
    fun b c there there' => h.distinct b c (holds b there) (holds c there'),
    fun b there => h.padded b (holds b there)⟩

/-- One new block is met, under a number of its own. -/
theorem arrive (h : s.Shelf done) (admitted : s'.padding.Admitted done')
    (number : block.id = s.blocks) (given : s.blocks < s'.blocks) (padded : block.Padded)
    (holds : ∀ b, s'.Holds done' b → s.Holds done b ∨ b = block) : s'.Shelf done' := by
  have before : ∀ b, s.Holds done b → b.id ≠ block.id := by
    intro b there
    rw [number]
    exact Nat.ne_of_lt (h.given b there)
  refine ⟨admitted, fun b there => ?_, fun b c there there' same => ?_, fun b there => ?_⟩
  · rcases holds b there with there | rfl
    · exact Nat.lt_trans (h.given b there) given
    · rw [number]
      exact given
  · rcases holds b there with there | rfl <;> rcases holds c there' with there' | rfl
    · exact h.distinct b c there there' same
    · exact absurd same (before b there)
    · exact absurd same.symm (before c there')
    · rfl
  · rcases holds b there with there | rfl
    · exact h.padded b there
    · exact padded

/-- Changes that code has no part in. -/
theorem same (h : s.Shelf done) (code : s'.code = s.code) (blocks : s'.blocks = s.blocks)
    (padding : s'.padding = s.padding) : s'.Shelf done := by
  refine h.stay (padding ▸ h.admitted) (Nat.le_of_eq blocks.symm) fun b there => ?_
  unfold Holds at *
  rw [← code]
  exact there

theorem withClock {registry : RegistryId} {e : Engine} (h : (e.scene registry).Shelf done)
    (clock : Counter) : ((e.withClock clock).scene registry).Shelf done :=
  h.same rfl rfl rfl

theorem lower (h : s.Shelf done) (p : ProfilerId) : (s.lower p).Shelf done := by
  rw [lower_eq]
  exact h.same rfl rfl rfl

/-- A block that is met already, or that could not be admitted, is put into a slot. -/
theorem set (h : s.Shelf done) (block : Block) {slot : RoutineId}
    (old : Profiler.refusal? block = none → s.Holds done block)
    (code : s'.code = s.code.set slot block) (blocks : s.blocks ≤ s'.blocks)
    (padding : s'.padding = s.padding) : s'.Shelf done := by
  refine h.stay (padding ▸ h.admitted) blocks fun b there => ?_
  rcases holds_set code there with there | ⟨rfl, fit⟩
  · exact there
  · exact old fit

/-- A new block is put into a slot. -/
theorem setNew (h : s.Shelf done) (block : Block) {slot : RoutineId} (number : block.id = s.blocks)
    (padded : block.Padded) (code : s'.code = s.code.set slot block)
    (blocks : s.blocks < s'.blocks) (padding : s'.padding = s.padding) : s'.Shelf done :=
  h.arrive (padding ▸ h.admitted) number blocks padded fun _ there =>
    (holds_set code there).imp id And.left

/-- The order in which blocks were admitted, and how often, is all the same. -/
theorem congr (h : s.Shelf done) (mem : ∀ b, b ∈ done' ↔ b ∈ done) : s.Shelf done' := by
  have holds : ∀ b, s.Holds done' b → s.Holds done b := fun b there =>
    there.imp (mem b).mp id
  refine h.stay ⟨fun id => ?_, fun b there => ?_, fun b there c there' => ?_⟩ (Nat.le_refl _) holds
  · simp only [mem]
    exact h.admitted.known id
  · exact h.admitted.counted b ((mem b).mp there)
  · exact h.admitted.apart b ((mem b).mp there) c ((mem c).mp there')

end Shelf

end Scene

/-! ## Preparing -/

namespace Engine

variable {registry : RegistryId} {e : Engine}

/-- Profilers that follow a routine change nothing but themselves. -/
theorem scene_follow (registry : RegistryId) (block : Block) (others : List ProfilerId) (e : Engine) :
    ∃ profilers, ((others.forM fun other => Functor.discard (Engine.watch other block).run :
      StateM Engine PUnit).run e).2.scene registry = { e.scene registry with profilers } := by
  induction others generalizing e with
  | nil => exact ⟨e.profilers, rfl⟩
  | cons other rest ih =>
    obtain ⟨profilers, same⟩ := ih ((Functor.discard (Engine.watch other block).run).run e).2
    exact ⟨profilers, same⟩

/-- Enrolling a routine gives out a number, and notes the routine in the padding. -/
theorem scene_enrolled (h : Ready registry e) (routine : RoutineId) (id : ProfilerId) :
    let s := e.scene registry
    let accepted := s.padding.accept (s.codeOf routine) s.blocks
    (e.enrolled registry routine id).scene registry =
      { s with
        blocks := s.blocks + 1
        padding := (accepted.2.enrol routine (s.codeOf routine).id accepted.1.id id).2
        code :=
          if accepted.1.id ≠ (s.codeOf routine).id then s.code.set (s.routine routine).slot accepted.1
          else s.code } := by
  have numbered : Ready registry { e with blocks := e.blocks + 1 } := Setup.newBlock.ready h
  let s := e.scene registry
  let accepted := s.padding.accept (s.codeOf routine) s.blocks
  have noted := Setup.scene_padding numbered
    (accepted.2.enrol routine (s.codeOf routine).id accepted.1.id id).2
  exact congrArg (fun s' : Scene => { s' with
    code :=
      if accepted.1.id ≠ (s.codeOf routine).id then s.code.set (s.routine routine).slot accepted.1
      else s.code }) noted

/-- **What preparing a routine does**: the admitted block takes the place of the block it was made
from, if it is another one. -/
theorem scene_prepare (h : Ready registry e) (routine : RoutineId) (id : ProfilerId) :
    let s := e.scene registry
    let accepted := s.padding.accept (s.codeOf routine) s.blocks
    ∃ profilers, ((prepare registry routine id).run e).2.scene registry =
      { s with
        profilers
        blocks := s.blocks + 1
        padding := (accepted.2.enrol routine (s.codeOf routine).id accepted.1.id id).2
        code :=
          if accepted.1.id ≠ (s.codeOf routine).id then s.code.set (s.routine routine).slot accepted.1
          else s.code } := by
  simp only
  rw [run_prepare]
  obtain ⟨profilers, followed⟩ := scene_follow registry (e.admits registry routine)
    (e.told registry routine id) (e.enrolled registry routine id)
  refine ⟨profilers, followed.trans ?_⟩
  rw [scene_enrolled h]

/-- Beyond preparing, adding a routine changes profilers only. -/
theorem state_addRoutine {routine : RoutineId} (id : ProfilerId)
    (fit : Profiler.refusal? (e.codeOf routine) = none) :
    ∃ profilers, (answer (addRoutine id routine) e).2 =
      { ((prepare (e.profiler id).registry routine id).run e).2 with profilers } := by
  unfold addRoutine
  rw [answer_get_bind]
  simp only [fit]
  rw [answer_get_bind]
  rcases run : (prepare (e.profiler id).registry routine id).run e with ⟨block, e₁⟩
  rw [answer_liftM_bind run, answer_bind]
  have watched : ∀ o e₂, answer (watch id block) e₁ = (o, e₂) →
      ∃ profilers, e₂ = { e₁ with profilers } := by
    intro o e₂ run
    exact ⟨_, (congrArg Prod.snd run).symm⟩
  rcases watch : answer (watch id block) e₁ with ⟨o, e₂⟩
  obtain ⟨profilers, rfl⟩ := watched o e₂ watch
  cases o with
  | error error => exact ⟨profilers, rfl⟩
  | ok added => exact ⟨_, rfl⟩

end Engine

namespace Scene.Shelf

variable {registry : RegistryId} {e : Engine} {done : List Block} {s : Scene} {routine : RoutineId}

/-- The admitted block is the block itself, or a copy under a new number. -/
theorem accepted (p : Padding) (block : Block) (id : BlockId) :
    (p.accept block id).1 = block ∨ ∃ units, (p.accept block id).1 = block.withPadding units id := by
  unfold Padding.accept
  split
  · exact .inl rfl
  · exact (p.placed_place block id).same

/-- A block that is not new stays what it is. -/
theorem accepted_same (shelf : s.Shelf done) {block : Block} (there : s.Holds done block)
    (p : Padding) (same : (p.accept block s.blocks).1.id = block.id) :
    (p.accept block s.blocks).1 = block := by
  rcases accepted p block s.blocks with old | ⟨units, copy⟩
  · exact old
  · rw [copy] at same
    exact absurd same.symm (Nat.ne_of_lt (shelf.given block there))

/-- **Preparing a routine** keeps the admitted blocks apart, and the routine runs the admitted
block. -/
theorem prepare (h : Ready registry e) (shelf : (e.scene registry).Shelf done)
    {routine : RoutineId} (fit : Profiler.refusal? (e.codeOf routine) = none) (id : ProfilerId) :
    let block := ((e.registry registry).padding.accept (e.codeOf routine) e.blocks).1
    let after := ((Engine.prepare registry routine id).run e).2
    (after.scene registry).Shelf (block :: done) ∧ after.codeOf routine = block := by
  simp only
  obtain ⟨profilers, scene⟩ := scene_prepare h routine id
  have there : (e.scene registry).Holds done (e.codeOf routine) := holds_codeOf fit
  have same := shelf.accepted_same there (e.registry registry).padding
  have origin := accepted (e.registry registry).padding (e.codeOf routine) e.blocks
  have unique : ∀ b ∈ done, b.id = (e.codeOf routine).id → b = e.codeOf routine :=
    fun b mem => shelf.distinct b _ (.inl mem) there
  have apart := shelf.admitted.accept unique e.blocks
  rw [scene_codeOf] at scene
  have blocks : (e.scene registry).blocks = e.blocks := rfl
  have padding : (e.scene registry).padding = (e.registry registry).padding := rfl
  rw [blocks] at same
  rw [padding] at apart
  rw [padding, blocks] at scene
  generalize (e.registry registry).padding.accept (e.codeOf routine) e.blocks = result at *
  obtain ⟨block, next⟩ := result
  simp only at scene same origin apart ⊢
  refine ⟨?_, ?_⟩
  · have holds : ∀ b, (((Engine.prepare registry routine id).run e).2.scene registry).Holds
        (block :: done) b → (e.scene registry).Holds done b ∨ b = block := by
      rintro b (mem | ⟨fit, slot, found⟩)
      · rcases List.mem_cons.mp mem with rfl | mem
        · exact .inr rfl
        · exact .inl (.inl mem)
      · rw [scene] at found
        simp only at found
        split at found
        · rw [Assoc.get?_set] at found
          split at found
          · cases found
            exact .inr rfl
          · exact .inl (.inr ⟨fit, slot, found⟩)
        · exact .inl (.inr ⟨fit, slot, found⟩)
    have admitted : (((Engine.prepare registry routine id).run e).2.scene registry).padding.Admitted
        (block :: done) := by
      rw [scene]
      exact apart.enrol routine _ _ id
    have grown : (((Engine.prepare registry routine id).run e).2.scene registry).blocks =
        e.blocks + 1 := by rw [scene]
    rcases origin with rfl | ⟨units, rfl⟩
    · refine shelf.stay admitted (Nat.le_of_lt (Nat.lt_of_lt_of_eq (Nat.lt_succ_self _) grown.symm))
        fun b there' => ?_
      rcases holds b there' with there' | rfl
      · exact there'
      · exact there
    · exact shelf.arrive admitted rfl (Nat.lt_of_lt_of_eq (Nat.lt_succ_self _) grown.symm)
        (Block.padded_withPadding _ _ _) holds
  · rw [← scene_codeOf registry, scene]
    by_cases differ : block.id ≠ (e.codeOf routine).id
    · simp only [if_pos differ]
      unfold codeOf Scene.routine
      rw [Assoc.getD_set]
      exact if_pos rfl
    · simp only [if_neg differ]
      exact (same (Decidable.not_not.mp differ)).symm

/-- Registered blocks, as the shelf has them. -/
theorem mem_registers (fit : Profiler.refusal? (e.codeOf routine) = none) (id : ProfilerId) (b : Block) :
    b ∈ (e.registers id routine).map Prod.snd ↔
      b = ((e.registry (e.profiler id).registry).padding.accept (e.codeOf routine) e.blocks).1 := by
  simp only [registers_of_fit fit, List.map_cons, List.map_map, List.mem_cons, List.mem_map, Function.comp_apply]
  constructor
  · rintro (here | ⟨_, _, here⟩)
    · exact here
    · exact here.symm
  · exact .inl

/-- **Adding a routine** keeps what was registered apart, and what a routine runs once it was added
is registered. -/
theorem addRoutine (h : Ready registry e) (shelf : (e.scene registry).Shelf done)
    (id : ProfilerId) (routine : RoutineId) :
    let result := answer (Engine.addRoutine id routine) e
    (result.2.scene registry).Shelf (done ++ (e.registers id routine).map Prod.snd) ∧
      ∀ fresh, result.1 = .ok fresh →
        result.2.codeOf routine ∈ (e.registers id routine).map Prod.snd := by
  simp only
  cases refusal : Profiler.refusal? (e.codeOf routine) with
  | some error =>
    rw [registers_refused refusal, addRoutine_refused refusal, List.map_nil, List.append_nil]
    exact ⟨shelf, fun _ h => by cases h⟩
  | none =>
    have own : (e.profiler id).registry = registry := h.sole.profilers id
    obtain ⟨profilers, after⟩ := state_addRoutine id refusal
    obtain ⟨kept, runs⟩ := shelf.prepare h refusal id
    rw [own] at after
    rw [after]
    refine ⟨Shelf.congr (kept.same rfl rfl rfl) fun b => ?_, fun _ _ => ?_⟩
    · rw [List.mem_append, mem_registers refusal, own, List.mem_cons, or_comm]
    · rw [mem_registers refusal, own]
      exact runs

theorem addRoutines (id : ProfilerId) (routines : List RoutineId) (h : Ready registry e)
    (shelf : (e.scene registry).Shelf done) :
    (((Engine.addRoutines id routines).run e).2.scene registry).Shelf
      (done ++ (registersAll id routines e).map Prod.snd) := by
  induction routines generalizing e done with
  | nil =>
    have none : registersAll id [] e = [] := rfl
    rw [none, List.map_nil, List.append_nil]
    exact shelf
  | cons routine rest ih =>
    have first := (shelf.addRoutine h id routine).1
    have ready : Ready registry (answer (Engine.addRoutine id routine) e).2 :=
      (Setup.addRoutine id routine).ready h
    have all : registersAll id (routine :: rest) e = e.registers id routine ++
      registersAll id rest (answer (Engine.addRoutine id routine) e).2 := rfl
    rw [all, List.map_append, ← List.append_assoc, addRoutines_cons]
    exact ih ready first

theorem wrapRoutine (h : Ready registry e) (shelf : (e.scene registry).Shelf done)
    (id : ProfilerId) (routine : RoutineId) :
    ((answer (Engine.wrapRoutine id routine) e).2.scene registry).Shelf
      (done ++ (e.registers id routine).map Prod.snd) := by
  have added := (shelf.addRoutine h id routine).1
  rw [answer_wrapRoutine]
  rcases run : answer (Engine.addRoutine id routine) e with ⟨o, e'⟩
  rw [run] at added
  cases o with
  | error error => exact added
  | ok added' => exact added.same rfl rfl rfl

end Scene.Shelf

end LineClock

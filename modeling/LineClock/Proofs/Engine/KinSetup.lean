import LineClock.Proofs.Engine.Adding
import LineClock.Proofs.Engine.Kin

/-!
# Setting up kin

Whatever leaves listening alone, as defining routines, making profilers and watching code does, does
the same to scenes that a profiler cannot tell apart, and they stay so. Blocks on both sides may call
kin.

Main statements: `Coupled.addRoutine`, `Scene.Level.newRoutine` and `Scene.Level.newWrapper`.
-/

namespace LineClock

open Machine Engine

variable {p : ProfilerId} {table : Assoc RoutineId Routine} {s t : Scene} {b c : Block}

/-! ## Blocks -/

/-- Callees have no part in what a registry makes of a block. -/
theorem Padding.accept_relink (padding : Padding) (b : Block) (callees : List RoutineId) (id : BlockId) :
    padding.accept (b.relink callees) id =
      ((padding.accept b id).1.relink callees, (padding.accept b id).2) := by
  have place : padding.place (b.relink callees) id =
      ((padding.place b id).1.relink callees, (padding.place b id).2) := by
    have stripped : (b.relink callees).strippedBytes = b.strippedBytes := rfl
    have native : (b.relink callees).native = b.native := rfl
    have own : (b.relink callees).padding = b.padding := rfl
    unfold Padding.place
    rw [stripped, native, own]
    split
    · rfl
    · simp only
      split <;> rfl
  have same : (b.relink callees).id = b.id := rfl
  unfold Padding.accept
  rw [same, place]
  split <;> rfl

theorem Padding.callees_accept (padding : Padding) (b : Block) (id : BlockId) :
    (padding.accept b id).1.callees = b.callees := by
  have place : (padding.place b id).1.callees = b.callees := by
    unfold Padding.place
    split
    · rfl
    · simp only
      split <;> rfl
  unfold Padding.accept
  split
  · rfl
  · exact place

/-! ## Scenes -/

namespace Scene

/-- A profiler is exchanged. -/
def exchange (s : Scene) (id : ProfilerId) (x : Profiler) : Scene :=
  { s with profilers := s.profilers.modify id fun _ => x }

theorem exchange_bare (s : Scene) (id : ProfilerId) (x : Profiler) :
    (s.exchange id x).bare = s.bare.exchange id x.bare := by
  unfold exchange Assoc.modify
  rw [get?_bare]
  cases s.profilers.get? id with
  | none => rfl
  | some q => exact s.bare_setProfiler id x

/-- A profiler that is changed is exchanged for what it was changed to. -/
theorem modify_eq (s : Scene) (id : ProfilerId) (f : Profiler → Profiler) :
    ({ s with profilers := s.profilers.modify id f } : Scene) = s.exchange id (f (s.profiler id)) := by
  unfold exchange Assoc.modify profiler Assoc.getD
  cases s.profilers.get? id <;> rfl

theorem exchange_profiler (s : Scene) (id : ProfilerId) (x : Profiler) (q : ProfilerId) :
    (s.exchange id x).profiler q =
      if id = q ∧ (s.profilers.get? id).isSome then x else s.profiler q := by
  unfold exchange profiler
  simp only [Assoc.getD_modify]

namespace Kin

variable (h : Kin p s t)

include h

/-- Profilers are the same but for what they recorded. -/
theorem watching (id : ProfilerId) : (s.profiler id).bare = (t.profiler id).bare := by
  have shown : ∀ s : Scene, s.outline.profiler id = (s.profiler id).bare :=
    fun s => s.profiler_bare id
  rw [← shown, ← shown, h.outline]

theorem present (id : ProfilerId) : (s.profilers.get? id).isSome = (t.profilers.get? id).isSome := by
  refine h.shown (fun s => (s.profilers.get? id).isSome) fun s => ?_
  exact (congrArg Option.isSome (s.get?_bare id)).trans Option.isSome_map

/-- How many profilers there are. -/
theorem many : s.profilers.entries.length = t.profilers.entries.length :=
  h.shown (fun s => s.profilers.entries.length) fun _ => List.length_map _

/-- A profiler is exchanged on both sides. -/
theorem exchange (id : ProfilerId) {x y : Profiler} (same : x.bare = y.bare)
    (own : id = p → x = y) : Kin p (s.exchange id x) (t.exchange id y) := by
  have outline : ∀ (s : Scene) x, (s.exchange id x).outline = s.outline.exchange id x.bare := by
    intro s x
    unfold Scene.outline
    rw [exchange_bare]
    rfl
  refine { h with outline := ?_, own := ?_ }
  · rw [outline, outline, h.outline, same]
  · rw [exchange_profiler, exchange_profiler, h.present, h.own]
    split
    · rename_i this
      exact own this.1
    · rfl

/-- The code of a routine is replaced by kin. -/
theorem replaceCode (routine : RoutineId) (kin : Block.Kin p s.routines b c) :
    Kin p { s with code := s.code.set (s.routine routine).slot b }
      { t with code := t.code.set (t.routine routine).slot c } := by
  refine { h with outline := h.outline, code := fun slot => ?_ }
  rw [← h.routine]
  simp only [Assoc.getD_set]
  split
  · exact kin
  · exact h.code slot

/-- A profiler is made on both sides. -/
theorem newProfiler (x : Profiler) :
    Kin p { s with profilers := s.profilers.set s.profilers.entries.length x }
      { t with profilers := t.profilers.set t.profilers.entries.length x } := by
  have outline : ∀ (s : Scene) (id : ProfilerId),
      ({ s with profilers := s.profilers.set id x } : Scene).outline =
        { s.outline with profilers := s.outline.profilers.set id x.bare } := by
    intro s id
    unfold Scene.outline
    rw [bare_setProfiler]
  refine { h with outline := ?_, own := ?_ }
  · rw [outline, outline, h.outline, h.many]
  · have own := h.own
    unfold Scene.profiler at own ⊢
    simp only [Assoc.getD_set, h.many, own]

end Kin

namespace Level

variable (h : Level p table s t)

include h

/-- The number of the next routine is not taken. -/
theorem next_free : s.routines.get? s.routines.entries.length = none := by
  rw [Assoc.get?_eq_none_iff, h.kin.numbered, List.mem_range]
  exact Nat.lt_irrefl _

/-- A routine is made on both sides, of which the code is given. -/
theorem addRoutine (r : Routine) (code code' : Assoc RoutineId Block)
    (kin : ∀ slot, Block.Kin p table (code.getD slot default) (code'.getD slot default)) :
    ∃ table', Grows table table' ∧
      Level p table' { s with routines := s.routines.set s.routines.entries.length r, code }
        { t with routines := t.routines.set t.routines.entries.length r, code := code' } := by
  have routines := h.kin.routines
  have next := h.next_free
  have grows : Grows s.routines (s.routines.set s.routines.entries.length r) := by
    intro id x found
    rw [Assoc.get?_set]
    split
    · rename_i same
      rw [← same, next] at found
      cases found
    · exact found
  refine ⟨s.routines.set s.routines.entries.length r, h.table ▸ grows, ?_, h.here, rfl⟩
  have keys := Assoc.keys_set_of_get?_none next r
  have length : (s.routines.set s.routines.entries.length r).entries.length =
      s.routines.entries.length + 1 := by
    have counted := congrArg List.length keys
    unfold Assoc.keys at counted
    simpa using counted
  rw [← routines]
  refine { h.kin with outline := ?_, code := fun slot => ?_, numbered := ?_ }
  · exact congrArg (fun u : Scene =>
      { u with routines := s.routines.set s.routines.entries.length r }) h.kin.outline
  · exact (kin slot).mono (h.table ▸ grows)
  · rw [keys, length, h.kin.numbered, List.range_succ]

/-- A routine is made of kin. -/
theorem newRoutine (kin : Block.Kin p table b c) :
    ∃ table', Grows table table' ∧
      Level p table'
        { s with
          routines := s.routines.set s.routines.entries.length { slot := s.routines.entries.length }
          code := s.code.set s.routines.entries.length b }
        { t with
          routines := t.routines.set t.routines.entries.length { slot := t.routines.entries.length }
          code := t.code.set t.routines.entries.length c } := by
  rw [← h.kin.routines]
  have both := h.addRoutine { slot := s.routines.entries.length }
    (s.code.set s.routines.entries.length b) (t.code.set s.routines.entries.length c) fun slot => ?_
  · rw [← h.kin.routines] at both
    exact both
  · rw [Assoc.getD_set, Assoc.getD_set]
    split
    · exact kin
    · exact h.table ▸ h.kin.code slot

/-- A wrapper is made on both sides. -/
theorem newWrapper (inner : RoutineId) (scope : Scope) :
    let wrapper (s : Scene) : Routine :=
      { slot := (s.routine inner).slot, scope := some scope, wrapped := some inner }
    ∃ table', Grows table table' ∧
      Level p table'
        { s with routines := s.routines.set s.routines.entries.length (wrapper s) }
        { t with routines := t.routines.set t.routines.entries.length (wrapper t) } := by
  simp only
  rw [← h.kin.routine]
  exact h.addRoutine _ s.code t.code fun slot => h.table ▸ h.kin.code slot

end Level

end Scene

/-! ## Operations -/

/-- Operations that do to scenes what a profiler cannot tell apart, with results that belong
together. -/
def Coupled {α β : Type} (registry : RegistryId) (p : ProfilerId) (table : Assoc RoutineId Routine)
    (Q : α → β → Prop) (m : StateM Engine α) (m' : StateM Engine β) : Prop :=
  ∀ e d, Ready registry e → Ready registry d → (e.scene registry).Level p table (d.scene registry) →
    Q (m.run e).1 (m'.run d).1 ∧
      ((m.run e).2.scene registry).Level p table ((m'.run d).2.scene registry)

namespace Coupled

variable {registry : RegistryId} {α β γ δ ε : Type} {Q : α → β → Prop} {R : γ → δ → Prop}

theorem pure {a : α} {a' : β} (same : Q a a') :
    Coupled registry p table Q (pure a : StateM Engine α) (pure a' : StateM Engine β) :=
  fun _ _ _ _ level => ⟨same, level⟩

theorem bind {m : StateM Engine α} {m' : StateM Engine β} {f : α → StateM Engine γ}
    {g : β → StateM Engine δ} (hm : Coupled registry p table Q m m') (setup : Setup registry m)
    (setup' : Setup registry m') (hf : ∀ a a', Q a a' → Coupled registry p table R (f a) (g a')) :
    Coupled registry p table R (m >>= f) (m' >>= g) := by
  intro e d he hd level
  obtain ⟨same, level'⟩ := hm e d he hd level
  exact hf _ _ same _ _ (setup.ready he) (setup'.ready hd) level'

theorem reading {f : Engine → StateM Engine α} {g : Engine → StateM Engine β}
    (h : ∀ e d, Ready registry e → Ready registry d →
      (e.scene registry).Level p table (d.scene registry) → Coupled registry p table Q (f e) (g d)) :
    Coupled registry p table Q (get >>= f) (get >>= g) :=
  fun e d he hd level => h e d he hd level e d he hd level

/-- Two operations with the same result, the second of which is left out if the first fails. -/
theorem tryBind {x x' : ExceptT ε (StateM Engine) α} {f f' : α → ExceptT ε (StateM Engine) γ}
    (hx : Coupled registry p table (· = ·) x.run x'.run) (setup : Setup registry x.run)
    (setup' : Setup registry x'.run) (hf : ∀ a, Coupled registry p table (· = ·) (f a).run (f' a).run) :
    Coupled registry p table (· = ·) (x >>= f).run (x' >>= f').run := by
  have run : ∀ (x : ExceptT ε (StateM Engine) α) (f : α → ExceptT ε (StateM Engine) γ),
    (x >>= f).run = x.run >>= ExceptT.bindCont f := fun _ _ => rfl
  rw [run, run]
  refine bind hx setup setup' fun o o' same => ?_
  cases same
  cases o with
  | ok a => exact hf a
  | error e => exact pure rfl

/-- An operation that cannot fail, before what may fail. -/
theorem tryLift {m : StateM Engine α} {m' : StateM Engine β} {f : α → ExceptT ε (StateM Engine) γ}
    {f' : β → ExceptT ε (StateM Engine) γ} (hm : Coupled registry p table Q m m')
    (setup : Setup registry m) (setup' : Setup registry m')
    (hf : ∀ a a', Q a a' → Coupled registry p table (· = ·) (f a).run (f' a').run) :
    Coupled registry p table (· = ·) ((liftM m : ExceptT ε (StateM Engine) α) >>= f).run
      ((liftM m' : ExceptT ε (StateM Engine) β) >>= f').run :=
  bind (f := fun a => (f a).run) (g := fun a => (f' a).run) hm setup setup' hf

/-- Reading something before what may fail. -/
theorem tryReading {f f' : Engine → ExceptT ε (StateM Engine) α}
    (h : ∀ e d, Ready registry e → Ready registry d →
      (e.scene registry).Level p table (d.scene registry) →
        Coupled registry p table (· = ·) (f e).run (f' d).run) :
    Coupled registry p table (· = ·) (get >>= f).run (get >>= f').run :=
  reading (f := fun e => (f e).run) (g := fun e => (f' e).run) h

/-- A change of profilers and what lies around them. -/
theorem change {m : StateM Engine α} {m' : StateM Engine α} (result : Scene → α)
    (next next' : Scene → Scene)
    (left : ∀ e, Ready registry e → (m.run e).1 = result (e.scene registry) ∧
      (m.run e).2.scene registry = next (e.scene registry))
    (right : ∀ e, Ready registry e → (m'.run e).1 = result (e.scene registry) ∧
      (m'.run e).2.scene registry = next' (e.scene registry))
    (level : ∀ s t : Scene, s.Level p table t →
      result s = result t ∧ (next s).Level p table (next' t)) :
    Coupled registry p table (· = ·) m m' := by
  intro e d he hd both
  obtain ⟨same, level'⟩ := level _ _ both
  rw [(left e he).1, (left e he).2, (right d hd).1, (right d hd).2]
  exact ⟨same, level'⟩

theorem newBlock : Coupled registry p table (· = ·) newBlock newBlock :=
  change (fun s => s.blocks) (fun s => { s with blocks := s.blocks + 1 })
    (fun s => { s with blocks := s.blocks + 1 }) (fun _ _ => ⟨rfl, rfl⟩) (fun _ _ => ⟨rfl, rfl⟩)
    fun _ _ h => by
      have outline := congrArg (fun s : Scene => { s with blocks := s.blocks + 1 }) h.kin.outline
      exact ⟨h.kin.shown (fun s => s.blocks) fun _ => rfl, { h.kin with outline }, h.here, h.table⟩

theorem spend (ticks : Counter) : Coupled registry p table (· = ·)
    (modify fun e : Engine => { e with clock := e.clock.satAdd ticks })
    (modify fun e : Engine => { e with clock := e.clock.satAdd ticks }) :=
  change (fun _ => ()) (fun s => s.spend ticks) (fun s => s.spend ticks)
    (fun e _ => ⟨rfl, scene_withClock registry e (e.clock.satAdd ticks)⟩)
    (fun e _ => ⟨rfl, scene_withClock registry e (e.clock.satAdd ticks)⟩) fun _ _ h => ⟨rfl, h.spend ticks⟩

theorem write (path : String) (bytes : Bytes) : Coupled registry p table (· = ·)
    (modify fun e : Engine => match e.files.write path bytes with
      | .ok files => { e with files }
      | .error _ => e)
    (modify fun e : Engine => match e.files.write path bytes with
      | .ok files => { e with files }
      | .error _ => e) := by
  have written : (fun e : Engine => match e.files.write path bytes with
      | .ok files => { e with files }
      | .error _ => e) =
        fun e => { e with files := ((e.files.write path bytes).toOption).getD e.files } := by
    funext e
    cases e.files.write path bytes <;> rfl
  rw [written]
  let next (s : Scene) : Scene :=
    { s with files := ((s.files.write path bytes).toOption).getD s.files }
  refine change (fun _ => ()) next next (fun _ _ => ⟨rfl, rfl⟩) (fun _ _ => ⟨rfl, rfl⟩) fun _ _ h => ?_
  exact ⟨rfl, { h.kin with outline := congrArg next h.kin.outline }, h.here, h.table⟩

theorem newProfiler (wrap : Option Bool) (clock : Timepiece) (sources : Sources) :
    Coupled registry p table (· = ·) (newProfiler registry wrap clock sources)
      (newProfiler registry wrap clock sources) := by
  let made (s : Scene) : Profiler := { registry, wrap := wrap.getD s.wrap, clock, sources }
  let next (s : Scene) : Scene :=
    { s with profilers := s.profilers.set s.profilers.entries.length (made s) }
  refine change (fun s => s.profilers.entries.length) next next (fun _ _ => ⟨rfl, rfl⟩)
    (fun _ _ => ⟨rfl, rfl⟩) fun s t h => ⟨h.kin.many, ?_, h.here, h.table⟩
  have same : made s = made t := h.kin.shown made fun _ => rfl
  change Scene.Kin p _ { t with profilers := t.profilers.set t.profilers.entries.length (made t) }
  rw [← same]
  exact h.kin.newProfiler (made s)

theorem replaceCode (routine : RoutineId) (kin : Block.Kin p table b c) :
    Coupled registry p table (· = ·) (modify fun e => e.replaceCode routine b : StateM Engine PUnit)
      (modify fun e => e.replaceCode routine c) :=
  change (fun _ => ()) (fun s => { s with code := s.code.set (s.routine routine).slot b })
    (fun s => { s with code := s.code.set (s.routine routine).slot c }) (fun _ _ => ⟨rfl, rfl⟩)
    (fun _ _ => ⟨rfl, rfl⟩)
    fun _ _ h => ⟨rfl, h.kin.replaceCode routine (h.table ▸ kin), h.here, h.table⟩

theorem withPadding (padding : Padding) : Coupled registry p table (· = ·)
    (modifyRegistry registry fun r => { r with padding })
    (modifyRegistry registry fun r => { r with padding }) :=
  change (fun _ => ()) (fun s => { s with padding }) (fun s => { s with padding })
    (fun _ h => ⟨rfl, Setup.scene_padding h padding⟩) (fun _ h => ⟨rfl, Setup.scene_padding h padding⟩)
    fun _ _ h => by
      have outline := congrArg (fun s : Scene => { s with padding }) h.kin.outline
      exact ⟨rfl, { h.kin with outline }, h.here, h.table⟩

/-- A profiler takes note of a routine. -/
theorem note (id : ProfilerId) (routine : RoutineId) : Coupled registry p table (· = ·)
    (modifyProfiler id fun p => p.addRoutine routine)
    (modifyProfiler id fun p => p.addRoutine routine) := by
  have noted : ∀ x : Profiler, (x.addRoutine routine).bare = (x.bare.addRoutine routine).bare := by
    intro x
    rw [Profiler.addRoutine_eq, Profiler.addRoutine_eq]
    rfl
  refine change (fun _ => ()) (fun s => s.exchange id ((s.profiler id).addRoutine routine))
    (fun s => s.exchange id ((s.profiler id).addRoutine routine))
    (fun e _ => ⟨rfl, (e.scene registry).modify_eq id (·.addRoutine routine)⟩)
    (fun e _ => ⟨rfl, (e.scene registry).modify_eq id (·.addRoutine routine)⟩)
    fun s t h => ⟨rfl, h.kin.exchange id ?_ fun this => ?_, h.here, h.table⟩
  · rw [noted (s.profiler id), noted (t.profiler id), h.kin.watching]
  · rw [this, h.kin.own]

/-! ### Watching -/

theorem watch (id : ProfilerId) (kin : Block.Kin p table b c) :
    Coupled registry p table (· = ·) (watch id b).run (Engine.watch id c).run := by
  obtain ⟨callees, -, rfl⟩ := kin
  have linked : ∀ files, Profiler.watch files (b.relink callees) = Profiler.watch files b :=
    fun _ => rfl
  refine change (fun s => (answer (Profiler.watch s.files b) (s.profiler id)).1)
    (fun s => s.exchange id (answer (Profiler.watch s.files b) (s.profiler id)).2)
    (fun s => s.exchange id (answer (Profiler.watch s.files b) (s.profiler id)).2)
    (fun _ _ => ⟨rfl, rfl⟩) (fun _ _ => ⟨rfl, rfl⟩) fun s t h => ?_
  have files : s.files = t.files := h.kin.shown (fun s => s.files) fun _ => rfl
  obtain ⟨result, after⟩ := Profiler.watch_bare t.files b (s.profiler id)
  obtain ⟨result', after'⟩ := Profiler.watch_bare t.files b (t.profiler id)
  rw [h.kin.watching] at result after
  rw [files]
  refine ⟨result.symm.trans result', h.kin.exchange id (after.symm.trans after') fun this => ?_,
    h.here, h.table⟩
  rw [this, h.kin.own]

theorem tellAll (kin : Block.Kin p table b c) (others : List ProfilerId) :
    Coupled registry p table (· = ·) (tellAll b others) (Engine.tellAll c others) := by
  induction others with
  | nil => exact pure rfl
  | cons other rest ih =>
    have tell : Coupled registry p table (· = ·) (Functor.discard (Engine.watch other b).run)
        (Functor.discard (Engine.watch other c).run) :=
      bind (watch other kin) (Setup.watch other b) (Setup.watch other c) fun _ _ _ => pure rfl
    exact bind tell (Setup.watch other b).discard (Setup.watch other c).discard fun _ _ _ => ih

theorem prepare (routine : RoutineId) (id : ProfilerId) :
    Coupled registry p table (Block.Kin p table) (prepare registry routine id)
      (Engine.prepare registry routine id) := by
  unfold Engine.prepare
  refine reading fun e d he hd level => ?_
  have kin : Block.Kin p table (e.codeOf routine) (d.codeOf routine) :=
    level.table ▸ level.kin.codeOf (.inl rfl)
  generalize e.codeOf routine = before at kin ⊢
  generalize d.codeOf routine = before' at kin ⊢
  obtain ⟨callees, calls, rfl⟩ := kin
  refine bind newBlock Setup.newBlock Setup.newBlock fun copy _ same => ?_
  subst same
  refine reading fun e d he hd level => ?_
  have padding : (e.registry registry).padding = (d.registry registry).padding :=
    level.kin.shown (fun s => s.padding) fun _ => rfl
  rw [padding, Padding.accept_relink]
  have linked := (d.registry registry).padding.callees_accept before copy
  generalize (d.registry registry).padding.accept before copy = accepted at linked ⊢
  obtain ⟨block, padding⟩ := accepted
  have same : (before.relink callees).id = before.id := rfl
  have same' : (block.relink callees).id = block.id := rfl
  have kin : Block.Kin p table block (block.relink callees) := ⟨callees, linked ▸ calls, rfl⟩
  simp only [same, same']
  generalize padding.enrol routine before.id block.id id = enrolled
  obtain ⟨others, padding⟩ := enrolled
  simp only
  refine bind (withPadding _) (Setup.withPadding _) (Setup.withPadding _) fun _ _ _ => ?_
  have follow : Coupled registry p table (Block.Kin p table)
      (do Engine.tellAll block others; return block)
      (do Engine.tellAll (block.relink callees) others; return block.relink callees) :=
    bind (tellAll kin others) (Setup.all (fun other => (Setup.watch other block).discard) others)
      (Setup.all (fun other => (Setup.watch other _).discard) others) fun _ _ _ => pure kin
  split
  · exact bind (replaceCode routine kin) (Setup.replaceCode routine _) (Setup.replaceCode routine _)
      fun _ _ _ => follow
  · exact follow

/-! ### Adding -/

theorem addRoutine (id : ProfilerId) (routine : RoutineId) : Coupled registry p table (· = ·)
    (addRoutine id routine).run (Engine.addRoutine id routine).run := by
  unfold Engine.addRoutine
  refine tryReading fun e d he hd level => ?_
  have refusal : Profiler.refusal? (e.codeOf routine) = Profiler.refusal? (d.codeOf routine) := by
    obtain ⟨callees, -, code⟩ : Block.Kin p table (e.codeOf routine) (d.codeOf routine) :=
      level.table ▸ level.kin.codeOf (.inl rfl)
    rw [code]
    rfl
  rw [refusal]
  cases Profiler.refusal? (d.codeOf routine) with
  | some e => exact pure rfl
  | none =>
    refine tryReading fun e d he hd level => ?_
    have own : (e.profiler id).registry = registry := he.sole.profilers id
    have own' : (d.profiler id).registry = registry := hd.sole.profilers id
    rw [own, own']
    refine tryLift (prepare routine id) (Setup.prepare routine id) (Setup.prepare routine id)
      fun block block' kin => ?_
    refine tryBind (watch id kin) (Setup.watch id block) (Setup.watch id block') fun added => ?_
    refine tryLift (note id routine) (Setup.note id routine) (Setup.note id routine) fun _ _ _ => ?_
    exact pure rfl

theorem addRoutines (id : ProfilerId) (routines : List RoutineId) : Coupled registry p table (· = ·)
    (addRoutines id routines) (Engine.addRoutines id routines) := by
  unfold Engine.addRoutines
  generalize 0 = n
  induction routines generalizing n with
  | nil => exact pure rfl
  | cons routine rest ih =>
    rw [List.foldlM_cons]
    have one : Setup registry _ := Setup.addOne id n routine
    refine bind (Q := (· = ·)) ?_ one one fun n n' same => ?_
    · refine bind (addRoutine id routine) (Setup.addRoutine id routine) (Setup.addRoutine id routine)
        fun o o' same => ?_
      cases same
      split <;> exact pure rfl
    · cases same
      exact ih n

end Coupled

end LineClock

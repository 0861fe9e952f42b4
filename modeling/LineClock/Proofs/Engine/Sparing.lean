import LineClock.Engine.Watch
import LineClock.Proofs.Engine.Idling
import LineClock.Proofs.Engine.Recording
import LineClock.Proofs.Engine.ToolShare
import LineClock.Proofs.Profiler.Tally

/-!
# What one profiler notices

All that is done to an engine either `Spares` a profiler, so that its tally shows the same as before,
or `Records` for it on the running thread, which happens only while it is on there, at one moment and
without anybody being switched on or off.

That this is so is read off the few actions of which all is made that the engine does. A relation
between an engine and what it becomes `Enlists` routines if it holds of those that make or change a
profiler: a new profiler, a block that is watched, a routine that is added. It `Admits` what is done
with profilers if it holds where profilers stay as they are, too. It `Notes` what is recorded if it
holds of what listening is made of, and when a line, an exit or a lost thread is recorded.

Main statements: `Spares.admits` and `Records.notes`, by way of `Enlists.addRoutine`, `Admits.enable`,
`Admits.lower`, `Notes.takeTrace`, `Notes.absorbTrace`, `Notes.takeEvent` and `Notes.absorbEvent`.
-/

namespace LineClock

open Machine

namespace Engine

section

variable {R : Engine → Engine → Prop}

/-! ## How routines get to profilers -/

/-- A relation that holds of whatever gets routines to profilers. -/
structure Enlists (R : Engine → Engine → Prop) : Prop where
  aside : ∀ {e e' : Engine}, e'.profilers = e.profilers → e'.facility = e.facility →
    (∀ registry, e'.share registry = e.share registry) → R e e'
  newProfiler : ∀ registry wrap clock sources, Leads R (newProfiler registry wrap clock sources)
  watch : ∀ q block, Leads R (watch q block).run
  enlist : ∀ q routine, Leads R (modifyProfiler q fun p => p.addRoutine routine)

namespace Enlists

variable (h : Enlists R)

include h

theorem same {e e' : Engine} (profilers : e'.profilers = e.profilers)
    (facility : e'.facility = e.facility) (registries : e'.registries = e.registries) : R e e' := by
  exact h.aside profilers facility (share_congr registries)

theorem newBlock : Leads R newBlock := fun _ => h.same rfl rfl rfl

theorem newRoutine (block : Block) : Leads R (newRoutine block) := fun _ => h.same rfl rfl rfl

theorem replaceCode (routine : RoutineId) (block : Block) :
    Leads R (modify fun e => e.replaceCode routine block) := fun _ => h.same rfl rfl rfl

theorem newWrapper (inner : RoutineId) (scope : Scope) : Leads R (newWrapper inner scope) :=
  fun _ => h.same rfl rfl rfl

theorem repad (registry : RegistryId) (padding : Padding) :
    Leads R (modifyRegistry registry fun r => { r with padding }) := by
  refine fun e => h.aside rfl rfl fun registry' => ?_
  show ((e.registries.modify registry fun r => { r with padding }).getD registry' default).share = _
  rw [Assoc.getD_modify]
  split <;> rfl

variable [IsPreorder Engine R]

theorem prepare (registry : RegistryId) (routine : RoutineId) (q : ProfilerId) :
    Leads R (prepare registry routine q) := by
  have follow : ∀ (others : List ProfilerId) (block : Block), Leads R (do
      others.forM fun other => discard <| (Engine.watch other block).run
      return block) := fun others block =>
    Leads.bind (Leads.forM (fun other => (h.watch other block).bind fun _ => Leads.pure _) others)
      fun _ => Leads.pure _
  refine Leads.get.bind fun _ => h.newBlock.bind fun _ => Leads.get.bind fun _ => ?_
  refine Leads.bind (h.repad registry _) fun _ => ?_
  exact Leads.ite ((h.replaceCode routine _).bind fun _ => follow _ _) (follow _ _)

theorem addRoutine (q : ProfilerId) (routine : RoutineId) :
    Leads R (addRoutine q routine).run := by
  refine Leads.tryGet.tryBind fun e => ?_
  split
  · exact Leads.throw _
  · refine Leads.tryGet.tryBind fun e => (h.prepare _ _ _).lift.tryBind fun block =>
      (h.watch q block).tryBind fun added => (h.enlist q routine).lift.tryBind fun _ =>
        Leads.tryPure _

theorem addRoutines (q : ProfilerId) (routines : List RoutineId) :
    Leads R (addRoutines q routines) := by
  refine Leads.foldlM (fun n routine => (h.addRoutine q routine).bind fun added => ?_) routines 0
  split
  · exact Leads.pure _
  · exact Leads.pure _

theorem wrapRoutine (q : ProfilerId) (routine : RoutineId) :
    Leads R (wrapRoutine q routine).run :=
  (h.addRoutine q routine).discard.tryBind fun _ => Leads.tryGet.tryBind fun _ => (h.newWrapper _ _).lift

end Enlists

/-! ## What is done with profilers -/

/-- A relation that holds of whatever is done with profilers. -/
structure Admits (R : Engine → Engine → Prop) : Prop where
  same : ∀ {e e' : Engine}, e'.profilers = e.profilers → R e e'
  newProfiler : ∀ registry wrap clock sources, Leads R (newProfiler registry wrap clock sources)
  watch : ∀ q block, Leads R (watch q block).run
  enlist : ∀ q routine, Leads R (modifyProfiler q fun p => p.addRoutine routine)

namespace Admits

variable (h : Admits R)

include h

theorem enlists : Enlists R := ⟨fun same _ _ => h.same same, h.newProfiler, h.watch, h.enlist⟩

theorem listens {α : Type} {act : StateM Engine α} (idles : Leads Idles act) : Leads R act :=
  idles.mono fun _ _ idle => h.same idle.profilers

theorem modifyDispatch (registry : RegistryId) (f : Dispatch → Dispatch) :
    Leads R (modifyDispatch registry f) := fun _ => h.same rfl

theorem setTraceHook (hook : Option TraceHook) : Leads R (setTraceHook hook) :=
  h.listens (Idles.asides.setTraceHook hook)

variable [IsPreorder Engine R]

theorem enable (registry : RegistryId) (q : ProfilerId) : Leads R (enable registry q).run :=
  Leads.enable (h.modifyDispatch registry) (h.listens (Idles.listens.activate registry)) q

theorem deactivate (registry : RegistryId) : Leads R (deactivate registry).run :=
  Leads.deactivate (h.modifyDispatch registry) h.setTraceHook
    (h.listens (Idles.handles.deactivateTool registry))

theorem lower (registry : RegistryId) (q : ProfilerId) (left : Nat → Nat) :
    Leads R (lower registry q left).run :=
  Leads.lower (h.modifyDispatch registry) (h.deactivate registry) q left

theorem forget (registry : RegistryId) : Leads R (forget registry) :=
  Leads.forget (fun _ _ => h.same rfl) (h.deactivate registry)

theorem endThread : Leads R endThread := Leads.endThread h.forget (h.setTraceHook none)

end Admits

/-! ## What is recorded -/

/-- A relation that holds of whatever is recorded. -/
structure Notes (R : Engine → Engine → Prop) : Prop where
  listens : Listens R
  recordLine : ∀ registry block line, Leads R (recordLine registry block line)
  recordExit : ∀ registry block, Leads R (recordExit registry block)
  forgetPending : ∀ registry, Leads R (forgetPending registry)

namespace Notes

variable (h : Notes R)

include h

variable [IsPreorder Engine R]

theorem recordTrace (registry : RegistryId) (frame : Frame) (event : TraceEvent) :
    Leads R (recordTrace registry frame event) := by
  cases event with
  | line => exact h.recordLine registry _ _
  | ret => exact h.recordExit registry _
  | call | exception => exact Leads.pure _

theorem recordEvent (registry : RegistryId) (event : MonitorEvent) :
    Leads R (recordEvent registry event) := by
  obtain ⟨kind, block, offset, line⟩ := event
  cases kind with
  | line => exact h.recordLine registry _ _
  | ret | yield | unwind => exact h.recordExit registry _
  | start | raise | reraise => exact Leads.pure _

theorem takeTrace (registry : RegistryId) (frame : Frame) (event : TraceEvent) :
    Leads R (takeTrace registry frame event) := by
  refine Leads.get.bind fun e => Leads.ite (Leads.pure _) ?_
  refine (h.recordTrace registry frame event).bind fun _ =>
    (h.listens.muted registry frame event).bind fun muted => Leads.get.bind fun e =>
      Leads.ite (Leads.pure _) ?_
  cases (e.dispatchOf registry).wrapped with
  | none => exact Leads.pure _
  | some wrapped =>
    exact Leads.bind (h.listens.dispatch registry _ fun _ => rfl) fun _ => Leads.pure _

theorem absorbTrace (registry : RegistryId) (frame : Frame) (out : Except HookError Bool) :
    Leads R (absorbTrace registry frame out).run := by
  refine Leads.tryBind (Leads.lift (h.listens.dispatch registry _ fun _ => rfl)) fun _ =>
    Leads.tryGet.tryBind fun e => ?_
  dsimp only
  split
  · rename_i ours _ _
    have mutes : Leads R (Engine.modifyDispatch registry fun d => d.mute frame.id) := by
      refine h.listens.dispatch registry _ fun d => ?_
      unfold Dispatch.mute
      split <;> rfl
    have answers : ∀ linesOn : Bool, Leads R (do
        unless linesOn do
          Engine.modifyDispatch registry fun d => d.mute frame.id
        return true : ExceptT HookError (StateM Engine) Bool).run := by
      intro linesOn
      cases linesOn
      · exact mutes.lift.tryBind fun _ => Leads.tryPure _
      · exact Leads.tryPure _
    split
    · exact (h.listens.adopt registry none).lift.tryBind fun _ =>
        (h.forgetPending registry).lift.tryBind fun _ => Leads.throw _
    · rename_i linesOn
      split
      · exact answers linesOn
      · exact (h.listens.adopt registry _).lift.tryBind fun _ =>
          (h.listens.aside.setTraceHook _).lift.tryBind fun _ => answers linesOn
  · cases out with
    | ok on => exact Leads.tryPure on
    | error err => exact Leads.throw err

theorem takeEvent (registry : RegistryId) (event : MonitorEvent) :
    Leads R (takeEvent registry event) := by
  refine Leads.get.bind fun e => Leads.ite (Leads.pure _) ?_
  refine (h.recordEvent registry event).bind fun _ => Leads.get.bind fun e => ?_
  refine Leads.ite ((h.listens.wrappedFor registry event).bind fun found => ?_) (Leads.pure _)
  cases found with
  | none => exact Leads.pure _
  | some wrapped =>
    exact Leads.bind (h.listens.dispatch registry _ fun _ => rfl) fun _ => Leads.pure _

theorem absorbEvent (registry : RegistryId) (event : MonitorEvent)
    (out : Except HookError MonitorAction) :
    Leads R (absorbEvent registry event out).run := by
  have done : Leads R (do
      Engine.modifyDispatch registry fun d => { d with busy := false }
      return .goOn : ExceptT HookError (StateM Engine) MonitorAction).run :=
    Leads.tryBind (Leads.lift (h.listens.dispatch registry _ fun _ => rfl)) fun _ => Leads.tryPure _
  refine (h.listens.absorbTool registry).lift.tryBind fun _ => ?_
  cases out with
  | ok action =>
    dsimp only
    split
    · exact Leads.tryBind (Leads.lift (h.listens.note registry (fun s => by split <;> rfl)
        fun s => by split <;> rfl)) fun _ => done
    · exact done
  | error err =>
    exact Leads.tryBind (Leads.lift (h.listens.share registry _ fun _ _ _ => ⟨nofun, id⟩)) fun _ =>
      Leads.tryBind (Leads.lift (h.listens.dispatch registry _ fun _ => rfl)) fun _ =>
        (h.forgetPending registry).lift.tryBind fun _ => Leads.throw _

end Notes

end

/-! ## What shows of a profiler -/

/-- Whether a profiler is on on a thread, for whatever registry. -/
def isOnAt (e : Engine) (th : ThreadKey) (p : ProfilerId) : Bool :=
  e.dispatch.keys.any fun k => k.1 = th && (e.dispatch.getD k {}).isOn p

/-- What the clock of a profiler shows. -/
def timeOf (e : Engine) (p : ProfilerId) : Counter := e.now (e.profiler p)

theorem timeOf_eq {e e' : Engine} {p : ProfilerId} (clock : e'.clock = e.clock)
    (same : (e'.profiler p).clock = (e.profiler p).clock) : e'.timeOf p = e.timeOf p := by
  unfold timeOf now
  rw [same, clock]

/-- The ticks of a line of a block. -/
def ticksOf (e : Engine) (p : ProfilerId) (block : BlockHash) (line : UInt32) : Counter :=
  ((e.profiler p).tally.cell block line).ticks

/-- The running line of a block on a thread. -/
def markOf (e : Engine) (p : ProfilerId) (th : ThreadKey) (block : BlockHash) : Option Mark :=
  (e.profiler p).tally.mark? th block

theorem isOnAt_iff {e : Engine} {th : ThreadKey} {p : ProfilerId} :
    e.isOnAt th p = true ↔ ∃ registry, (e.dispatchAt th registry).isOn p = true := by
  unfold isOnAt
  rw [List.any_eq_true]
  constructor
  · rintro ⟨⟨th', registry⟩, -, on⟩
    rw [Bool.and_eq_true, decide_eq_true_eq] at on
    obtain ⟨rfl, on⟩ := on
    exact ⟨registry, on⟩
  · rintro ⟨registry, on⟩
    refine ⟨(th, registry), ?_, by simpa [dispatchAt] using on⟩
    -- Where nothing is known, nobody is on.
    refine Decidable.byContradiction fun absent => ?_
    unfold dispatchAt Assoc.getD at on
    rw [(Assoc.get?_eq_none_iff _ _).mpr absent] at on
    cases on

theorem isOnAt_of_active {e e' : Engine}
    (active : ∀ th registry, (e'.dispatchAt th registry).active = (e.dispatchAt th registry).active)
    (th : ThreadKey) (p : ProfilerId) : e'.isOnAt th p = e.isOnAt th p := by
  rw [Bool.eq_iff_iff, isOnAt_iff, isOnAt_iff]
  unfold Dispatch.isOn
  simp only [active]

/-! ## What a profiler does not notice -/

/-- A profiler that is known stays known, and its tally shows the same. -/
structure Spares (p : ProfilerId) (e e' : Engine) : Prop where
  known : p < e.profilers.entries.length → p < e'.profilers.entries.length
  tally : p < e.profilers.entries.length → Tally.Same (e.profiler p).tally (e'.profiler p).tally

namespace Spares

variable {p : ProfilerId}

instance : IsPreorder Engine (Spares p) where
  refl _ := ⟨id, fun _ => .refl _⟩
  trans _ _ _ h h' := ⟨fun known => h'.known (h.known known),
    fun known => (h.tally known).trans (h'.tally (h.known known))⟩

theorem of_profilers {e e' : Engine} (profilers : e'.profilers = e.profilers) :
    Spares p e e' := by
  refine ⟨fun known => profilers ▸ known, fun _ => ?_⟩
  rw [profiler_congr profilers]
  exact .refl _

theorem modifyProfiler (q : ProfilerId) {f : Profiler → Profiler}
    (same : ∀ r : Profiler, Tally.Same r.tally (f r).tally) (e : Engine) :
    Spares p e { e with profilers := e.profilers.modify q f } := by
  refine ⟨fun known => ?_, fun _ => ?_⟩
  · show p < (e.profilers.modify q f).entries.length
    rwa [Assoc.length_modify]
  · show Tally.Same (e.profiler p).tally ((e.profilers.modify q f).getD p default).tally
    rw [Assoc.getD_modify]
    split
    · exact same _
    · exact .refl _

theorem newProfiler (registry : RegistryId) (wrap : Option Bool) (clock : Timepiece)
    (sources : Sources) : Leads (Spares p) (newProfiler registry wrap clock sources) := by
  intro e
  -- The new profiler gets the first number that no profiler has yet.
  have other : e.profilers.entries.length = p → ¬ p < e.profilers.entries.length :=
    fun same => same ▸ Nat.lt_irrefl _
  refine ⟨fun known => ?_, fun known => ?_⟩
  · refine Nat.lt_of_lt_of_le known ?_
    show _ ≤ (e.profilers.set _ _).entries.length
    exact Assoc.length_le_set _ _ _
  · rw [profiler_newProfiler, if_neg fun same => other same known]
    exact .refl _

theorem watch (q : ProfilerId) (block : Block) : Leads (Spares p) (watch q block).run := by
  intro e
  have whole := Profiler.watch_enriched e.files block (e.profiler q)
  show Spares p e { e with profilers := e.profilers.modify q fun _ =>
    (answer (Profiler.watch e.files block) (e.profiler q)).2 }
  refine ⟨fun known => ?_, fun _ => ?_⟩
  · show p < (e.profilers.modify q _).entries.length
    rwa [Assoc.length_modify]
  · show Tally.Same (e.profiler p).tally ((e.profilers.modify q _).getD p default).tally
    rw [Assoc.getD_modify]
    split
    · rename_i here
      rw [← here.1]
      exact whole.tally
    · exact .refl _

/-- **What is done with profilers** spares each of them. -/
theorem admits : Admits (Spares p) where
  same := of_profilers
  newProfiler := newProfiler
  watch := watch
  enlist q routine e :=
    modifyProfiler q (fun r => (Profiler.Enriched.addRoutine r routine).tally) e

end Spares

/-! ## What is recorded for a profiler -/

/-- Something is recorded on the running thread at one moment, for a profiler only if it is on there;
nobody is switched on or off. -/
structure Records (p : ProfilerId) (e e' : Engine) : Prop where
  known : p < e.profilers.entries.length → p < e'.profilers.entries.length
  thread : e'.thread = e.thread
  time : e'.timeOf p = e.timeOf p
  on : ∀ th, e'.isOnAt th p = e.isOnAt th p
  settles : Tally.Settles e.thread (e.timeOf p) (e.profiler p).tally (e'.profiler p).tally
  off : e.isOnAt e.thread p = false → e'.profiler p = e.profiler p

namespace Records

variable {p : ProfilerId}

instance : IsPreorder Engine (Records p) where
  refl _ := ⟨id, rfl, rfl, fun _ => rfl, .of_same (.refl _), fun _ => rfl⟩
  trans e e' e'' h h' := by
    refine ⟨fun known => h'.known (h.known known), h'.thread.trans h.thread, h'.time.trans h.time,
      fun th => (h'.on th).trans (h.on th), ?_, fun off => ?_⟩
    · have settles' := h'.settles
      rw [h.thread, h.time] at settles'
      exact h.settles.trans settles'
    · refine (h'.off ?_).trans (h.off off)
      rw [h.thread, h.on]
      exact off

theorem of_idles {e e' : Engine} (h : Idles e e') : Records p e e' := by
  have profiler : e'.profiler p = e.profiler p := by
    unfold Engine.profiler
    rw [h.profilers]
  refine ⟨fun known => h.profilers ▸ known, h.thread, ?_, fun th => isOnAt_of_active h.active th p, ?_,
    fun _ => profiler⟩
  · exact timeOf_eq h.clock (congrArg Profiler.clock profiler)
  · rw [profiler]
    exact .of_same (.refl _)

/-- Telling those who are on of something that happened now. -/
theorem forEachActive (registry : RegistryId) {f : Engine → Profiler → Profiler}
    (clear : ∀ e ps, f (e.withProfilers ps) = f e)
    (clock : ∀ e r, (f e r).clock = r.clock)
    (settles : ∀ e r, Tally.Settles e.thread (e.now r) r.tally (f e r).tally) :
    Leads (Records p) (forEachActive registry f) := by
  intro e
  rw [run_forEachActive registry e f (clear e)]
  -- Telling one profiler after another: each of them is told at the same moment.
  have all : ∀ (on : List (ProfilerId × Nat)) (ps : Assoc ProfilerId Profiler),
      let ps' := on.foldl (fun ps a => ps.modify a.1 (f e)) ps
      ps'.entries.length = ps.entries.length ∧
        (ps'.getD p default).clock = (ps.getD p default).clock ∧
        Tally.Settles e.thread (e.now (ps.getD p default)) (ps.getD p default).tally
          (ps'.getD p default).tally ∧
        (p ∉ on.map Prod.fst → ps'.getD p default = ps.getD p default) := by
    intro on
    induction on with
    | nil => exact fun ps => ⟨rfl, rfl, .of_same (.refl _), fun _ => rfl⟩
    | cons a rest ih =>
      intro ps
      obtain ⟨length, same, told, others⟩ := ih (ps.modify a.1 (f e))
      have one := Assoc.getD_modify ps a.1 p (f e) default
      have same' : ((ps.modify a.1 (f e)).getD p default).clock = (ps.getD p default).clock := by
        rw [one]
        split
        · exact clock e _
        · rfl
      have told' : Tally.Settles e.thread (e.now (ps.getD p default)) (ps.getD p default).tally
          ((ps.modify a.1 (f e)).getD p default).tally := by
        rw [one]
        split
        · exact settles e _
        · exact .of_same (.refl _)
      refine ⟨length.trans (Assoc.length_modify ps _ _), same.trans same', told'.trans ?_,
        fun absent => ?_⟩
      · have time : e.now ((ps.modify a.1 (f e)).getD p default) = e.now (ps.getD p default) := by
          unfold now
          rw [same']
        rw [time] at told
        exact told
      · rw [List.map_cons, List.mem_cons, not_or] at absent
        refine (others absent.2).trans ?_
        rw [one, if_neg fun here => absent.1 here.1.symm]
  obtain ⟨length, same, told, others⟩ := all (e.dispatchOf registry).active e.profilers
  refine ⟨fun known => ?_, rfl, ?_, fun _ => rfl, told, fun off => others fun on => ?_⟩
  · exact length ▸ known
  · exact timeOf_eq rfl same
  · rw [← Bool.not_eq_true, isOnAt_iff] at off
    exact off ⟨registry, (Dispatch.isOn_iff _ p).mpr on⟩

theorem recordLine (registry : RegistryId) (block : BlockHash) (line : UInt32) :
    Leads (Records p) (recordLine registry block line) := by
  refine forEachActive registry (fun _ _ => rfl)
    (fun e r => congrArg (fun q => q.clock) (r.bare_lineStarts _ _ _ _)) fun e r => ?_
  unfold Profiler.lineStarts
  split
  · exact .lineStarts _ _ _ _ _
  · exact .of_same (.refl _)

theorem recordExit (registry : RegistryId) (block : BlockHash) :
    Leads (Records p) (recordExit registry block) := by
  refine forEachActive registry (fun _ _ => rfl)
    (fun e r => congrArg (fun q => q.clock) (r.bare_blockLeft _ _ _)) fun e r => ?_
  unfold Profiler.blockLeft
  split
  · exact .blockLeft _ _ _ _
  · exact .of_same (.refl _)

theorem forgetPending (registry : RegistryId) : Leads (Records p) (forgetPending registry) :=
  forEachActive registry (fun _ _ => rfl) (fun _ _ => rfl) fun _ _ => .forgetThread _ _ _

/-- **What is recorded** is recorded for each profiler that is on. -/
theorem notes : Notes (Records p) where
  listens := Idles.listens.mono fun _ _ => of_idles
  recordLine := recordLine
  recordExit := recordExit
  forgetPending := forgetPending

end Records

end Engine

end LineClock

import LineClock.Proofs.Course.Shadowing

/-!
# Additions that fail

A routine cannot be added to a profiler if it has nothing to run, or if its code is native and the
profiler cannot find the source text. In the first case nothing happens. In the second case the
block was admitted and the profiler enrolled before it turned out, so that the block is known from
then on, and whoever had the routine with another block was told of it.

Main statement: `failed_addition`.
-/

namespace LineClock.Course

open Machine Engine Profiler

variable {e e' : Engine} {done : List Block} {ds : List Deed} {gs : List Registration}
  {p q : ProfilerId} {g routine : RoutineId} {error : ProfilerError}

/-! ## Records -/

/-- Every block with which a routine is enrolled is known. -/
def Vouched (e : Engine) : Prop :=
  ∀ g record, (e.registry registry).padding.enrolled.get? g = some record →
    record.block ∈ (e.registry registry).padding.known

/-- **What is enrolled was admitted**, whatever is done. -/
theorem Handled.vouched (h : Handled done e ds gs e') (given : Ready registry e)
    (vouched : Vouched e) : Vouched e' := by
  have same : ∀ {e e' : Engine}, (e'.registry registry).padding = (e.registry registry).padding →
      Vouched e → Vouched e' := by
    intro e e' padding vouched
    unfold Vouched
    rw [padding]
    exact vouched
  induction h with
  | idle ready code => exact same code.padding vouched
  | profiler | routine | write | wrapper => exact same rfl vouched
  | @add _ e shelf p routine =>
    cases refusal : Profiler.refusal? (e.codeOf routine) with
    | some error =>
      rw [addRoutine_refused refusal]
      exact vouched
    | none =>
      intro g record found
      rw [padding_added given p refusal] at found ⊢
      have known := Padding.mem_known_accept (e.registry registry).padding (e.codeOf routine) e.blocks
      by_cases here : routine = g
      · subst here
        obtain ⟨record', found', block, -⟩ := Padding.get?_enrol ((e.registry registry).padding.accept
          (e.codeOf routine) e.blocks).2 routine (e.codeOf routine).id (e.admits registry routine).id p
        cases found.symm.trans found'
        rw [block]
        exact known
      · rw [Padding.get?_enrol_ne here, Padding.enrolled_accept] at found
        exact Padding.known_accept_of_mem (vouched g record found) _ _
  | trans first later ih ih' => exact ih' (first.ready given) (ih given vouched)

/-! ## What a failure leaves behind -/

/-- Native code is admitted as it is. -/
theorem admits_native (native : (e.codeOf g).native = true) : e.admits registry g = e.codeOf g := by
  unfold admits
  rw [Padding.accept_native native]

/-- What fails without being refused is native. -/
theorem native_of_failed (fit : Profiler.refusal? (e.codeOf g) = none)
    (failed : (answer (addRoutine p g) e).1 = .error error) : (e.codeOf g).native = true := by
  rw [← Bool.not_eq_false]
  intro plain
  obtain ⟨fresh, ok⟩ := add_ok fit plain p
  rw [ok] at failed
  cases failed

/-- The others are told, and then the profiler finds no source text. -/
theorem failed_state (given : Ready registry e) (fit : Profiler.refusal? (e.codeOf g) = none)
    (failed : (answer (addRoutine p g) e).1 = .error error) :
    ∃ e₁ : Engine, e₁.profilers = e.profilers ∧ e₁.files = e.files ∧
      let e₂ := ((tellAll (e.codeOf g) (e.told registry g p)).run e₁).2
      (answer (watch p (e.codeOf g)) e₂).1 = .error error ∧
        (answer (addRoutine p g) e).2 = (answer (watch p (e.codeOf g)) e₂).2 := by
  have own : (e.profiler p).registry = registry := given.sole.profilers p
  obtain ⟨e₁, profilers, files, added⟩ := answer_addRoutine fit p
  rw [own, admits_native (native_of_failed fit failed), answer_spread, answer_bind] at added
  refine ⟨e₁, profilers, files, ?_⟩
  rw [added] at failed ⊢
  simp only at failed ⊢
  rcases watched : answer (watch p (e.codeOf g)) _ with ⟨o, e₃⟩
  rw [watched] at failed
  cases o with
  | ok fresh => cases failed
  | error error' =>
    cases failed
    exact ⟨rfl, rfl⟩

/-- Nobody but those who are told is another profiler than before, and those have the same notes. -/
theorem failed_profilers (given : Ready registry e) (fit : Profiler.refusal? (e.codeOf g) = none)
    (failed : (answer (addRoutine p g) e).1 = .error error) (q : ProfilerId) :
    ((answer (addRoutine p g) e).2.profiler q).routines = (e.profiler q).routines ∧
      (q ∉ e.told registry g p → Twin e.files ((answer (addRoutine p g) e).2.profiler q) (e.profiler q)) := by
  have native := native_of_failed fit failed
  obtain ⟨e₁, profilers, files, watched, after⟩ := failed_state given fit failed
  have before := profiler_congr profilers q
  have files' := (files_tellAll (e.codeOf g) (e.told registry g p) e₁).trans files
  have noted : ∀ files p, (answer (Profiler.watch files (e.codeOf g)) p).2.routines = p.routines := by
    intro files p
    have cases := watch_cases files (e.codeOf g) p
    generalize answer (Profiler.watch files (e.codeOf g)) p = r at cases
    cases cases <;> rfl
  have told := tellAll_profiler (R := fun p p' => p'.routines = p.routines) (fun _ => rfl)
    (fun first later => later.trans first) noted (e.told registry g p) e₁ q
  have untold : q ∉ e.told registry g p →
      ((tellAll (e.codeOf g) (e.told registry g p)).run e₁).2.profiler q = e₁.profiler q :=
    fun absent => tellAll_other absent
  rw [Engine.answer_watch] at watched
  rw [after, profiler_watch, ← before]
  simp only at watched ⊢
  generalize ((tellAll (e.codeOf g) (e.told registry g p)).run e₁).2 = e₂ at *
  rw [files'] at watched ⊢
  split
  · rename_i here
    obtain ⟨rfl, -⟩ := here
    refine ⟨(noted _ _).trans told, fun absent => ?_⟩
    rw [untold absent] at watched ⊢
    rw [before] at watched ⊢
    exact (Blind.of_error native watched).twin native
  · refine ⟨told, fun absent => ?_⟩
    rw [untold absent]
    exact .refl _ _

/-- Profilers are what they were but for what they have looked for, if whoever was told did not get
to watch the block. -/
theorem failed_alike (given : Ready registry e) (fit : Profiler.refusal? (e.codeOf g) = none)
    (failed : (answer (addRoutine p g) e).1 = .error error)
    (same : ∀ q ∈ e.told registry g p,
      ((answer (addRoutine p g) e).2.profiler q).blocks = (e.profiler q).blocks) :
    Alike (e.codeOf g) (p :: e.told registry g p) (answer (addRoutine p g) e).2 e := by
  have native := native_of_failed fit failed
  obtain ⟨e₁, profilers, files, watched, after⟩ := failed_state given fit failed
  have before := profiler_congr profilers
  have absent : p ∉ e.told registry g p := by
    intro mem
    obtain ⟨-, -, -, -, other⟩ := (Padding.told_iff _ _ _ _ _ _).mp mem
    exact other rfl
  have blind : ∀ q ∈ p :: e.told registry g p, q ∈ e.profilers.keys →
      Blind e.files (e.codeOf g) (e.profiler q) := by
    intro q mem there
    rcases List.mem_cons.mp mem with rfl | mem
    · rw [Engine.answer_watch] at watched
      simp only at watched
      rw [files_tellAll, files, tellAll_other absent, before] at watched
      exact .of_error native watched
    · have other : p ≠ q := fun here => absent (here ▸ mem)
      have kept := same q mem
      rw [after, profiler_watch_other other, ← before q] at kept
      rw [← files, ← before q]
      exact blind_of_told native mem (profilers ▸ there) kept
  have told := ((Alike.refl blind).congr rfl rfl profilers files).tellAll_blind native
    fun t mem => List.mem_cons_of_mem p mem
  rw [after]
  exact (told.watch_blind native List.mem_cons_self).symm

/-- The slots keep their blocks, and the block of the routine is known. -/
theorem failed_code (given : Ready registry e) (fit : Profiler.refusal? (e.codeOf g) = none)
    (failed : (answer (addRoutine p g) e).1 = .error error) :
    (answer (addRoutine p g) e).2.code = e.code ∧
      ((answer (addRoutine p g) e).2.registry registry).padding =
        (((e.registry registry).padding.accept (e.codeOf g) e.blocks).2.enrol g (e.codeOf g).id
          (e.codeOf g).id p).2 := by
  have admits := admits_native (native_of_failed fit failed)
  refine ⟨?_, ?_⟩
  · obtain ⟨profilers, scene⟩ := scene_addRoutine given p fit
    have code : (answer (addRoutine p g) e).2.code =
        if (e.admits registry g).id ≠ (e.codeOf g).id then
          e.code.set (e.routine g).slot (e.admits registry g)
        else e.code := congrArg Scene.code scene
    rw [code, admits, if_neg fun differ => differ rfl]
  · rw [padding_added given p fit, admits]

/-- **The failure and nothing else** is between an engine in which an addition failed and the one in
which it was not tried, if whoever was told did not get to watch the block. -/
theorem failed_shadow (given : Ready registry e) (shelf : (e.scene registry).Shelf done)
    (vouched : Vouched e) (numbered : Numbered e) (there : g ∈ e.routines.keys)
    (fit : Profiler.refusal? (e.codeOf g) = none)
    (failed : (answer (addRoutine p g) e).1 = .error error)
    (same : ∀ q ∈ e.told registry g p,
      ((answer (addRoutine p g) e).2.profiler q).blocks = (e.profiler q).blocks) :
    Shadow e.blocks (e.codeOf g) (p :: e.told registry g p) g (answer (addRoutine p g) e).2 e := by
  have native := native_of_failed fit failed
  have holds : ∀ slot, Profiler.refusal? (e.slotCode slot) = none →
      (e.scene registry).Holds done (e.slotCode slot) := by
    intro slot fit
    refine .inr ⟨fit, slot, ?_⟩
    unfold slotCode Assoc.getD at *
    cases found : e.code.get? slot with
    | none =>
      rw [found] at fit
      cases fit
    | some block => exact found
  have low : ∀ i ∈ (e.registry registry).padding.known, i < e.blocks := by
    intro i known
    obtain ⟨block, mem, rfl⟩ := (shelf.admitted.known i).mp known
    exact shelf.given block (.inl mem)
  obtain ⟨code, padding⟩ := failed_code given fit failed
  refine ⟨(Setup.addRoutine p g).ready given, given, numbered, routines_addRoutine given p g,
    blocks_added given p fit, Nat.le_refl _, fun slot => ?_, fun slot fit' number => ?_, there, rfl, ?_,
    ?_⟩
  · have slotCode : (answer (addRoutine p g) e).2.slotCode slot = e.slotCode slot := by
      unfold Engine.slotCode
      rw [code]
    rw [slotCode]
    by_cases fit' : Profiler.refusal? (e.slotCode slot) = none
    · have given := shelf.given _ (holds slot fit')
      exact .inr ⟨(Block.shifted_of_lt given).symm, fun _ => given⟩
    · exact .inl ⟨rfl, fit'⟩
  · exact shelf.distinct _ _ (holds slot fit') (holds _ fit) number
  · rw [padding]
    refine .meet native (shelf.given _ (holds _ fit)) low
      (fun r record found => low _ (vouched r record found)) List.mem_cons_self e.blocks fun t mem => ?_
    refine List.mem_cons_of_mem _ ?_
    unfold Engine.told
    rw [admits_native native]
    exact mem
  · exact failed_alike given fit failed same

/-! ## Courses -/

theorem vouched_start (b : Backend) (monitored wrap : Bool) (h : b = .tool → monitored = true) :
    Vouched (start b monitored wrap) := by
  rw [start_eq b monitored wrap h]
  intro g record found
  cases found

/-- **What an addition that fails leaves behind.** If there is nothing to run it leaves nothing. In
any case no slot is written and no profiler takes a note; the one block that may be known in addition
is the native block of the routine. All profilers but those that are told of that block, as they had
the routine with another one, are what they were but for what they have looked for. And if those who
are told do not get to watch the block, the failure makes no difference to what is registered later:
after any registrations all profilers are, but for what they have looked for, what they would be if
the addition had not been tried. -/
theorem failed_addition (b : Backend) (monitored wrap : Bool) (budget : Nat) (turns : List Turn)
    (h : b = .tool → monitored = true) :
    let e := (play Scripts.quiet Scripts.quiet.host budget turns ⟨start b monitored wrap, []⟩).2.state
    ∀ p g error, (answer (addRoutine p g) e).1 = .error error →
      let e' := (answer (addRoutine p g) e).2
      let block := e.codeOf g
      let known := fun e : Engine => (e.registry registry).padding.known
      (block.native = false → e' = e) ∧ e'.code = e.code ∧
        (∀ q, (e'.profiler q).routines = (e.profiler q).routines) ∧
        known e' = (if block.native = true ∧ block.id ∉ known e then block.id :: known e else known e) ∧
        (∀ q, q ∉ e.told registry g p → Twin e.files (e'.profiler q) (e.profiler q)) ∧
        (g ∈ e.routines.keys →
          (∀ q ∈ e.told registry g p, (e'.profiler q).blocks = (e.profiler q).blocks) →
          ∀ later : List Task, (∀ t ∈ later, t.Registers) → ∀ q,
            Twin (doAll later e).files ((doAll later e').profiler q) ((doAll later e).profiler q)) := by
  simp only
  intro p g error failed
  have peers := peers_start wrap monitored monitored h h
  have shelf := shelf_start b monitored wrap h
  have ready : Ready registry (start b monitored wrap) := (seen_start b monitored wrap h).ready
  have handled := play_handled budget turns peers shelf
  have given := handled.ready ready
  have vouched := handled.vouched ready (vouched_start b monitored wrap h)
  have numbered := (handled.routine_there ready (numbered_start b monitored wrap h)).1
  have shelf' := play_shelf budget turns peers shelf
  generalize (play Scripts.quiet Scripts.quiet.host budget turns _).2.state = e at *
  cases refusal : Profiler.refusal? (e.codeOf g) with
  | some error =>
    have plain : (e.codeOf g).native = false := by
      rw [← Bool.not_eq_true]
      intro native
      rw [refusal?_native native] at refusal
      cases refusal
    rw [addRoutine_refused refusal, if_neg fun h => Bool.noConfusion (plain.symm.trans h.1)]
    exact ⟨fun _ => rfl, rfl, fun _ => rfl, rfl, fun q _ => .refl _ _,
      fun _ _ later _ q => .refl _ _⟩
  | none =>
    have native := native_of_failed refusal failed
    have profilers := failed_profilers given refusal failed
    obtain ⟨code, padding⟩ := failed_code given refusal failed
    refine ⟨fun plain => Bool.noConfusion (plain.symm.trans native), code, fun q => (profilers q).1, ?_,
      fun q => (profilers q).2, fun there same later registers q => ?_⟩
    · have kept : ∀ (padding : Padding) before after, (padding.enrol g before after p).2.known =
          padding.known := fun _ _ _ => rfl
      rw [padding, kept, Padding.accept_native native]
      simp only
      by_cases known : (e.codeOf g).id ∈ (e.registry registry).padding.known
      · rw [if_pos known, if_neg fun h => h.2 known]
      · rw [if_neg known, if_pos ⟨native, known⟩]
    · have shadow := failed_shadow given shelf' vouched numbered there refusal failed same
      have low : (e.codeOf g).id < e.blocks :=
        shelf'.given _ (Scene.holds_codeOf (s := e.scene registry) refusal)
      exact (shadow.registered native low registers).alike.twins q

/-- A native routine whose source text is nowhere, and one to swap it for. -/
def sourceless : List Turn :=
  [{ move := .task (.profiler none .shared .none) },
    { move := .task (.profiler none .shared .none) },
    { move := .task (.define { oneUnit "n" "ext.pyx" with native := true }) },
    { move := .task (.define (oneUnit "g" "g.py")) }]

/-- The second routine is added to the second profiler and gets the native code, with which it is
added to the first profiler in vain. The second profiler is told, in vain as well. -/
theorem failed_addition_told :
    let turns := sourceless ++ [{ move := .task (.add 1 1) }, { move := .task (.replaceCode 1 0) }]
    let e := (play Scripts.quiet Scripts.quiet.host 9 turns ⟨start .slot true true, []⟩).2.state
    let e' := (answer (addRoutine 0 1) e).2
    let later := [Task.wrapper 1 1, .addAll 0 [0, 2]]
    (Backend.slot = .tool → true = true) ∧
      (answer (addRoutine 0 1) e).1 = .error (.source "n" "ext.pyx" 1) ∧
      1 ∈ e.routines.keys ∧ e.told registry 1 0 = [1] ∧
      (∀ q ∈ e.told registry 1 0, (e'.profiler q).blocks = (e.profiler q).blocks) ∧
      (∀ t ∈ later, t.Registers) ∧
      Twin (doAll later e).files ((doAll later e').profiler 1) ((doAll later e).profiler 1) := by
  have monitored : Backend.slot = .tool → true = true := fun _ => rfl
  have registers : ∀ t ∈ [Task.wrapper 1 1, .addAll 0 [0, 2]], t.Registers := by
    intro t mem
    rcases List.mem_cons.mp mem with rfl | mem
    · exact trivial
    · rw [List.mem_singleton.mp mem]
      exact trivial
  have whole := failed_addition .slot true true 9
    (sourceless ++ [{ move := .task (.add 1 1) }, { move := .task (.replaceCode 1 0) }]) monitored
  simp only at whole ⊢
  generalize stage : (play Scripts.quiet Scripts.quiet.host 9 _ _).2 = st at whole ⊢
  have failed : (answer (addRoutine 0 1) st.state).1 = .error (.source "n" "ext.pyx" 1) := by
    rw [← stage]
    decide +kernel
  have there : 1 ∈ st.state.routines.keys := by
    rw [← stage]
    decide +kernel
  have told : st.state.told registry 1 0 = [1] ∧ ∀ q ∈ st.state.told registry 1 0,
      ((answer (addRoutine 0 1) st.state).2.profiler q).blocks = (st.state.profiler q).blocks := by
    rw [← stage]
    decide +kernel
  exact ⟨fun _ => trivial, failed, there, told.1, told.2, registers,
    (whole 0 1 _ failed).2.2.2.2.2 there told.2 _ registers 1⟩

/-- The first routine is added to the first profiler in vain, given other code, and added to the
second profiler: the first one is told, and watches a block which without the failure it does not. -/
theorem failed_addition_followed :
    let e := (play Scripts.quiet Scripts.quiet.host 9 sourceless ⟨start .slot true true, []⟩).2.state
    let e' := (answer (addRoutine 0 0) e).2
    let later := [Task.replaceCode 0 1, .add 1 0]
    (answer (addRoutine 0 0) e).1.isOk = false ∧
      (e'.registry registry).padding.known ≠ (e.registry registry).padding.known ∧
      ((doAll later e').profiler 0).watches ((doAll later e').codeOf 0).identity = true ∧
      ((doAll later e).profiler 0).watches ((doAll later e').codeOf 0).identity = false := by
  decide +kernel

end LineClock.Course

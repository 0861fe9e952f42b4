import LineClock.Code.Block
import LineClock.Proofs.Machine.Outcome

/-!
# References in drafts

While a block is drafted, a call refers to its callee by the number of callees before it, and a jump
back to a unit by the number of units before that. Both are one byte. They lead where they were meant
to lead as long as the number fits; from then on they lead to the last callee, and to the last unit,
that one byte can name.

Main statement: `references_resolved`.
-/

namespace LineClock

/-- A number as one byte, or the largest byte. -/
@[simp] theorem toNat_oneByte (n : Nat) : (oneByte n).toNat = min n 255 := by
  unfold oneByte
  split
  · rename_i fits
    have small : n % 256 = n := Nat.mod_eq_of_lt fits
    simp [small]
    omega
  · rename_i large
    show 255 = min n 255
    omega

namespace Draft

/-- A step of drafting. -/
inductive Step where
  | line (line : UInt32)
  | op (op : Op)
  | call (callee : RoutineId)
  /-- Asking where the next unit will stand. -/
  | here
  deriving DecidableEq

/-- The draft after a step. -/
def next (d : Draft) : Step → Draft
  | .line line => d.onLine line
  | .op op => d.op op
  | .call callee => d.call callee
  | .here => d

/-- The draft after some steps. -/
def follow (d : Draft) (steps : List Step) : Draft := steps.foldl next d

/-- The callees of some steps, in order. -/
def called (steps : List Step) : List RoutineId :=
  steps.filterMap fun
    | .call callee => some callee
    | _ => none

variable {d : Draft} {before after : List Step}

theorem follow_append (d : Draft) (before after : List Step) :
    d.follow (before ++ after) = (d.follow before).follow after := by
  simp [follow]

theorem follow_cons (d : Draft) (step : Step) (after : List Step) :
    d.follow (step :: after) = (d.next step).follow after := rfl

theorem called_append (before after : List Step) :
    called (before ++ after) = called before ++ called after := by
  simp [called]

/-- A step appends units, if anything. -/
theorem instrs_next (d : Draft) (step : Step) : d.instrs <+: (d.next step).instrs := by
  cases step with
  | line line => exact List.prefix_refl _
  | op op => exact List.prefix_append _ _
  | call callee => exact List.prefix_append _ _
  | here => exact List.prefix_refl _

/-- **Units keep their places**, whatever is appended. -/
theorem instrs_follow (d : Draft) (steps : List Step) : d.instrs <+: (d.follow steps).instrs := by
  induction steps generalizing d with
  | nil => exact List.prefix_refl _
  | cons step rest ih => exact (d.instrs_next step).trans (ih (d.next step))

/-- **Callees are numbered** in the order of their calls. -/
theorem callees_follow (d : Draft) (steps : List Step) :
    (d.follow steps).callees = d.callees ++ called steps := by
  induction steps generalizing d with
  | nil => simp [follow, called]
  | cons step rest ih =>
    rw [follow_cons, ih]
    cases step <;> simp [next, onLine, op, call, called]

end Draft

namespace Machine

open Draft

variable {σ : Type}

/-- Carrying out a unit does what calling a routine does. -/
def Invokes (host : Host σ) (call : RoutineId → Exec σ Unit) (instr : Instr) (callee : RoutineId)
    (act : Activation) : Prop :=
  ∀ x, (perform host call instr).out act x =
    match (call callee).out x with
    | (.ok (), y) => ((.ok (.goOn false), act), y)
    | (.error e, y) => ((.error e, act), y)

theorem invokes_call (host : Host σ) (call : RoutineId → Exec σ Unit) (line : UInt32) {index : UInt8}
    {act : Activation} {callee : RoutineId}
    (there : act.frame.block.callees[index.toNat]? = some callee) :
    Invokes host call ⟨line, .call index⟩ callee act := by
  intro x
  have run := out_perform_call host call line index act x
  rw [there] at run
  exact run

/-- A loop that is not done goes on with the unit it jumps back to. -/
theorem proceed_loopEnd (host : Host σ) (call : RoutineId → Exec σ Unit) (budget : Nat)
    (line : UInt32) (target : UInt8) {act : Activation} {n : Nat} {outer : List Nat}
    (opened : act.loops = n :: outer) (more : 1 < n) (x : σ) :
    (proceed host call budget ⟨line, .loopEnd target⟩).out act x =
      (execute host call budget none).out
        { act with next := target.toNat, loops := (n - 1) :: outer } x := by
  have jumps : endLoop target { act with next := act.next + 1 } =
      ({ act with next := target.toNat, loops := (n - 1) :: outer }, true) := by
    have left : 0 < n - 1 := by omega
    simp [endLoop, opened, left]
  have performed : (perform host call ⟨line, .loopEnd target⟩).out { act with next := act.next + 1 } x =
      ((.ok (.goOn true), { act with next := target.toNat, loops := (n - 1) :: outer }), x) := by
    show ((Except.ok (Outcome.goOn (endLoop target { act with next := act.next + 1 }).2),
      (endLoop target { act with next := act.next + 1 }).1), x) = _
    rw [jumps]
  unfold proceed
  rw [Act.out_bind, Act.out_modify]
  exact Act.out_bind_ok performed _

/-- **References lead where they are meant to** as long as they fit into one byte. A call is one unit,
which stands behind the units appended before it. Carrying it out calls the routine it was drafted
with, if at most 255 calls were drafted before; otherwise it calls that of the 256th call. And a unit
that ends a loop, with what `here` answered, jumps back to the unit appended next if at most 255 units
were appended before; otherwise it jumps to the unit 255. -/
theorem references_resolved (name file : String) (firstLine : UInt32) (generator native : Bool)
    (id : BlockId) (steps : List Step) :
    let blank : Draft := { name, file, firstLine, generator, native }
    let block := (blank.follow steps).build id
    (∀ before callee after, steps = before ++ .call callee :: after →
      ∃ instr invoked, (blank.follow before).instrs ++ [instr] <+: block.instrs ∧
        (called steps)[(called before).length]? = some callee ∧
        (called steps)[min (called before).length 255]? = some invoked ∧
        ((called before).length ≤ 255 → invoked = callee) ∧
        ∀ {σ : Type} (host : Host σ) (call : RoutineId → Exec σ Unit) (act : Activation),
          act.frame.block = block → Invokes host call instr invoked act) ∧
    (∀ before after, steps = before ++ .here :: after →
      let drafted := blank.follow before
      drafted.instrs <+: block.instrs ∧ drafted.here.toNat = min drafted.instrs.length 255 ∧
        ∀ {σ : Type} (host : Host σ) (call : RoutineId → Exec σ Unit) (budget : Nat) (line : UInt32)
          (act : Activation) (n : Nat) (outer : List Nat), act.loops = n :: outer → 1 < n → ∀ x,
          (proceed host call budget ⟨line, .loopEnd drafted.here⟩).out act x =
            (execute host call budget none).out
              { act with next := min drafted.instrs.length 255, loops := (n - 1) :: outer } x) := by
  intro blank block
  have callees : block.callees = called steps := by
    show (blank.follow steps).callees = _
    rw [callees_follow]
    rfl
  refine ⟨fun before callee after split => ?_, fun before after split => ?_⟩
  · have numbered : (blank.follow before).callees = called before := by
      rw [callees_follow]
      rfl
    have all : called steps = called before ++ callee :: called after := by
      rw [split, called_append]
      rfl
    have own : (called steps)[(called before).length]? = some callee := by simp [all]
    obtain ⟨invoked, found⟩ : ∃ invoked, (called steps)[min (called before).length 255]? =
        some invoked := by
      have inside : min (called before).length 255 < (called steps).length := by
        simp only [all, List.length_append, List.length_cons]
        omega
      exact ⟨_, List.getElem?_eq_getElem inside⟩
    refine ⟨⟨(blank.follow before).line, .call (oneByte (called before).length)⟩, invoked, ?_, own,
      found, fun fits => ?_, fun host call act here => invokes_call host call _ ?_⟩
    · have drafted : blank.follow steps = ((blank.follow before).call callee).follow after := by
        rw [split, follow_append, follow_cons]
        rfl
      have placed := ((blank.follow before).call callee).instrs_follow after
      rw [← drafted, Draft.call, numbered] at placed
      exact placed
    · rw [Nat.min_eq_left fits, own] at found
      exact (Option.some.inj found).symm
    · rw [here, callees, toNat_oneByte, found]
  · intro drafted
    have placed := drafted.instrs_follow (.here :: after)
    rw [← follow_append, ← split] at placed
    have value : drafted.here.toNat = min drafted.instrs.length 255 := toNat_oneByte _
    refine ⟨placed, value, fun host call budget line act n outer opened more x => ?_⟩
    rw [proceed_loopEnd host call budget line drafted.here opened more, value]

/-- A draft without units. -/
def blankDraft : Draft where
  name := "f"
  file := "f.x"
  firstLine := 1

/-- So many calls of the routine 0, the question where the next unit will stand, and calls of the
routines 1 and 0. -/
def manyCalls (n : Nat) : List Step :=
  List.replicate n (.call 0) ++ .here :: [.call 1, .call 0]

/-- The 256th call, and a jump back to the unit 255, are the last that lead where they are meant to. -/
theorem references_resolved_at_edge :
    let calls : List Step := List.replicate 255 (.call 0)
    let block := (blankDraft.follow (manyCalls 255)).build 0
    let act : Activation := { fresh 0 block with loops := [2] }
    manyCalls 255 = (calls ++ [.here]) ++ .call 1 :: [.call 0] ∧
      (called (calls ++ [.here])).length ≤ 255 ∧
      (∃ instr, (blankDraft.follow (calls ++ [.here])).instrs ++ [instr] <+: block.instrs ∧
        ∀ {σ : Type} (host : Host σ) (call : RoutineId → Exec σ Unit),
          Invokes host call instr 1 act) ∧
      (blankDraft.follow calls).instrs.length = 255 ∧
      ∀ {σ : Type} (host : Host σ) (call : RoutineId → Exec σ Unit) (budget : Nat) (x : σ),
        (proceed host call budget ⟨1, .loopEnd (blankDraft.follow calls).here⟩).out act x =
          (execute host call budget none).out { act with next := 255, loops := [1] } x := by
  intro calls block act
  have split : manyCalls 255 = (calls ++ [.here]) ++ .call 1 :: [.call 0] := by decide +kernel
  have few : (called (calls ++ [.here])).length ≤ 255 := by decide +kernel
  have units : (blankDraft.follow calls).instrs.length = 255 := by decide +kernel
  obtain ⟨toCalls, toUnits⟩ := references_resolved "f" "f.x" 1 false false 0 (manyCalls 255)
  obtain ⟨instr, invoked, placed, -, -, own, invokes⟩ := toCalls _ _ _ split
  obtain ⟨-, -, jumps⟩ := toUnits calls [.call 1, .call 0] rfl
  rw [own few] at invokes
  refine ⟨split, few, ⟨instr, placed, fun host call => invokes host call act rfl⟩, units, ?_⟩
  intro σ host call budget x
  refine (jumps host call budget 1 act 2 [] rfl (by decide) x).trans ?_
  show (execute host call budget none).out
    { act with next := min (blankDraft.follow calls).instrs.length 255, loops := [1] } x = _
  rw [units, Nat.min_self]

/-- The 257th call does what the 256th does, and a jump that is meant for the unit 256 goes to the
unit before it. -/
theorem references_lost :
    let calls : List Step := List.replicate 256 (.call 0)
    let block := (blankDraft.follow (manyCalls 256)).build 0
    (called (manyCalls 256))[256]? = some 1 ∧ block.instrs[256]? = some ⟨1, .call 255⟩ ∧
      (∀ {σ : Type} (host : Host σ) (call : RoutineId → Exec σ Unit),
        Invokes host call ⟨1, .call 255⟩ 0 (fresh 0 block)) ∧
      (blankDraft.follow calls).instrs.length = 256 ∧ (blankDraft.follow calls).here = 255 := by
  intro calls block
  have invoked : block.callees[(255 : UInt8).toNat]? = some 0 := by decide +kernel
  refine ⟨by decide +kernel, by decide +kernel, fun host call => ?_, by decide +kernel,
    by decide +kernel⟩
  exact invokes_call host call 1 invoked

end Machine

end LineClock

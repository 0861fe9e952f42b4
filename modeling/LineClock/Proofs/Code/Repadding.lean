import Mathlib.Algebra.Ring.Nat
import LineClock.Code.Block
import LineClock.Proofs.Registry.Apart

/-!
# Padding what was padded

A block of instructions that is padded again and again is what it would be if it had been padded by
the last count alone. The padding of a native block is not counted and so never taken off: every
count adds to what is there, and only the bytes, of which a native block has none, do not show it.

Main statement: `padding_forgets`.
-/

namespace LineClock.Block

/-- A block padded by some counts one after the other, under a number for each copy. -/
def repadded (b : Block) (counts : List (Nat × BlockId)) : Block :=
  counts.foldl (fun b count => b.withPadding count.1 count.2) b

/-- The sum of some counts. -/
def unitsOf (counts : List (Nat × BlockId)) : Nat := (counts.map Prod.fst).sum

@[simp] theorem repadded_nil (b : Block) : b.repadded [] = b := rfl

@[simp] theorem repadded_cons (b : Block) (count : Nat × BlockId) (counts : List (Nat × BlockId)) :
    b.repadded (count :: counts) = (b.withPadding count.1 count.2).repadded counts := rfl

@[simp] theorem unitsOf_nil : unitsOf [] = 0 := rfl

@[simp] theorem unitsOf_cons (count : Nat × BlockId) (counts : List (Nat × BlockId)) :
    unitsOf (count :: counts) = count.1 + unitsOf counts := by
  simp [unitsOf]

/-! ## Blocks of instructions -/

theorem paddingLine_withPadding {b : Block} (h : b.native = false) (units : Nat) (id : BlockId) :
    (b.withPadding units id).paddingLine = b.paddingLine := by
  simp only [paddingLine, body_withPadding h]
  rfl

/-- Other padding replaces what is there. -/
theorem withPadding_withPadding {b : Block} (h : b.native = false) (units units' : Nat)
    (id id' : BlockId) :
    (b.withPadding units id).withPadding units' id' = b.withPadding units' id' := by
  have body := body_withPadding h units id
  have line := paddingLine_withPadding h units id
  show { b.withPadding units id with
    id := id'
    instrs := (b.withPadding units id).body ++
      List.replicate units' ⟨(b.withPadding units id).paddingLine, .nop⟩
    padding := if b.native then 0 else units' } = b.withPadding units' id'
  rw [body, line]
  rfl

theorem withPadding_repadded {b : Block} (h : b.native = false) (earlier : List (Nat × BlockId))
    (units : Nat) (id : BlockId) :
    (b.repadded earlier).withPadding units id = b.withPadding units id := by
  induction earlier generalizing b with
  | nil => rfl
  | cons count rest ih =>
    have native : (b.withPadding count.1 count.2).native = false := h
    rw [repadded_cons, ih native, withPadding_withPadding h]

/-! ## Native blocks -/

/-- Behind a block without padding the no-ops follow the instructions. -/
theorem body_of_unpadded {b : Block} (h : b.padding = 0) : b.body = b.instrs := by
  simp [body, h]

/-- The line of padding stays the same when no-ops on it are taken for instructions. -/
theorem paddingLine_appended {b c : Block} (h : b.padding = 0) (h' : c.padding = 0)
    (first : c.firstLine = b.firstLine) {units : Nat}
    (instrs : c.instrs = b.instrs ++ List.replicate units ⟨b.paddingLine, .nop⟩) :
    c.paddingLine = b.paddingLine := by
  cases units with
  | zero =>
    have same : c.instrs = b.instrs := by simpa using instrs
    simp [paddingLine, body_of_unpadded h, body_of_unpadded h', same, first]
  | succ units =>
    have last : c.instrs.getLast? = some ⟨b.paddingLine, .nop⟩ := by
      rw [instrs, List.replicate_succ', ← List.append_assoc, List.getLast?_concat]
    rw [paddingLine, body_of_unpadded h', last]
    rfl

/-- The padding of a native block is instructions of its own. -/
theorem withPadding_native {b : Block} (h : b.native = true) (unpadded : b.padding = 0)
    (units : Nat) (id : BlockId) :
    b.withPadding units id =
      { b with id, instrs := b.instrs ++ List.replicate units ⟨b.paddingLine, .nop⟩ } := by
  simp [withPadding, h, body_of_unpadded unpadded, unpadded]

/-- So what is added stays there, and more is added. -/
theorem withPadding_add {b : Block} (h : b.native = true) (unpadded : b.padding = 0)
    (units units' : Nat) (id id' : BlockId) :
    (b.withPadding units id).withPadding units' id' = b.withPadding (units + units') id' := by
  have once := withPadding_native h unpadded units id
  have unpadded' : (b.withPadding units id).padding = 0 := by rw [once]; exact unpadded
  have instrs : (b.withPadding units id).instrs =
      b.instrs ++ List.replicate units ⟨b.paddingLine, .nop⟩ := by rw [once]
  have line := paddingLine_appended unpadded unpadded' rfl instrs
  rw [withPadding_native (b := b.withPadding units id) h unpadded', instrs, line,
    List.append_assoc, List.replicate_append_replicate, once]
  exact (withPadding_native h unpadded (units + units') id').symm

theorem withPadding_repadded_native {b : Block} (h : b.native = true) (unpadded : b.padding = 0)
    (earlier : List (Nat × BlockId)) (units : Nat) (id : BlockId) :
    (b.repadded earlier).withPadding units id = b.withPadding (unitsOf earlier + units) id := by
  induction earlier generalizing b with
  | nil => simp
  | cons count rest ih =>
    have native : (b.withPadding count.1 count.2).native = true := h
    have unpadded' : (b.withPadding count.1 count.2).padding = 0 := by simp [withPadding, h]
    rw [repadded_cons, ih native unpadded', withPadding_add h unpadded, unitsOf_cons, Nat.add_assoc]

/-! ## Built blocks -/

/-- **Padding depends on the block without padding only**, if the block shows instructions. Padded by
some counts and last by `units`, a built block has its own instructions and behind them as many no-ops
as `units` says; for a native block the earlier counts are added. In everything else, and also in
bytes, padding and unpadded bytes, it is the block padded by `units` alone; and it is that block
altogether if it shows instructions or the earlier counts are zero, and not otherwise. -/
theorem padding_forgets (d : Draft) (id last : BlockId) (earlier : List (Nat × BlockId))
    (units : Nat) :
    let b := d.build id
    let often := (b.repadded earlier).withPadding units last
    let once := b.withPadding units last
    let noOp : Instr := ⟨b.paddingLine, .nop⟩
    once.instrs = b.instrs ++ List.replicate units noOp ∧
      often.instrs =
        b.instrs ++ List.replicate (if b.native then unitsOf earlier + units else units) noOp ∧
      often = { once with instrs := often.instrs } ∧
      (often.instrs = once.instrs ↔ b.native = false ∨ unitsOf earlier = 0) ∧
      often.bytes = once.bytes ∧ often.padding = once.padding ∧
      once.padding = (if b.native then 0 else units) ∧
      often.strippedBytes = b.bytes ∧ once.strippedBytes = b.bytes := by
  intro b often once noOp
  have unpadded : b.padding = 0 := rfl
  have body : b.body = b.instrs := body_of_unpadded unpadded
  have stripped : b.strippedBytes = b.bytes := by simp [strippedBytes, unpadded]
  have appended : ∀ units, (b.withPadding units last).instrs =
      b.instrs ++ List.replicate units noOp := by
    intro units
    show b.body ++ _ = _
    rw [body]
  cases native : b.native with
  | false =>
    have same : often = once := withPadding_repadded native earlier units last
    have kept : once.strippedBytes = b.bytes := by
      rw [strippedBytes_withPadding native, stripped]
    have count : once.padding = units := by
      show (if b.native then 0 else units) = units
      simp [native]
    rw [same]
    exact ⟨appended units, appended units, rfl, by simp, rfl, rfl, count, kept, kept⟩
  | true =>
    have more : often = b.withPadding (unitsOf earlier + units) last :=
      withPadding_repadded_native native unpadded earlier units last
    have bytes : ∀ units, (b.withPadding units last).bytes = b.bytes := by
      intro units
      have native' : (b.withPadding units last).native = true := native
      simp [Block.bytes, native, native']
    have count : ∀ units, (b.withPadding units last).padding = 0 := by
      intro units
      rw [withPadding_native native unpadded]
      exact unpadded
    have kept : ∀ units, (b.withPadding units last).strippedBytes = b.bytes := by
      intro units
      simp [strippedBytes, bytes, count]
    rw [more]
    refine ⟨appended units, appended _, ?_, ?_, ?_, ?_, count units, kept _, kept units⟩
    · simp [once, withPadding, native]
    · have lengths : (b.withPadding (unitsOf earlier + units) last).instrs =
          (b.withPadding units last).instrs ↔ unitsOf earlier = 0 := by
        simp [appended, List.replicate_inj]
      simpa using lengths
    · rw [bytes, bytes]
    · rw [count, count]

/-- A native block of one instruction. -/
def nativeDraft : Draft where
  name := "n"
  file := "n.pyx"
  firstLine := 1
  native := true
  instrs := [⟨2, .ret⟩]

/-- A native block that is padded by one, then by nothing, keeps the one no-op, which is counted
nowhere. -/
theorem native_padding_stays :
    let b := nativeDraft.build 0
    let often := (b.withPadding 1 1).withPadding 0 2
    often.instrs = [⟨2, .ret⟩, ⟨2, .nop⟩] ∧ often.padding = 0 ∧
      often.instrs ≠ (b.withPadding 0 2).instrs ∧ often.instrs ≠ b.instrs := by
  decide

end LineClock.Block

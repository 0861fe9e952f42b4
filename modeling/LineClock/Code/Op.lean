import LineClock.Bytes

/-!
# Instructions

An instruction is one unit of two bytes, an opcode and an argument, and belongs to a source line.
Reading back the unit of an operation gives the operation.
-/

namespace LineClock

/-- What one instruction does. -/
inductive Op where
  /-- Nothing. -/
  | nop
  /-- Spend `n` units of work. -/
  | work (n : UInt8)
  /-- Call the routine at this index of the block's callees. -/
  | call (index : UInt8)
  /-- Open a loop whose body runs `n` times. -/
  | loopStart (n : UInt8)
  /-- Count down the innermost loop; go back to the unit `target` while it is not done. -/
  | loopEnd (target : UInt8)
  /-- Hand control back to the caller of a generator. -/
  | yield
  /-- Raise an exception. -/
  | raise
  /-- Leave the block. -/
  | ret
  deriving DecidableEq, Repr, Inhabited

namespace Op

/-- The first byte of the unit. -/
def opcode : Op → UInt8
  | nop => 0x09
  | work _ => 0x10
  | call _ => 0x20
  | loopStart _ => 0x30
  | loopEnd _ => 0x31
  | yield => 0x40
  | raise => 0x50
  | ret => 0x53

/-- The second byte of the unit; an operation without argument has zero there. -/
def arg : Op → UInt8
  | work n | call n | loopStart n | loopEnd n => n
  | nop | yield | raise | ret => 0

/-- The two bytes of the unit. -/
def bytes (op : Op) : Bytes := [op.opcode, op.arg]

/-- The operation of a unit; the argument of an operation that takes none is not looked at. -/
def ofUnit? (opcode arg : UInt8) : Option Op :=
  match opcode with
  | 0x09 => some nop
  | 0x10 => some (work arg)
  | 0x20 => some (call arg)
  | 0x30 => some (loopStart arg)
  | 0x31 => some (loopEnd arg)
  | 0x40 => some yield
  | 0x50 => some raise
  | 0x53 => some ret
  | _ => none

theorem ofUnit?_opcode_arg (op : Op) : ofUnit? op.opcode op.arg = some op := by
  cases op <;> rfl

/-- The units of a byte string, each with its operation if it has one; an odd last byte is no unit. -/
def units : Bytes → List (Option Op)
  | opcode :: arg :: rest => ofUnit? opcode arg :: units rest
  | _ => []

end Op

/-- An instruction: an operation and the source line it belongs to. -/
structure Instr where
  line : UInt32
  op : Op
  deriving DecidableEq, Repr, Inhabited

end LineClock

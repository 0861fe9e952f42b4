import LineClock.Code.Op
import LineClock.Identity

/-!
# Blocks of code

A `Block` is one compiled body: its instructions, where it stands in the source, the routines it
calls, and how many of its last units are padding. Padding is the one change made to a block: no-ops
after the last instruction, which change the bytes and with them the identity of the block. A
native block shows no bytes; its identity comes from its object number.

A `Draft` collects instructions until it is built into a block. References are one byte wide: the
index of a callee and the index of the next unit stay at 255 from there on.
-/

namespace LineClock

/-- The number of a block object. -/
abbrev BlockId := Nat

/-- The number of a routine object. -/
abbrev RoutineId := Nat

/-- One compiled body. -/
structure Block where
  id : BlockId
  name : String
  file : String
  firstLine : UInt32
  /-- Whether the body suspends at `yield`. -/
  generator : Bool := false
  /-- Whether the body shows no instruction bytes. -/
  native : Bool := false
  instrs : List Instr := []
  /-- How many of the last units were added as padding. -/
  padding : Nat := 0
  callees : List RoutineId := []
  deriving DecidableEq, Repr, Inhabited

namespace Block

/-- The instruction bytes, none for a native block. -/
def bytes (b : Block) : Bytes := if b.native then [] else b.instrs.flatMap fun i => i.op.bytes

/-- The identity of the block. -/
def identity (b : Block) : BlockHash :=
  if b.native then BlockHash.ofNative b.id.toUInt64 else BlockHash.ofBytes b.bytes

/-- The line of the unit at an offset. -/
def lineAt? (b : Block) (offset : Nat) : Option UInt32 := b.instrs[offset]?.map Instr.line

/-- Insert a line into an ascending list of lines unless it is there. -/
def insertLine (line : UInt32) : List UInt32 → List UInt32
  | [] => [line]
  | l :: rest =>
    if line < l then line :: l :: rest else if line = l then l :: rest else l :: insertLine line rest

/-- The lines of a list in ascending order, each once. -/
def distinctLines (lines : List UInt32) : List UInt32 := lines.foldr insertLine []

/-- The lines the block covers, in ascending order, each once. -/
def lines (b : Block) : List UInt32 := distinctLines (b.instrs.map Instr.line)

/-- The units that are not padding. -/
def body (b : Block) : List Instr := b.instrs.take (b.instrs.length - b.padding)

/-- The instruction bytes without those of the padding. -/
def strippedBytes (b : Block) : Bytes := b.bytes.take (b.bytes.length - 2 * b.padding)

/-- The line that padding belongs to: that of the last unit of the body. -/
def paddingLine (b : Block) : UInt32 := (b.body.getLast?.map Instr.line).getD b.firstLine

/-- A copy under the number `id` with exactly `units` no-ops of padding, whatever padding the
block had before. The units of a native block are counted nowhere. -/
def withPadding (b : Block) (units : Nat) (id : BlockId) : Block :=
  { b with
    id
    instrs := b.body ++ List.replicate units ⟨b.paddingLine, .nop⟩
    padding := if b.native then 0 else units }

end Block

/-! ## Drafts -/

/-- A block under construction. -/
structure Draft where
  name : String
  file : String
  firstLine : UInt32
  generator : Bool := false
  native : Bool := false
  /-- The line of the instructions that follow. -/
  line : UInt32 := firstLine
  instrs : List Instr := []
  callees : List RoutineId := []
  deriving DecidableEq, Repr, Inhabited

/-- A number as one byte, 255 if it does not fit. -/
def oneByte (n : Nat) : UInt8 := if n < 256 then n.toUInt8 else 255

namespace Draft

/-- The draft whose next instructions stand on `line`. -/
def onLine (d : Draft) (line : UInt32) : Draft := { d with line }

/-- The draft with one more instruction. -/
def op (d : Draft) (op : Op) : Draft := { d with instrs := d.instrs ++ [⟨d.line, op⟩] }

/-- The index of the unit that comes next, for a jump back to it. -/
def here (d : Draft) : UInt8 := oneByte d.instrs.length

/-- The draft with a call of `callee`, which becomes the last of the callees. -/
def call (d : Draft) (callee : RoutineId) : Draft :=
  { d with callees := d.callees ++ [callee] }.op (.call (oneByte d.callees.length))

/-- The block under the number `id`, without padding. -/
def build (d : Draft) (id : BlockId) : Block where
  id
  name := d.name
  file := d.file
  firstLine := d.firstLine
  generator := d.generator
  native := d.native
  instrs := d.instrs
  callees := d.callees

end Draft

end LineClock

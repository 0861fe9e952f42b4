import LineClock.Bytes

/-!
# Identities of blocks and lines

A block of code is known by the 64-bit FNV-1a hash of its instruction bytes, so all frames that
run the same bytes share one identity. A block that shows no bytes is known by the hash of its
own object number instead. A line of a block is known by the block's identity with the line
number folded in by exclusive or, an operation that undoes itself.
-/

namespace LineClock

/-- The identity of a block of code. -/
abbrev BlockHash := UInt64

/-- The identity of one line of one block. -/
abbrev LineIdentity := UInt64

namespace Fnv1a

/-- The hash of no bytes. -/
def basis : UInt64 := 0xcbf29ce484222325

/-- The multiplier of every step. -/
def prime : UInt64 := 0x100000001b3

/-- Fold one byte into a hash. -/
def step (h : UInt64) (byte : UInt8) : UInt64 := (h ^^^ byte.toUInt64) * prime

/-- The hash `h` carried on over `bytes`. -/
def extend (h : UInt64) (bytes : List UInt8) : UInt64 := bytes.foldl step h

/-- The hash of a byte string. -/
def hash (bytes : List UInt8) : UInt64 := extend basis bytes

end Fnv1a

namespace BlockHash

/-- The identity of a block with the given instruction bytes. -/
def ofBytes (bytes : List UInt8) : BlockHash := Fnv1a.hash bytes

/-- The identity of a block without instruction bytes, from the number of the block object. -/
def ofNative (id : UInt64) : BlockHash :=
  Fnv1a.hash (Bytes.ofString "native::" ++ Bytes.littleEndian id)

/-- The identity of line `line` of a block. -/
def line (block : BlockHash) (line : UInt32) : LineIdentity := block ^^^ line.toUInt64

end BlockHash

/-- The block that a line identity belongs to, given the line number. -/
def LineIdentity.block (identity : LineIdentity) (line : UInt32) : BlockHash :=
  identity ^^^ line.toUInt64

/-- The block is recovered from the identity of any of its lines. -/
theorem LineIdentity.block_line (block : BlockHash) (line : UInt32) :
    LineIdentity.block (BlockHash.line block line) line = block := by
  rw [LineIdentity.block, BlockHash.line, UInt64.xor_assoc, UInt64.xor_self, UInt64.xor_zero]

end LineClock

import LineClock.Assoc
import LineClock.Counter
import LineClock.Identity

/-!
# The tally of lines

A `Tally` charges time to lines. When a line of a block starts on a thread, the time since the
previous line event of that block on that thread goes to the previous line, with one hit; when the
block is left, the line that was running is charged in the same way and nothing stays pending. A
cell is found by the line's identity and, inside it, by the line number, so two lines whose
identities coincide never mix.
-/

namespace LineClock

/-- The key of a thread. -/
abbrev ThreadKey := Nat

/-- Hits and ticks of one line. -/
structure Cell where
  hits : Counter := 0
  ticks : Counter := 0
  deriving DecidableEq, Repr, Inhabited

/-- The last line event of a block on a thread: which line, and when. -/
structure Mark where
  line : UInt32
  ticks : Counter
  deriving DecidableEq, Repr, Inhabited

/-- One cell of a tally with where it belongs. -/
structure Sample where
  identity : LineIdentity
  line : UInt32
  cell : Cell
  deriving DecidableEq, Repr, Inhabited

/-- Samples by identity, then by line. -/
def Sample.le (a b : Sample) : Bool :=
  ((compare a.identity b.identity).then (compare a.line b.line)).isLE

/-- Time charged to lines, and what is still running. -/
structure Tally where
  /-- Line identity, then line number. -/
  cells : Assoc LineIdentity (Assoc UInt32 Cell) := {}
  /-- The running line of each thread and block. -/
  pending : Assoc (ThreadKey × BlockHash) Mark := {}
  deriving DecidableEq, Repr, Inhabited

namespace Tally

/-- Make room for a line that has not run yet. -/
def reserve (t : Tally) (identity : LineIdentity) : Tally :=
  if t.cells.contains identity then t else { t with cells := t.cells.set identity {} }

/-- Add hits and ticks to a cell. -/
def credit (t : Tally) (identity : LineIdentity) (line : UInt32) (hits ticks : Counter) : Tally :=
  let bucket := t.cells.getD identity {}
  let cell := bucket.getD line {}
  let cell := { hits := cell.hits.satAdd hits, ticks := cell.ticks.satAdd ticks }
  { t with cells := t.cells.set identity (bucket.set line cell) }

/-- One hit and the time from the mark until `now` go to the marked line. -/
def charge (t : Tally) (block : BlockHash) (mark : Mark) (now : Counter) : Tally :=
  t.credit (block.line mark.line) mark.line 1 (now.satSub mark.ticks)

/-- Charge what is pending for a block on a thread, if anything is. -/
def settle (t : Tally) (thread : ThreadKey) (block : BlockHash) (now : Counter) : Tally :=
  match t.pending.get? (thread, block) with
  | some mark => t.charge block mark now
  | none => t

/-- A line of a block starts on a thread. -/
def lineStarts (t : Tally) (thread : ThreadKey) (block : BlockHash) (line : UInt32)
    (now : Counter) : Tally :=
  let t := t.settle thread block now
  { t with pending := t.pending.set (thread, block) ⟨line, now⟩ }

/-- Drop what is pending for a block on a thread without charging it. -/
def forget (t : Tally) (thread : ThreadKey) (block : BlockHash) : Tally :=
  { t with pending := t.pending.erase (thread, block) }

/-- A block is left on a thread. -/
def blockLeft (t : Tally) (thread : ThreadKey) (block : BlockHash) (now : Counter) : Tally :=
  (t.settle thread block now).forget thread block

/-- Drop all that is pending on a thread. -/
def forgetThread (t : Tally) (thread : ThreadKey) : Tally :=
  { t with pending := ⟨t.pending.entries.filter fun e => e.1.1 ≠ thread⟩ }

/-- Hits and ticks of a line. -/
def get? (t : Tally) (identity : LineIdentity) (line : UInt32) : Option Cell :=
  (t.cells.get? identity).bind (·.get? line)

/-- Whether there is room for a line. -/
def contains (t : Tally) (identity : LineIdentity) : Bool := t.cells.contains identity

/-- How many line identities have room. -/
def size (t : Tally) : Nat := t.cells.entries.length

/-- What is pending on a thread. -/
def pendingOn (t : Tally) (thread : ThreadKey) : List (BlockHash × Mark) :=
  (t.pending.entries.filter fun e => e.1.1 = thread).map fun e => (e.1.2, e.2)

/-- Every cell with at least one hit. -/
def samples (t : Tally) : List Sample :=
  t.cells.entries.flatMap fun (identity, bucket) =>
    (bucket.entries.filter fun e => 0 < e.2.hits).map fun (line, cell) => ⟨identity, line, cell⟩

end Tally

end LineClock

import LineClock.Decimal
import LineClock.Error
import LineClock.Snapshot.Basic

/-!
# Merging snapshots

Snapshots are merged in the coarsest of their units. Times in that unit are added as they are; the
times of the others are rescaled, added as floating point numbers from the finest unit to the
coarsest, and rounded once at the end. A half rounds away from zero.
-/

namespace LineClock.Snapshot

/-- What is gathered for one line: hits, ticks in the unit of the result, and rescaled ticks. -/
structure Slot where
  hits : Counter := 0
  exact : Counter := 0
  scaled : Float := 0.0
  deriving DecidableEq, Inhabited

/-- The counter next to a number, a half going up: the largest one for what is too large, and zero
for what is negative or no number. -/
def nearest (x : Float) : Counter :=
  match Decimal.Binary.ofFloat? x with
  | none => if 0.0 < x then Counter.top else 0
  | some b => if b.negative then 0 else (min b.fraction.roundUp Counter.top.toNat).toUInt64

namespace Slot

/-- Add a row, whose ticks are rescaled by `factor` if there is one. -/
def add (s : Slot) (factor : Option Float) (r : Row) : Slot :=
  let s := { s with hits := s.hits.satAdd r.hits }
  match factor with
  | none => { s with exact := s.exact.satAdd r.ticks }
  | some f => { s with scaled := s.scaled + r.ticks.toFloat * f }

/-- The row of a line. -/
def row (line : UInt32) (s : Slot) : Row := ⟨line, s.hits, s.exact.satAdd (nearest s.scaled)⟩

end Slot

/-- The place of a number in the total order of floating point numbers: by sign, then by size, with
what is no number at the ends. -/
def rank (x : Float) : Nat :=
  let bits := x.toBits.toNat
  let half := 1 <<< 63
  if bits < half then half + bits else 2 * half - 1 - bits

/-- The coarser of two units. What is no number loses, and of equal units the second is taken. -/
def coarser (a b : Float) : Float := if b.isNaN then a else if b < a then a else b

/-- The coarsest unit of a list. -/
def coarsest? : List Float → Option Float
  | [] => none
  | u :: rest => some (rest.foldl coarser u)

/-- By how much ticks in `unit` are rescaled for a result in `target`. -/
def factor? (target unit : Float) : Option Float :=
  if 0.0 < target ∧ unit != target then some (unit / target) else none

/-- Slots of lines, by site. -/
abbrev Sums := Ordered Site (Ordered UInt32 Slot)

/-- Add the rows of a function to the slots of its lines. -/
def addRows (factor : Option Float) (slots : Ordered UInt32 Slot) (rows : List Row) :
    Ordered UInt32 Slot :=
  rows.foldl (fun slots r => slots.alter r.line fun s => (s.getD {}).add factor r) slots

/-- Add a snapshot to the slots. -/
def addTo (target : Float) (sums : Sums) (s : Snapshot) : Sums :=
  s.timings.entries.foldl (fun sums f =>
    sums.alter f.1 fun slots => addRows (factor? target s.unit) (slots.getD {}) f.2) sums

/-- Merge snapshots, if there are any. -/
def merge? (snapshots : List Snapshot) : Option Snapshot := do
  let unit ← coarsest? (snapshots.map Snapshot.unit)
  let finestFirst := snapshots.mergeSort fun a b => rank a.unit ≤ rank b.unit
  let sums := finestFirst.foldl (addTo unit) {}
  return ⟨unit, sums.mapValues fun slots => slots.entries.map fun e => e.2.row e.1⟩

/-- Merge snapshots. -/
def merge (snapshots : List Snapshot) : Except StatsError Snapshot :=
  match merge? snapshots with
  | some s => .ok s
  | none => .error .empty

/-- The sum of two snapshots. -/
def add (a b : Snapshot) : Snapshot := (merge? [a, b]).getD a

instance : Add Snapshot := ⟨add⟩

/-- Add a snapshot to one that is kept, in its place. -/
def accumulate (b : Snapshot) : StateM Snapshot Unit := do
  match merge? [← get, b] with
  | some merged => set merged
  | none => return ()

end LineClock.Snapshot

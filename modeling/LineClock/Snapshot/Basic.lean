import LineClock.Code.Block
import LineClock.Counter
import LineClock.Ordered

/-!
# Snapshots of timings

A `Snapshot` is what a profiler hands out: for each function, found by its `Site`, one `Row` per
source line with its hits and ticks, and the length of a tick in seconds. Sites are in the order of
file names, then first lines, then names. `Row.merged` puts rows into their standard form: one row
per line, in ascending order of lines, with saturating sums.
-/

namespace LineClock

/-- Where a profiled function stands. -/
structure Site where
  file : String
  firstLine : UInt32
  name : String
  deriving DecidableEq, Repr, Inhabited

namespace Site

/-- By file name, then first line, then name. -/
def order (a b : Site) : Ordering :=
  (compare a.file b.file).then ((compare a.firstLine b.firstLine).then (compare a.name b.name))

instance : Ord Site := ⟨order⟩

/-- Sites that compare equal are the same. -/
theorem eq_of_order {a b : Site} (h : a.order b = .eq) : a = b := by
  obtain ⟨file, firstLine, name⟩ := a
  obtain ⟨file', firstLine', name'⟩ := b
  simp only [order, Ordering.then_eq_eq, Std.LawfulEqOrd.compare_eq_iff_eq] at h
  obtain ⟨rfl, rfl, rfl⟩ := h
  rfl

theorem order_self (a : Site) : a.order a = .eq := by
  simp only [order, Ordering.then_eq_eq, Std.LawfulEqOrd.compare_eq_iff_eq, and_self]

instance : Std.LawfulEqOrd Site where
  compare_self := order_self _
  eq_of_compare := eq_of_order

instance : Std.TransOrd Site :=
  inferInstanceAs (Std.TransCmp (compareLex (compareOn Site.file)
    (compareLex (compareOn Site.firstLine) (compareOn Site.name))))

/-- The site of a block. -/
def ofBlock (b : Block) : Site := ⟨b.file, b.firstLine, b.name⟩

/-- The site as text. -/
def describe (s : Site) : String := s!"{s.file}:{s.firstLine.toNat} - {s.name}"

end Site

/-- Hits and ticks of one source line. -/
structure Row where
  line : UInt32
  hits : Counter
  ticks : Counter
  deriving DecidableEq, Repr, Inhabited

namespace Row

/-- Add a row to an ascending list of rows: to the row of its line, or at its place. -/
def addTo (row : Row) : List Row → List Row
  | [] => [row]
  | r :: rest =>
    if row.line < r.line then row :: r :: rest
    else if row.line = r.line then
      { r with hits := r.hits.satAdd row.hits, ticks := r.ticks.satAdd row.ticks } :: rest
    else r :: addTo row rest

/-- One row per line, ascending, with the saturating sums of the rows of that line. -/
def merged (rows : List Row) : List Row := rows.foldl (fun acc row => row.addTo acc) []

/-- The saturating sum of the ticks. -/
def totalTicks (rows : List Row) : Counter := Counter.sum (rows.map Row.ticks)

end Row

/-- Timings of functions, and the seconds per tick. -/
structure Snapshot where
  unit : Float
  timings : Ordered Site (List Row) := {}
  deriving DecidableEq, Inhabited

namespace Snapshot

/-- The rows of a site. -/
def get? (s : Snapshot) (site : Site) : Option (List Row) := s.timings.get? site

/-- The rows of the first site with a given name. -/
def byName? (s : Snapshot) (name : String) : Option (List Row) :=
  (s.timings.entries.find? fun e => e.1.name = name).map Prod.snd

/-- Whether no function is listed. -/
def isEmpty (s : Snapshot) : Bool := s.timings.entries.isEmpty

/-- The total time of a function in seconds. -/
def totalSeconds (s : Snapshot) (site : Site) : Float :=
  match s.get? site with
  | none => 0.0
  | some rows => (rows.foldl (fun sum r => sum + r.ticks.toFloat) (-0.0)) * s.unit

/-- A snapshot from rows filed under sites, as they stand; of a repeated site the last counts. -/
def ofList (unit : Float) (functions : List (Site × List Row)) : Snapshot :=
  ⟨unit, Ordered.ofList functions⟩

/-- A snapshot from rows filed under sites in any order: rows of one site are put together and
merged. -/
def ofFunctions (unit : Float) (functions : List (Site × List Row)) : Snapshot :=
  let filed : Ordered Site (List Row) :=
    functions.foldl (fun m f => m.alter f.1 fun rows => rows.getD [] ++ f.2) {}
  ⟨unit, filed.mapValues Row.merged⟩

end Snapshot

end LineClock

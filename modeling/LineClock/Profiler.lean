import LineClock.Snapshot.Basic
import LineClock.Source.Index
import LineClock.Tally
import LineClock.Registry.Basic

/-!
# Profilers

A profiler watches blocks by their identity and keeps a tally of their lines. Its snapshot lists
every site it watches, with the rows of all blocks that stand there.
-/

namespace LineClock

/-- The clock a profiler reads. -/
inductive Timepiece where
  /-- The machine's clock. -/
  | shared
  /-- A clock that stands at zero. -/
  | frozen
  deriving DecidableEq, Repr, Inhabited

/-- A watched block. -/
structure Watch where
  site : Site
  lines : List UInt32
  deriving DecidableEq, Repr, Inhabited

/-- Watched blocks and their times. -/
structure Profiler where
  registry : RegistryId
  wrap : Bool
  clock : Timepiece := .shared
  sources : Sources := .files
  tally : Tally := {}
  blocks : Assoc BlockHash Watch := {}
  /-- The identities watched at each site. -/
  sites : Ordered Site (List BlockHash) := {}
  /-- The routines that were added, oldest first. -/
  routines : List RoutineId := []
  deriving DecidableEq, Inhabited

namespace Profiler

/-- Seconds per tick. -/
def unit : Float := 1e-9

/-- Whether line events of a block count. -/
def watches (p : Profiler) (block : BlockHash) : Bool := p.blocks.contains block

/-- Lines from `first` on; there is no line after the last line number. -/
def span (first : UInt32) (length : Nat) : List UInt32 :=
  (List.range (min length (0xffffffff - first.toNat))).map fun i => first + i.toUInt32

/-- Why a block cannot be watched whatever the source text is. -/
def refusal? (block : Block) : Option ProfilerError :=
  if ¬ block.native ∧ block.bytes = [] then
    some (.introspection block.name "code block has no instructions")
  else
    none

/-- The lines of a block: those of its instructions, or where it shows none those of its source
text. -/
def linesOf (files : Files) (block : Block) : ExceptT ProfilerError (StateM Profiler) (List UInt32) := do
  if block.native then
    let p ← get
    let (text, sources) := p.sources.lookup files block.file
    set { p with sources }
    match text.bind (Source.blockLength? · block.firstLine) with
    | some length => pure (span block.firstLine length)
    | none => throw (.source block.name block.file block.firstLine)
  else
    match refusal? block with
    | some e => throw e
    | none => pure block.lines

/-- Put a block under watch with the given lines. -/
def enter (p : Profiler) (block : Block) (lines : List UInt32) : Profiler :=
  let hash := block.identity
  let site := Site.ofBlock block
  { p with
    tally := lines.foldl (fun t l => t.reserve (hash.line l)) p.tally
    blocks := p.blocks.set hash { site, lines }
    sites := p.sites.alter site fun hashes =>
      let hashes := hashes.getD []
      if hashes.contains hash then hashes else hashes ++ [hash] }

/-- Watch a block; the answer says whether it was not watched before. -/
def watch (files : Files) (block : Block) : ExceptT ProfilerError (StateM Profiler) Bool := do
  if (← get).watches block.identity then
    return false
  let lines ← linesOf files block
  modify fun p => p.enter block lines
  return true

/-- Note that a routine was added. -/
def addRoutine (p : Profiler) (routine : RoutineId) : Profiler :=
  if p.routines.contains routine then p else { p with routines := p.routines ++ [routine] }

/-- A line of a block starts on a thread. -/
def lineStarts (p : Profiler) (thread : ThreadKey) (block : BlockHash) (line : UInt32)
    (now : Counter) : Profiler :=
  if p.watches block then { p with tally := p.tally.lineStarts thread block line now } else p

/-- A block is left on a thread. -/
def blockLeft (p : Profiler) (thread : ThreadKey) (block : BlockHash) (now : Counter) : Profiler :=
  if p.watches block then { p with tally := p.tally.blockLeft thread block now } else p

/-- The site and the row of a sample, if its block is watched. -/
def row? (p : Profiler) (s : Sample) : Option (Site × Row) :=
  (p.blocks.get? (s.identity.block s.line)).map fun w =>
    (w.site, ⟨s.line, s.cell.hits, s.cell.ticks⟩)

/-- The rows recorded for a site, one per line. -/
def rowsAt (p : Profiler) (site : Site) : List Row :=
  Row.merged ((p.tally.samples.filterMap p.row?).filterMap fun r =>
    if r.1 = site then some r.2 else none)

/-- Everything recorded so far. A site that never ran is listed without rows. -/
def snapshot (p : Profiler) : Snapshot :=
  ⟨unit, ⟨p.sites.keys.map fun site => (site, p.rowsAt site)⟩⟩

end Profiler

end LineClock

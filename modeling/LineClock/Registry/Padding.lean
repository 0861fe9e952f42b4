import LineClock.Assoc
import LineClock.Code.Block

/-!
# Keeping equal bodies apart

Two blocks with the same bytes would share every line identity. Before a block is watched it is
admitted to the registry's `Padding`: where blocks with the same unpadded bytes were admitted
before, it is replaced by a copy with one unit of padding more than the most padded of them. A
block that was admitted stays as it is ever after.
-/

namespace LineClock

/-- The number of a profiler. -/
abbrev ProfilerId := Nat

/-- What a registry remembers of a routine. -/
structure Enrolment where
  /-- The block the routine had when it was last enrolled. -/
  block : BlockId
  /-- The profilers that watch the routine, oldest first. -/
  watchers : List ProfilerId := []
  deriving DecidableEq, Repr, Inhabited

/-- The blocks a registry has admitted. -/
structure Padding where
  /-- The padding of every admitted block, by the hash of its unpadded bytes. -/
  shapes : Assoc BlockHash (List Nat) := {}
  /-- The admitted blocks. -/
  known : List BlockId := []
  enrolled : Assoc RoutineId Enrolment := {}
  deriving DecidableEq, Inhabited

namespace Padding

/-- How many units of padding keep a block apart from admitted blocks with the given padding. -/
def distance (siblings : List Nat) (own : Nat) : Nat :=
  match siblings.max? with
  | none => own
  | some most => most + 1

/-- Place a block among those of its shape. Where it needs other padding than it has, it becomes a
copy under the number `id`. -/
def place (p : Padding) (block : Block) (id : BlockId) : Block × Padding :=
  if block.native then (block, p)
  else
    let shape := BlockHash.ofBytes block.strippedBytes
    let siblings := p.shapes.getD shape []
    let units := distance siblings block.padding
    let placed := if units = block.padding then block else block.withPadding units id
    (placed, { p with shapes := p.shapes.set shape (siblings ++ [placed.padding]) })

/-- Admit a block: as it is if it was admitted before, placed among those of its shape if not. -/
def accept (p : Padding) (block : Block) (id : BlockId) : Block × Padding :=
  if p.known.contains block.id then (block, p)
  else
    let (placed, p) := p.place block id
    (placed, { p with known := placed.id :: p.known })

/-- Enrol `watcher` for a routine whose block is `before` and has been admitted as `after`. The
answer lists the other watchers that have to follow the routine to another block. -/
def enrol (p : Padding) (routine : RoutineId) (before after : BlockId) (watcher : ProfilerId) :
    List ProfilerId × Padding :=
  let record := p.enrolled.getD routine { block := before }
  let others := record.watchers.filter fun w => w ≠ watcher
  let watchers := if record.watchers.contains watcher then record.watchers else record.watchers ++ [watcher]
  (if record.block = after then [] else others,
    { p with enrolled := p.enrolled.set routine { block := after, watchers } })

end Padding

end LineClock

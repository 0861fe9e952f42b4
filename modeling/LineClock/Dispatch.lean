import LineClock.Machine.Facility
import LineClock.Registry.Padding

/-!
# Profilers of a thread

A thread keeps one `Dispatch` per registry: which profilers are on and how often each was switched
on, whether a hook of somebody else is running, and what became of the thread's trace slot.
-/

namespace LineClock

/-- What a thread knows of a registry. -/
structure Dispatch where
  /-- The profilers that are on with their counts, oldest first. -/
  active : List (ProfilerId × Nat) := []
  /-- Set while a hook that is not a profiler's runs; events that arrive meanwhile are let pass. -/
  busy : Bool := false
  /-- Whether the registry listens on this thread. -/
  activated : Bool := false
  /-- What goes back into the trace slot in the end. -/
  saved : Option TraceHook := none
  /-- The hook to which events go on. -/
  wrapped : Option TraceHook := none
  /-- The profilers' own hook in the trace slot. -/
  ours : Option TraceHook := none
  /-- Frames whose line events the wrapped hook does not want. -/
  muted : List FrameId := []
  deriving DecidableEq, Repr, Inhabited

namespace Dispatch

/-- How often a profiler is switched on. -/
def countOf (d : Dispatch) (p : ProfilerId) : Nat :=
  ((d.active.find? fun a => a.1 = p).map Prod.snd).getD 0

/-- Whether a profiler is on. -/
def isOn (d : Dispatch) (p : ProfilerId) : Bool := d.active.any fun a => a.1 = p

/-- Whether any profiler is on. -/
def isActive (d : Dispatch) : Bool := !d.active.isEmpty

/-- The counts after `p` is switched on once more. -/
def raise (d : Dispatch) (p : ProfilerId) : Dispatch :=
  if d.isOn p then
    { d with active := d.active.map fun a => if a.1 = p then (p, a.2 + 1) else a }
  else
    { d with active := d.active ++ [(p, 1)] }

/-- The counts with that of `p` set to `n`; a profiler with count zero is off. -/
def lower (d : Dispatch) (p : ProfilerId) (n : Nat) : Dispatch :=
  if n = 0 then { d with active := d.active.filter fun a => a.1 ≠ p }
  else { d with active := d.active.map fun a => if a.1 = p then (p, n) else a }

/-- Keep line events of a frame from the wrapped hook. -/
def mute (d : Dispatch) (frame : FrameId) : Dispatch :=
  if d.muted.contains frame then d else { d with muted := frame :: d.muted }

/-- Forget that a frame was muted. -/
def unmute (d : Dispatch) (frame : FrameId) : Dispatch :=
  { d with muted := d.muted.filter fun id => id ≠ frame }

theorem raise_eq (d : Dispatch) (p : ProfilerId) :
    d.raise p = { d with active := (d.raise p).active } := by
  unfold raise
  split <;> rfl

theorem lower_eq (d : Dispatch) (p : ProfilerId) (n : Nat) :
    d.lower p n = { d with active := (d.lower p n).active } := by
  unfold lower
  split <;> rfl

/-- Who is on afterwards depends only on who was on. -/
theorem active_raise (d : Dispatch) (p : ProfilerId) :
    (d.raise p).active = (({ active := d.active } : Dispatch).raise p).active := by
  have same : ({ active := d.active } : Dispatch).isOn p = d.isOn p := rfl
  unfold raise
  rw [same]
  split <;> rfl

theorem active_lower (d : Dispatch) (p : ProfilerId) (n : Nat) :
    (d.lower p n).active = (({ active := d.active } : Dispatch).lower p n).active := by
  unfold lower
  split <;> rfl

theorem isActive_eq_false_iff {d : Dispatch} : d.isActive = false ↔ d.active = [] := by
  unfold isActive
  cases d.active <;> simp

theorem isActive_iff_ne_nil {d : Dispatch} : d.isActive = true ↔ d.active ≠ [] := by
  rw [← Bool.not_eq_false, isActive_eq_false_iff]

/-- Once a profiler was switched on, one is on. -/
theorem isActive_raise (d : Dispatch) (p : ProfilerId) : (d.raise p).isActive = true := by
  unfold raise
  split
  · rename_i on
    unfold isOn at on
    cases h : d.active with
    | nil => simp [h] at on
    | cons a rest => simp [isActive]
  · simp [isActive]

/-- A profiler that is not on was switched on no time. -/
theorem countOf_of_not_isOn {d : Dispatch} {p : ProfilerId} (off : d.isOn p = false) :
    d.countOf p = 0 := by
  unfold isOn at off
  rw [List.any_eq_false] at off
  have none : d.active.find? (fun a => a.1 = p) = none := List.find?_eq_none.mpr off
  unfold countOf
  rw [none]
  rfl

/-- Where a profiler is on, one is on. -/
theorem isActive_of_isOn {d : Dispatch} {p : ProfilerId} (on : d.isOn p = true) :
    d.isActive = true := by
  unfold isOn at on
  unfold isActive
  cases h : d.active with
  | nil => simp [h] at on
  | cons a rest => rfl

end Dispatch

end LineClock

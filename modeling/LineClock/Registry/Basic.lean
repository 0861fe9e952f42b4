import LineClock.Backend
import LineClock.Machine.Facility
import LineClock.Registry.Padding

/-!
# Registries

A registry is what profilers share: the way they listen, the padding that keeps blocks apart, and,
where they listen through the tool id, what they took over from the tool that held it.
-/

namespace LineClock

/-- The name under which profilers claim the tool id. -/
def toolName : String := "lineprof"

/-- The kinds that profilers register callbacks for, in the order in which they do. -/
def ourKinds : List EventKind := [.line, .ret, .yield, .raise, .reraise, .unwind]

/-- The kinds that profilers subscribe to. -/
def ourEvents : EventSet := .ofList ourKinds

theorem contains_ourEvents (kind : EventKind) : ourEvents.contains kind = ourKinds.contains kind :=
  EventSet.contains_ofList ourKinds kind

/-- Who subscribes to the profilers' kinds as well hears of them. -/
theorem contains_widened (events : EventSet) {kind : EventKind} (mem : kind ∈ ourKinds) :
    (events.union ourEvents).contains kind = true := by
  rw [EventSet.contains_union, contains_ourEvents, List.contains_iff_mem.mpr mem, Bool.or_true]

/-- Of other kinds it hears as before. -/
theorem contains_widened_other (events : EventSet) {kind : EventKind} (out : kind ∉ ourKinds) :
    (events.union ourEvents).contains kind = events.contains kind := by
  have out : ourKinds.contains kind = false :=
    Bool.eq_false_iff.mpr fun there => out (List.contains_iff_mem.mp there)
  rw [EventSet.contains_union, contains_ourEvents, out, Bool.or_false]

theorem widened_again (events : EventSet) :
    (events.union ourEvents).union ourEvents = events.union ourEvents := by
  refine EventSet.ext_contains fun kind => ?_
  rw [EventSet.contains_union, EventSet.contains_union, Bool.or_assoc, Bool.or_self]

/-- The tool id as profilers hold it, and what they keep of the tool that had it before. -/
structure ToolShare where
  /-- On how many threads a profiler is on. -/
  threads : Nat := 0
  /-- Whether the id was claimed for the profilers when the first of them was switched on. -/
  owned : Bool := false
  ours : Assoc EventKind ToolHook := {}
  wrapped : Assoc EventKind ToolHook := {}
  /-- The kinds the wrapped tool subscribes to. -/
  wrappedEvents : EventSet := .empty
  /-- Where the wrapped tool wants to hear no more. -/
  disabled : List Location := []
  /-- The number of restarts that `disabled` belongs to. -/
  seenRestart : Nat := 0
  /-- Whether the id was claimed again after the wrapped tool had let it go. -/
  reclaimed : Bool := false
  deriving DecidableEq, Repr, Inhabited

/-- What profilers share. -/
structure Registry where
  backend : Backend
  /-- Whether events go on to the hooks that were there before, if a profiler does not say. -/
  wrap : Bool := false
  /-- Whether calls of the facility can be refused. -/
  guarded : Bool := false
  padding : Padding := {}
  share : ToolShare := {}
  /-- Set once nobody holds the registry any more. -/
  released : Bool := false
  deriving DecidableEq, Inhabited

end LineClock

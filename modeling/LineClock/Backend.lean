/-!
# Ways of listening

A registry listens to the machine in one of two ways: through the trace slot of each thread, or
through a tool id of the monitoring facility. Which one is chosen when the registry is made.
-/

namespace LineClock

/-- How a registry listens. -/
inductive Backend where
  /-- Through the trace slot of the thread. -/
  | slot
  /-- Through the profilers' tool id of the monitoring facility. -/
  | tool
  deriving DecidableEq, Repr, Inhabited

/-- The word for a backend. -/
def Backend.name : Backend → String
  | slot => "legacy"
  | tool => "monitoring"

/-- A wish for a backend. -/
inductive BackendChoice where
  /-- The facility where there is one, the slot elsewhere. -/
  | auto
  | fixed (backend : Backend)
  deriving DecidableEq, Repr, Inhabited

/-- The word for a wish. -/
def BackendChoice.name : BackendChoice → String
  | auto => "auto"
  | fixed b => b.name

/-- The backend for a wish on a machine, if the machine can fulfil it. -/
def BackendChoice.pick? (choice : BackendChoice) (monitored : Bool) : Option Backend :=
  match choice with
  | auto => some (if monitored then .tool else .slot)
  | fixed .slot => some .slot
  | fixed .tool => if monitored then some .tool else none

end LineClock

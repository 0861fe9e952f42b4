/-!
# Options of a report

Which parts a report has, in which unit and in which order, and how wide its columns are.
-/

namespace LineClock

/-- The widths of the columns of numbers. -/
structure Widths where
  line : Nat := 6
  hits : Nat := 9
  time : Nat := 12
  perHit : Nat := 8
  percent : Nat := 8
  deriving DecidableEq, Repr, Inhabited

namespace Report

/-- What a report shows. -/
structure Options where
  /-- Seconds per unit of the times shown, the unit of the timings if absent. -/
  outputUnit : Option Float := none
  /-- Leave out functions without recorded time. -/
  stripZeros : Bool := false
  /-- Show a table for each function. -/
  details : Bool := true
  /-- End with a line for each function. -/
  summarize : Bool := false
  /-- Functions in ascending order of their total time instead of by place. -/
  sort : Bool := false
  widths : Widths := {}
  deriving Inhabited

end Report

end LineClock

import LineClock.Code.Block

/-!
# Events

What the machine announces while it runs. A trace hook sees four kinds of events of a live frame;
the monitoring facility knows seven kinds, which a tool subscribes to as an `EventSet`.
-/

namespace LineClock

/-- The number of a frame. -/
abbrev FrameId := Nat

/-- A live frame as a trace hook sees it. -/
structure Frame where
  id : FrameId
  block : Block
  /-- The line that is executing. -/
  line : UInt32
  /-- The unit that is executing. -/
  offset : Nat := 0
  /-- Whether line events are delivered for this frame. -/
  linesOn : Bool := true
  /-- Set while a return event reports that a generator yields. -/
  suspended : Bool := false
  deriving DecidableEq, Repr, Inhabited

/-- The events of the trace hook. -/
inductive TraceEvent where
  /-- A frame is entered, also when a generator is resumed. -/
  | call
  /-- A line is about to run. -/
  | line
  /-- A frame is left by return, yield or unwinding. -/
  | ret
  /-- An exception was raised or passes through. -/
  | exception
  deriving DecidableEq, Repr, Inhabited

/-- The word for a trace event. -/
def TraceEvent.name : TraceEvent → String
  | call => "call"
  | line => "line"
  | ret => "return"
  | exception => "exception"

/-- The kinds of monitoring events. -/
inductive EventKind where
  | start
  | line
  | ret
  | yield
  | raise
  | reraise
  | unwind
  deriving DecidableEq, Repr, Inhabited

namespace EventKind

/-- All kinds, in the order of their bits. -/
def all : List EventKind := [start, line, ret, yield, raise, reraise, unwind]

/-- The word for a kind. -/
def name : EventKind → String
  | start => "PyStart"
  | line => "Line"
  | ret => "PyReturn"
  | yield => "PyYield"
  | raise => "Raise"
  | reraise => "Reraise"
  | unwind => "PyUnwind"

/-- The kind with a given word. -/
def ofName? (s : String) : Option EventKind := all.find? fun k => k.name = s

/-- Whether a tool may switch off events of this kind at a location. -/
def canDisable : EventKind → Bool
  | raise | reraise => false
  | _ => true

theorem mem_all (k : EventKind) : k ∈ all := by cases k <;> decide

end EventKind

/-- A set of kinds. -/
structure EventSet where
  start : Bool := false
  line : Bool := false
  ret : Bool := false
  yield : Bool := false
  raise : Bool := false
  reraise : Bool := false
  unwind : Bool := false
  deriving DecidableEq, Repr, Inhabited

namespace EventSet

/-- The set of no kinds. -/
def empty : EventSet := {}

/-- Whether a kind is in the set. -/
def contains (s : EventSet) : EventKind → Bool
  | .start => s.start
  | .line => s.line
  | .ret => s.ret
  | .yield => s.yield
  | .raise => s.raise
  | .reraise => s.reraise
  | .unwind => s.unwind

/-- The set of the kinds that satisfy `p`. -/
def filter (p : EventKind → Bool) : EventSet :=
  ⟨p .start, p .line, p .ret, p .yield, p .raise, p .reraise, p .unwind⟩

/-- The set of the kinds in a list. -/
def ofList (kinds : List EventKind) : EventSet := filter fun k => kinds.contains k

/-- The kinds in either set. -/
def union (a b : EventSet) : EventSet := filter fun k => a.contains k || b.contains k

/-- The kinds of `a` that are not in `b`. -/
def without (a b : EventSet) : EventSet := filter fun k => a.contains k && !b.contains k

/-- The kinds of the set in the order of their bits. -/
def toList (s : EventSet) : List EventKind := EventKind.all.filter s.contains

/-- Whether no kind is in the set. -/
def isEmpty (s : EventSet) : Bool := s = empty

/-- The set as a number, the first kind in the lowest bit. -/
def bits (s : EventSet) : Nat :=
  EventKind.all.foldr (fun k n => (if s.contains k then 1 else 0) + 2 * n) 0

/-- The set written out, kinds between braces. -/
def describe (s : EventSet) : String :=
  "\x7b" ++ ", ".intercalate (s.toList.map EventKind.name) ++ "\x7d"

@[simp] theorem contains_filter (p : EventKind → Bool) (k : EventKind) :
    (filter p).contains k = p k := by
  cases k <;> rfl

@[simp] theorem contains_empty (k : EventKind) : empty.contains k = false := by cases k <;> rfl

@[simp] theorem contains_union (a b : EventSet) (k : EventKind) :
    (a.union b).contains k = (a.contains k || b.contains k) :=
  contains_filter _ k

@[simp] theorem contains_without (a b : EventSet) (k : EventKind) :
    (a.without b).contains k = (a.contains k && !b.contains k) :=
  contains_filter _ k

@[simp] theorem contains_ofList (l : List EventKind) (k : EventKind) :
    (ofList l).contains k = l.contains k :=
  contains_filter _ k

/-- Sets with the same kinds are equal. -/
theorem ext_contains {a b : EventSet} (h : ∀ k, a.contains k = b.contains k) : a = b := by
  obtain ⟨a₁, a₂, a₃, a₄, a₅, a₆, a₇⟩ := a
  obtain ⟨b₁, b₂, b₃, b₄, b₅, b₆, b₇⟩ := b
  have h₁ := h .start
  have h₂ := h .line
  have h₃ := h .ret
  have h₄ := h .yield
  have h₅ := h .raise
  have h₆ := h .reraise
  have h₇ := h .unwind
  simp only [contains] at h₁ h₂ h₃ h₄ h₅ h₆ h₇
  simp [h₁, h₂, h₃, h₄, h₅, h₆, h₇]

end EventSet

/-- One monitoring event: a kind at a unit of a block, and the unit's line. -/
structure MonitorEvent where
  kind : EventKind
  block : Block
  offset : Nat
  line : UInt32
  deriving DecidableEq, Repr, Inhabited

/-- What a tool's callback asks for. -/
inductive MonitorAction where
  | goOn
  /-- Deliver this kind at this location no more until the next restart. -/
  | disable
  deriving DecidableEq, Repr, Inhabited

end LineClock

import LineClock.Assoc
import LineClock.Error
import LineClock.Machine.Event

/-!
# Hooks and the monitoring facility

A hook is a value: a script, a profiler's own hook, or a layer that answers for a tool's callback
at the locations which the tool had switched off. The `Facility` is the table of tool ids shared by
all threads: who holds an id, which kinds it subscribes to, which callback it registered for each
kind, and at which locations a callback asked to hear no more until the next restart.
-/

namespace LineClock

/-- The number of a registry. -/
abbrev RegistryId := Nat

/-- The number of a script. -/
abbrev ScriptId := Nat

/-- What can stand in a thread's trace slot. The profiler's hook has a serial number, so the hooks
of two activations differ. -/
inductive TraceHook where
  | script (id : ScriptId)
  | profiler (registry : RegistryId) (serial : Nat)
  deriving DecidableEq, Repr, Inhabited

/-- What a tool can register for a kind of event. -/
inductive ToolHook where
  | script (id : ScriptId)
  | profiler (registry : RegistryId) (serial : Nat)
  /-- The hook `wrapped`, with `disable` answered for it at `locations` as long as the facility has
  not been restarted since `version`. -/
  | replay (wrapped : ToolHook) (locations : List (BlockId × Nat)) (version : Nat)
      (registry : RegistryId)
  deriving DecidableEq, Repr, Inhabited

/-- The number of a tool slot. -/
abbrev ToolId := UInt8

/-- A unit of a block and a kind of event there. -/
structure Location where
  block : BlockId
  offset : Nat
  kind : EventKind
  deriving DecidableEq, Repr, Inhabited

/-- The location of an event. -/
def MonitorEvent.location (e : MonitorEvent) : Location := ⟨e.block.id, e.offset, e.kind⟩

/-- The table of tool ids. -/
structure Facility where
  /-- The holder's name of each id in use. -/
  holders : Assoc ToolId String := {}
  events : Assoc ToolId EventSet := {}
  callbacks : Assoc (ToolId × EventKind) ToolHook := {}
  /-- Locations switched off for a tool. -/
  disabled : List (ToolId × Location) := []
  /-- How often the facility was restarted. -/
  restarts : Nat := 0
  deriving DecidableEq, Repr, Inhabited

namespace Facility

/-- How many tool ids there are. -/
def toolCount : Nat := 6

/-- The id that profilers use. -/
def profilerTool : ToolId := 2

/-- The ids in ascending order. -/
def toolIds : List ToolId := (List.range toolCount).map Nat.toUInt8

/-- Refuse an id outside the table. -/
def check (tool : ToolId) : Except HostError Unit :=
  if tool.toNat < toolCount then .ok () else .error (.invalidTool tool)

/-- The holder of an id. -/
def holder? (f : Facility) (tool : ToolId) : Option String := f.holders.get? tool

/-- The kinds a tool subscribes to. -/
def eventsOf (f : Facility) (tool : ToolId) : EventSet := f.events.getD tool .empty

/-- The callback of a tool for a kind. -/
def callback? (f : Facility) (tool : ToolId) (kind : EventKind) : Option ToolHook :=
  f.callbacks.get? (tool, kind)

/-- Whether a location is switched off for a tool. -/
def isDisabled (f : Facility) (tool : ToolId) (location : Location) : Bool :=
  f.disabled.contains (tool, location)

/-- Claim an id under a name. -/
def claim (f : Facility) (tool : ToolId) (name : String) : Except HostError Facility := do
  check tool
  if (f.holder? tool).isSome then throw (.toolInUse tool)
  return { f with holders := f.holders.set tool name }

/-- Release an id together with all its holder left there. -/
def free (f : Facility) (tool : ToolId) : Facility where
  holders := f.holders.erase tool
  events := f.events.erase tool
  callbacks := ⟨f.callbacks.entries.filter fun e => e.1.1 ≠ tool⟩
  disabled := f.disabled.filter fun d => d.1 ≠ tool
  restarts := f.restarts

/-- Register a callback, or none, for a kind; the answer is the one that was there. The id need
not be held. -/
def register (f : Facility) (tool : ToolId) (kind : EventKind) (hook : Option ToolHook) :
    Except HostError (Option ToolHook × Facility) := do
  check tool
  let callbacks :=
    match hook with
    | some h => f.callbacks.set (tool, kind) h
    | none => f.callbacks.erase (tool, kind)
  return (f.callback? tool kind, { f with callbacks })

/-- The kinds a tool subscribes to, for an id in the table. -/
def getEvents (f : Facility) (tool : ToolId) : Except HostError EventSet := do
  check tool
  return f.eventsOf tool

/-- Subscribe the holder of an id to exactly the given kinds. -/
def setEvents (f : Facility) (tool : ToolId) (events : EventSet) : Except HostError Facility := do
  check tool
  if (f.holder? tool).isNone then throw (.toolNotInUse tool)
  return { f with events := f.events.set tool events }

/-- Switch off a location for a tool. -/
def disable (f : Facility) (tool : ToolId) (location : Location) : Facility :=
  if f.isDisabled tool location then f else { f with disabled := (tool, location) :: f.disabled }

/-- Empty a tool's event set. -/
def silence (f : Facility) (tool : ToolId) : Facility := { f with events := f.events.set tool .empty }

/-- Switch every location on again. -/
def restart (f : Facility) : Facility := { f with disabled := [], restarts := f.restarts + 1 }

/-- Which tools an event is delivered to, and through which callback, in ascending order of ids. -/
def targets (f : Facility) (event : MonitorEvent) : List (ToolId × ToolHook) :=
  toolIds.filterMap fun tool =>
    if (f.eventsOf tool).contains event.kind ∧ ¬ f.isDisabled tool event.location then
      (f.callback? tool event.kind).map fun hook => (tool, hook)
    else
      none

end Facility

end LineClock

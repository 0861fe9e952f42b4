import LineClock.Backend
import LineClock.Report.Options
import LineClock.Text.Basic

/-!
# Settings

Settings start from defaults. A layer mentions some of them and leaves the others alone, so of
several layers on one another the last that mentions a setting decides it. The widths of columns are
one setting: a layer that mentions any of them sets them all.

Settings are written as words: yes, no, and the names of backends. Blanks around a word and the case
of its letters do not matter.
-/

namespace LineClock

/-- What a user can set. -/
structure Settings where
  /-- Pass events on to whoever listened before. -/
  wrapTrace : Bool := false
  backend : BackendChoice := .auto
  /-- Seconds per unit of the times that a report shows. -/
  outputUnit : Option Float := none
  debug : Bool := false
  widths : Widths := {}
  deriving Inhabited

namespace Settings

/-- The settings that a layer mentions. -/
structure Layer where
  wrapTrace : Option Bool := none
  backend : Option BackendChoice := none
  outputUnit : Option Float := none
  debug : Option Bool := none
  widths : Option Widths := none
  deriving Inhabited

/-- The settings with a layer on them. -/
def overlay (s : Settings) (layer : Layer) : Settings where
  wrapTrace := layer.wrapTrace.getD s.wrapTrace
  backend := layer.backend.getD s.backend
  outputUnit := layer.outputUnit.or s.outputUnit
  debug := layer.debug.getD s.debug
  widths := layer.widths.getD s.widths

/-- A layer that mentions nothing changes nothing. -/
@[simp] theorem overlay_empty (s : Settings) : s.overlay {} = s := rfl

end Settings

/-! ## Words -/

/-- A word that names no backend. -/
structure UnknownBackend where
  word : String
  deriving DecidableEq, Repr, Inhabited

def UnknownBackend.message (e : UnknownBackend) : String := s!"unknown backend `{e.word}`"

/-- The backend with a name; each has two. -/
def Backend.named? (name : String) : Option Backend :=
  if name = "legacy" ∨ name = "ctrace" then some .slot
  else if name = "monitoring" ∨ name = "sysmon" then some .tool
  else none

/-- The wish with a name. -/
def BackendChoice.named? (name : String) : Option BackendChoice :=
  if name = "auto" then some .auto else (Backend.named? name).map .fixed

/-- The backend that a word names. -/
def Backend.ofWord (word : String) : Except UnknownBackend Backend :=
  match named? (Text.folded word) with
  | some b => .ok b
  | none => .error ⟨Text.folded word⟩

/-- The wish that a word names; an empty word leaves the choice to the machine. -/
def BackendChoice.ofWord (word : String) : Except UnknownBackend BackendChoice :=
  if Text.folded word = "" then .ok .auto
  else match named? (Text.folded word) with
    | some choice => .ok choice
    | none => .error ⟨Text.folded word⟩

/-- The words for yes. -/
def yesWords : List String := ["1", "true", "on", "yes"]

/-- The words for no; an empty word is one of them. -/
def noWords : List String := ["0", "false", "off", "no", ""]

/-- What a word says, if it says yes or no. -/
def flag? (word : String) : Option Bool :=
  if yesWords.contains (Text.folded word) then some true
  else if noWords.contains (Text.folded word) then some false
  else none

end LineClock

import LineClock.Settings.Basic
import LineClock.Toml.Reader

/-!
# Settings from a document

A layer is written as a TOML table of sections with keys. A section takes its own keys only; it may
also be written as a list of its values in order, of which any number can be left out at the end.
-/

namespace LineClock

namespace Settings

/-- The values of a section by key, if no other key stands in it. -/
def section? (keys : List String) : Toml → Option (String → Option Toml)
  | .table _ entries =>
    if entries.all fun e => keys.contains e.1 then some (Toml.lookup · entries) else none
  | .list items => some fun key => items[keys.idxOf key]?
  | .tables elements => some fun key => (elements[keys.idxOf key]?).map (.table .headed)
  | _ => none

/-- Yes or no. -/
def bool? : Toml → Option Bool
  | .bool b => some b
  | _ => none

/-- A number, with or without a fraction. -/
def number? : Toml → Option Float
  | .real x => some x
  | .whole n => some (Float.ofInt n)
  | _ => none

/-- A width. -/
def width? : Toml → Option Nat
  | .whole n => if n < 0 then none else some n.toNat
  | _ => none

/-- Whether a value has no entries and no items. -/
def isVoid : Toml → Bool
  | .table _ entries => entries.isEmpty
  | .list items => items.isEmpty
  | .tables elements => elements.isEmpty
  | _ => false

/-- A wish for a backend: its name, or a table with the name as the only key and nothing in it. -/
def backend? : Toml → Option BackendChoice
  | .text name => BackendChoice.named? name
  | .table _ [(name, value)] => if isVoid value then BackendChoice.named? name else none
  | _ => none

/-- The widths of columns; those that are left out have their defaults. -/
def widths? (v : Toml) : Option Widths := do
  let value ← section? ["line", "hits", "time", "perhit", "percent"] v
  let width (key : String) (default : Nat) : Option Nat := do
    return ((← (value key).mapM width?).getD default)
  let standard : Widths := {}
  return {
    line := ← width "line" standard.line
    hits := ← width "hits" standard.hits
    time := ← width "time" standard.time
    perHit := ← width "perhit" standard.perHit
    percent := ← width "percent" standard.percent }

namespace Layer

/-- The section on reports, as an addition to a layer. -/
def withReports (layer : Layer) (v : Toml) : Option Layer := do
  let value ← section? ["output_unit", "column_widths"] v
  return { layer with
    outputUnit := ← (value "output_unit").mapM number?
    widths := ← (value "column_widths").mapM widths? }

/-- The layer that a section holds. -/
def ofSection? (v : Toml) : Option Layer := do
  let value ← section? ["wrap_trace", "backend", "debug", "show"] v
  let layer : Layer := {
    wrapTrace := ← (value "wrap_trace").mapM bool?
    backend := ← (value "backend").mapM backend?
    debug := ← (value "debug").mapM bool? }
  match value "show" with
  | none => return layer
  | some reports => layer.withReports reports

/-- The layer of a document. Other programs may have tables of their own in it. -/
def ofEntries? (document : Toml.Entries) : Option Layer :=
  match Toml.lookup "lineprof" document with
  | none => some {}
  | some v => ofSection? v

/-- The layer that a text holds. -/
def read? (text : String) : Option Layer := (Toml.read? text).bind ofEntries?

end Layer

/-- The settings with the layer of a text on them, if the text can be read. -/
def overlayText? (s : Settings) (text : String) : Option Settings :=
  (Layer.read? text).map s.overlay

end Settings

end LineClock

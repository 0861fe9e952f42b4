import LineClock.Files
import LineClock.Source.Extent
import LineClock.Text.Basic

/-!
# Where source text comes from

`Sources` answers with the lines of a file. Files on disk are looked at once: what was found then,
or that nothing was found, is the answer from there on.
-/

namespace LineClock

/-- A supply of source text. -/
inductive Sources where
  /-- Nothing is ever found. -/
  | none
  /-- Texts registered under names, as lines. -/
  | memory (texts : Assoc String (List String))
  /-- Files on disk; `seen` holds what earlier lookups found. -/
  | disk (seen : Assoc String (Option (List String)))
  deriving DecidableEq, Inhabited

namespace Sources

/-- Files on disk, none looked at yet. -/
def files : Sources := .disk {}

/-- Texts under names; of a repeated name the last text counts. -/
def ofTexts (texts : List (String × String)) : Sources :=
  .memory (texts.foldl (fun m t => m.set t.1 (Text.lines t.2)) {})

/-- The lines of a file, and the supply after the lookup. -/
def lookup (s : Sources) (tree : Files) (name : String) : Option (List String) × Sources :=
  match s with
  | .none => (Option.none, s)
  | .memory texts => (texts.get? name, s)
  | .disk seen =>
    match seen.get? name with
    | some found => (found, s)
    | Option.none =>
      let found := (tree.readText name).toOption.map Text.lines
      (found, .disk (seen.set name found))

/-- The lines of a file. -/
def lines (s : Sources) (tree : Files) (name : String) : Option (List String) :=
  (s.lookup tree name).1

end Sources

end LineClock

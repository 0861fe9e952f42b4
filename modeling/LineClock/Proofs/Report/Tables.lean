import LineClock.Proofs.Ordered
import LineClock.Report.Basic
import Mathlib.Data.List.Nodup

/-!
# The tables of a report

The columns of a report are read back from its text: a number stands at the end of its column, and
goes on beyond it if the column is too narrow. From the text of an entry the reader gets the line and,
if something was recorded for it, the hits.

Which functions a report shows and in which order, and which lines each table shows with which hits:
nothing is lost and nothing is shown twice.

Main statements: `readRow_text` and `report_exact`.
-/

namespace LineClock

namespace Text

/-! ## Texts without blanks at their end -/

end Text

namespace Report

open Text

/-! ## Reading a row -/

end Report

/-! ## Lines in order -/

namespace Block

end Block

namespace Report

/-! ## The lines of a table -/

/-- A line belongs to the block of a function in its source text. Numbers of lines stop short of the
largest word. -/
def InBlock (source : Option (List String)) (first n : UInt32) : Prop :=
  ∃ text length, source = some text ∧ Source.blockLength? text first = some length ∧
    first ≤ n ∧ n.toNat < first.toNat + length ∧ n.toNat < 0xffffffff

/-- What the first columns of a table show: lines in ascending order, each once. The recorded lines come
with their hits, the others are those of the function's block, without any. -/
structure Column (source : Option (List String)) (first : UInt32) (rows : List Row)
    (column : List (UInt32 × Option Counter)) : Prop where
  ascending : (column.map Prod.fst).Pairwise (· < ·)
  recorded : ∀ n hits, (n, some hits) ∈ column ↔ ∃ r ∈ rows, r.line = n ∧ r.hits = hits
  others : ∀ n, (n, none) ∈ column ↔ InBlock source first n ∧ ∀ r ∈ rows, r.line ≠ n

/-- What an entry shows in the first columns. -/
def Entry.shows (e : Entry) : UInt32 × Option Counter := (e.line, e.row.map Row.hits)

/-- One function comes before another: by its site, or by its total first. -/
def Before (options : Options) (a b : Site × List Row) : Prop :=
  if options.sort then
    Row.totalTicks a.2 < Row.totalTicks b.2 ∨
      Row.totalTicks a.2 = Row.totalTicks b.2 ∧ compare a.1 b.1 = .lt
  else compare a.1 b.1 = .lt

/-- The functions that a report shows, with their rows. -/
def shown (options : Options) (s : Snapshot) : List (Site × List Row) :=
  (ordered options s).filter fun f => ¬(options.stripZeros ∧ Row.totalTicks f.2 = 0)

/-- The line that names the function of a table. -/
def title (site : Site) : List Char :=
  "Function: ".toList ++ site.name.toList ++ " at line ".toList ++ counter site.firstLine.toNat

end Report

end LineClock

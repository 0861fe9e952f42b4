import LineClock.Report.Number
import LineClock.Report.Options
import LineClock.Snapshot.Basic
import LineClock.Source.Extent
import LineClock.Text.Basic

/-!
# Reports

A report shows a snapshot as text. What it shows is settled first, as a list of tables: one per
function, with one entry per line that was recorded or belongs to the function's source text. The
text of a table is a matter of its own.
-/

namespace LineClock.Report

/-- One line of a table. -/
structure Entry where
  line : UInt32
  /-- What was recorded for the line. -/
  row : Option Row
  /-- The text of the line. -/
  contents : List Char
  deriving DecidableEq, Inhabited

/-- The table of a function. -/
structure Table where
  site : Site
  /-- All ticks of the function. -/
  total : Counter
  /-- Whether the source text was found. -/
  found : Bool
  entries : List Entry
  deriving DecidableEq, Inhabited

/-! ## What is shown -/

/-- The functions in the order in which they are shown. -/
def ordered (options : Options) (s : Snapshot) : List (Site × List Row) :=
  if options.sort then
    s.timings.entries.mergeSort fun a b => Row.totalTicks a.2 ≤ Row.totalTicks b.2
  else
    s.timings.entries

/-- The lines of a function's block in its source text. -/
def blockLines (source : Option (List String)) (first : UInt32) : List UInt32 :=
  match source.bind (Source.blockLength? · first) with
  | none => []
  | some length => (List.range (min length (0xffffffff - first.toNat))).map fun i => first + i.toUInt32

/-- The lines a table shows, in ascending order, each once. -/
def shownLines (source : Option (List String)) (site : Site) (rows : List Row) : List UInt32 :=
  Block.distinctLines (blockLines source site.firstLine ++ rows.map Row.line)

/-- The text of a line without blanks at its end. -/
def contents (source : Option (List String)) (line : UInt32) : List Char :=
  match source.bind (Source.lineText? · line) with
  | none => []
  | some text => Text.trimEnd text.toList

/-- The table of a function. -/
def table (source : Option (List String)) (site : Site) (rows : List Row) : Table where
  site
  total := Row.totalTicks rows
  found := source.isSome
  entries := (shownLines source site rows).map fun line =>
    { line, row := rows.find? fun r => r.line = line, contents := contents source line }

/-- The tables of a report, given the source text of files. -/
def tables (options : Options) (sources : String → Option (List String)) (s : Snapshot) :
    List Table :=
  (ordered options s).filterMap fun (site, rows) =>
    if options.stripZeros ∧ Row.totalTicks rows = 0 then none
    else some (table (sources site.file) site rows)

/-! ## The text -/

/-- A line of a table: five columns of numbers, and text. -/
def columns (w : Widths) (line hits time perHit percent text : List Char) : List Char :=
  padLeft w.line line ++ ' ' :: padLeft w.hits hits ++ ' ' :: padLeft w.time time ++
    ' ' :: padLeft w.perHit perHit ++ ' ' :: padLeft w.percent percent ++ ' ' :: ' ' :: text

/-- The decimal digits of a counter. -/
def counter (n : Nat) : List Char := Nat.toDigits 10 n

/-- The heading of a table. -/
def heading (w : Widths) : List Char :=
  columns w "Line #".toList "Hits".toList "Time".toList "Per Hit".toList "% Time".toList
    "Line Contents".toList

/-- An entry as a line, without blanks at its end. `scale` turns ticks into units shown. -/
def Entry.text (w : Widths) (scale : Float) (total : Counter) (e : Entry) : List Char :=
  let line := counter e.line.toNat
  Text.trimEnd <|
    match e.row with
    | none => columns w line [] [] [] [] e.contents
    | some r =>
      let ticks := r.ticks.toFloat * scale
      columns w line (counter r.hits.toNat) (amount w.time ticks)
        (if 0 < r.hits then amount w.perHit (ticks / r.hits.toFloat) else [])
        (if 0 < total then padLeft 5 (fixed 1 (100.0 * r.ticks.toFloat / total.toFloat)) else [])
        e.contents

/-- A table as lines. -/
def Table.lines (options : Options) (unit : Float) (t : Table) : List (List Char) :=
  let scale := match options.outputUnit with
    | none => 1.0
    | some shown => unit / shown
  let place :=
    if t.found then ["File: ".toList ++ t.site.file.toList]
    else
      [[], "Could not find file ".toList ++ t.site.file.toList,
        "Are you sure you are running this program from the same directory".toList,
        "that you ran the profiler from?".toList,
        "Continuing without the function\x27s contents.".toList]
  let top := heading options.widths
  ["Total time: ".toList ++ general 6 (t.total.toFloat * unit) ++ " s".toList] ++ place ++
    ["Function: ".toList ++ t.site.name.toList ++ " at line ".toList ++ counter t.site.firstLine.toNat,
      [], top, List.replicate top.length '='] ++
    t.entries.map (Entry.text options.widths scale t.total) ++ [[], []]

/-- The closing lines, one per function. -/
def summary (options : Options) (s : Snapshot) : List (List Char) :=
  (ordered options s).filterMap fun (site, rows) =>
    let seconds := (Row.totalTicks rows).toFloat * s.unit
    if options.stripZeros ∧ seconds == 0.0 then none
    else some (padLeft 6 (fixed 2 seconds) ++ " seconds - ".toList ++ site.describe.toList)

/-- The lines of a report. -/
def lines (options : Options) (sources : String → Option (List String)) (s : Snapshot) :
    List (List Char) :=
  ["Timer unit: ".toList ++ general 6 (options.outputUnit.getD s.unit) ++ " s".toList, []] ++
    (if options.details then (tables options sources s).flatMap (Table.lines options s.unit) else []) ++
    (if options.summarize then summary options s else [])

/-- A report as text; every line ends with a line feed. -/
def text (options : Options) (sources : String → Option (List String)) (s : Snapshot) : String :=
  String.ofList ((lines options sources s).flatMap fun l => l ++ ['\n'])

end LineClock.Report

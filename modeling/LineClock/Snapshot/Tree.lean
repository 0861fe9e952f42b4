import LineClock.Snapshot.Basic

/-!
# Reading a snapshot from a tree

Different formats store a snapshot as the same tree of records and lists. A record is stored with
the names of its fields, or as the list of its fields in their order. Fields that are not known are
passed over; a field that is missing or stands twice makes the tree unreadable.
-/

namespace LineClock

/-- How a field of a record is marked. -/
inductive Label where
  | name (s : String)
  /-- The place of the field in the order of fields. -/
  | index (n : Nat)
  /-- A mark of no known field. -/
  | other
  /-- Not a mark of a field at all. -/
  | invalid
  deriving DecidableEq, Repr, Inhabited

/-- What a format stores. -/
inductive Tree where
  | whole (n : Int)
  | real (x : Float)
  | text (s : String)
  | list (items : List Tree)
  | record (fields : List (Label × Tree))
  /-- Something that no field of a snapshot can hold. -/
  | other
  deriving Inhabited

namespace Tree

/-- Whether a field is marked as the field `name` at place `index`. -/
def marks (name : String) (index : Nat) : Label → Bool
  | .name s => s = name
  | .index n => n = index
  | _ => false

/-- The field `name`, at place `index`, of a record. It has to stand there exactly once. -/
def field? (fields : List (Label × Tree)) (name : String) (index : Nat) : Option Tree :=
  match fields.filter fun f => marks name index f.1 with
  | [f] => some f.2
  | _ => none

/-- The fields of a record, in order of their names in `names`. -/
def fields? (names : List String) : Tree → Option (List Tree)
  | list items => if items.length = names.length then some items else none
  | record fields =>
    if fields.any fun f => f.1 = .invalid then none
    else names.zipIdx.mapM fun n => field? fields n.1 n.2
  | _ => none

/-- A whole number below a bound. -/
def below? (bound : Nat) : Tree → Option Nat
  | whole n => if 0 ≤ n ∧ n < bound then some n.toNat else none
  | _ => none

/-- A line number. -/
def line? (t : Tree) : Option UInt32 := (t.below? UInt32.size).map Nat.toUInt32

/-- A counter. -/
def counter? (t : Tree) : Option Counter := (t.below? UInt64.size).map Nat.toUInt64

/-- A number of seconds. -/
def seconds? : Tree → Option Float
  | whole n => some (if n < 0 then -(Float.ofNat n.natAbs) else Float.ofNat n.natAbs)
  | real x => some x
  | _ => none

/-- A text. -/
def text? : Tree → Option String
  | text s => some s
  | _ => none

/-- The items of a list. -/
def items? : Tree → Option (List Tree)
  | list items => some items
  | _ => none

/-- The names of the fields of a row. -/
def rowFields : List String := ["lineno", "hits", "total_ticks"]

/-- The names of the fields of a function. -/
def functionFields : List String := ["filename", "first_line", "name", "lines"]

/-- The names of the fields of a snapshot. -/
def snapshotFields : List String := ["unit", "functions"]

/-- A row. -/
def row? (t : Tree) : Option Row := do
  match ← t.fields? rowFields with
  | [line, hits, ticks] => return ⟨← line.line?, ← hits.counter?, ← ticks.counter?⟩
  | _ => none

/-- A function and its rows. -/
def function? (t : Tree) : Option (Site × List Row) := do
  match ← t.fields? functionFields with
  | [file, first, name, lines] =>
    return (⟨← file.text?, ← first.line?, ← name.text?⟩, ← (← lines.items?).mapM row?)
  | _ => none

/-- A snapshot. -/
def snapshot? (t : Tree) : Option Snapshot := do
  match ← t.fields? snapshotFields with
  | [unit, functions] =>
    return Snapshot.ofFunctions (← unit.seconds?) (← (← functions.items?).mapM function?)
  | _ => none

/-- A row as a tree. -/
def ofRow (r : Row) : Tree :=
  record [(.name "lineno", whole r.line.toNat), (.name "hits", whole r.hits.toNat),
    (.name "total_ticks", whole r.ticks.toNat)]

/-- A function as a tree. -/
def ofFunction (f : Site × List Row) : Tree :=
  record [(.name "filename", text f.1.file), (.name "first_line", whole f.1.firstLine.toNat),
    (.name "name", text f.1.name), (.name "lines", list (f.2.map ofRow))]

/-- A snapshot as a tree. -/
def ofSnapshot (s : Snapshot) : Tree :=
  record [(.name "unit", real s.unit), (.name "functions", list (s.timings.entries.map ofFunction))]

end Tree

end LineClock

/-!
# TOML documents

A document is a tree of tables. How a table came about decides who may add to it: a table with a
header of its own stands once; a table that was only passed through on the way to another one may
get its header later; a table made by dotted keys grows by dotted keys only; a table written inside
a value is closed.
-/

namespace LineClock

namespace Toml

/-- How a table came about. -/
inductive Standing where
  /-- By a header, or as the document itself. -/
  | headed
  /-- On the way of a header to a table further down. -/
  | passed
  /-- By dotted keys. -/
  | dotted
  /-- Inside a value. -/
  | closed
  deriving DecidableEq, Repr, Inhabited

end Toml

/-- A TOML value. -/
inductive Toml where
  | text (s : String)
  | whole (n : Int)
  | real (x : Float)
  | bool (b : Bool)
  /-- A date or a time of day. -/
  | time
  | list (items : List Toml)
  | table (standing : Toml.Standing) (entries : List (String × Toml))
  /-- Tables under one name, each with a header of its own. -/
  | tables (elements : List (List (String × Toml)))
  deriving Inhabited

namespace Toml

/-- The entries of a table. -/
abbrev Entries := List (String × Toml)

/-- The value of a key. -/
def lookup (key : String) : Entries → Option Toml
  | [] => none
  | (k, v) :: rest => if k = key then some v else lookup key rest

/-- The entries with the value of a key replaced. -/
def replace (key : String) (value : Toml) : Entries → Entries
  | [] => []
  | (k, v) :: rest => if k = key then (k, value) :: rest else (k, v) :: replace key value rest

/-- Change the table at the end of a path; of tables under one name the last is meant. Tables that
are missing on the way come into being, by dotted keys or on the way of a header. Dotted keys do not
lead through a table that has a header. -/
def change (byKeys : Bool) (act : Standing → Entries → Option Entries) :
    Standing → List String → Entries → Option Entries
  | standing, [], entries => act standing entries
  | _, key :: path, entries =>
    match lookup key entries with
    | none => do
      let fresh := if byKeys then .dotted else .passed
      let inner ← change byKeys act fresh path []
      return entries ++ [(key, table fresh inner)]
    | some (table standing inner) =>
      if standing = .closed ∨ (byKeys ∧ standing = .headed) then none
      else do
        let inner ← change byKeys act standing path inner
        return replace key (table standing inner) entries
    | some (tables elements) => do
      let inner ← change byKeys act .headed path (elements.getLast?.getD [])
      return replace key (tables (elements.dropLast ++ [inner])) entries
    | some _ => none

/-- Add a key that is not there yet. -/
def addKey (key : String) (value : Toml) (entries : Entries) : Option Entries :=
  if (lookup key entries).isSome then none else some (entries ++ [(key, value)])

/-- Add a dotted key to a table. The last key goes into a table made by dotted keys, unless it is
the only one. -/
def addPath (path : List String) (key : String) (value : Toml) (entries : Entries) :
    Option Entries :=
  change true (fun standing entries =>
    if path.isEmpty ∨ standing = .dotted then addKey key value entries else none) .headed path entries

/-- Open the table with a header. -/
def openTable (path : List String) (key : String) (entries : Entries) : Option Entries :=
  change false (fun _ entries =>
    match lookup key entries with
    | none => some (entries ++ [(key, table .headed [])])
    | some (table .passed inner) => some (replace key (table .headed inner) entries)
    | some _ => none) .headed path entries

/-- Open one more table under a name. -/
def openElement (path : List String) (key : String) (entries : Entries) : Option Entries :=
  change false (fun _ entries =>
    match lookup key entries with
    | none => some (entries ++ [(key, tables [[]])])
    | some (tables elements) => some (replace key (tables (elements ++ [[]])) entries)
    | some _ => none) .headed path entries

/-- Add a dotted key to the table whose header was read last. -/
def addUnder (header path : List String) (key : String) (value : Toml) (entries : Entries) :
    Option Entries :=
  change false (fun _ entries => addPath path key value entries) .headed header entries

end Toml

end LineClock

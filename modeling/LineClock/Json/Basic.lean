import LineClock.Json.Numeral
import LineClock.Snapshot.Tree

/-!
# JSON documents

A document is read into a tree that keeps what it was written like: numerals by their digits, and
texts as far as their escapes make sense. A text with half of a surrogate pair is no text, but it
does no harm where nobody wants to know it.
-/

namespace LineClock

/-- A JSON document. -/
inductive Json where
  | null
  | bool (b : Bool)
  | number (n : Json.Numeral)
  /-- A text, none if it holds half of a surrogate pair. -/
  | text (s : Option String)
  | list (items : List Json)
  | object (fields : List (Option String × Json))
  deriving Inhabited

namespace Json

/-! ## Trees -/

/-- The mark of a field by its name. -/
def label : Option String → Label
  | some s => .name s
  | none => .invalid

mutual
/-- The tree of a document. -/
def tree : Json → Tree
  | null | bool _ => .other
  | number n =>
    match n.amount with
    | .whole n => .whole n
    | .real x => .real x
    | .beyond => .other
  | text (some s) => .text s
  | text none => .other
  | list items => .list (trees items)
  | object fields => .record (treeFields fields)

/-- The trees of the items of a list. -/
def trees : List Json → List Tree
  | [] => []
  | j :: rest => j.tree :: trees rest

/-- The trees of the fields of an object. -/
def treeFields : List (Option String × Json) → List (Label × Tree)
  | [] => []
  | (name, j) :: rest => (label name, j.tree) :: treeFields rest
end

/-- The name of a field by its mark. -/
def fieldName : Label → Option String
  | .name s => some s
  | .index _ | .other | .invalid => none

mutual
/-- The document of a tree. A number that is not finite becomes nothing. -/
def ofTree : Tree → Json
  | .whole n => number (.ofInt n)
  | .real x =>
    match Numeral.ofFloat? x with
    | some n => number n
    | none => null
  | .text s => text (some s)
  | .list items => list (ofTrees items)
  | .record fields => object (ofFields fields)
  | .other => null

/-- The documents of the items of a list. -/
def ofTrees : List Tree → List Json
  | [] => []
  | t :: rest => ofTree t :: ofTrees rest

/-- The documents of the fields of a record. -/
def ofFields : List (Label × Tree) → List (Option String × Json)
  | [] => []
  | (l, t) :: rest => (fieldName l, ofTree t) :: ofFields rest
end

/-! ## Writing -/

/-- A character inside a text. -/
def escaped (c : Char) : List Char :=
  if c = '\x22' then ['\\', '\x22']
  else if c = '\\' then ['\\', '\\']
  else if c = '\x08' then ['\\', 'b']
  else if c = '\t' then ['\\', 't']
  else if c = '\n' then ['\\', 'n']
  else if c = '\x0c' then ['\\', 'f']
  else if c = '\r' then ['\\', 'r']
  else if c.toNat < 0x20 then
    ['\\', 'u', '0', '0', Bytes.hexDigit (c.toNat / 16), Bytes.hexDigit (c.toNat % 16)]
  else [c]

/-- A text between quotes. -/
def quoted (s : Option String) : List Char :=
  '\x22' :: ((s.getD "").toList.flatMap escaped ++ ['\x22'])

/-- The start of a line. -/
def newLine (depth : Nat) : List Char := '\n' :: List.replicate (2 * depth) ' '

/-- Parts between brackets, one on a line, at a depth of nesting. -/
def bracketed (left right : Char) (depth : Nat) (parts : List (List Char)) : List Char :=
  match parts with
  | [] => [left, right]
  | parts =>
    left :: List.intercalate [','] (parts.map fun p => newLine (depth + 1) ++ p) ++ newLine depth ++
      [right]

mutual
/-- A document at a depth of nesting, over several lines. -/
def pretty (depth : Nat) : Json → List Char
  | null => "null".toList
  | bool b => (if b then "true" else "false").toList
  | number n => n.text
  | text s => quoted s
  | list items => bracketed '[' ']' depth (prettyItems (depth + 1) items)
  | object fields => bracketed '\x7b' '\x7d' depth (prettyFields (depth + 1) fields)

/-- The items of a list. -/
def prettyItems (depth : Nat) : List Json → List (List Char)
  | [] => []
  | j :: rest => j.pretty depth :: prettyItems depth rest

/-- The fields of an object. -/
def prettyFields (depth : Nat) : List (Option String × Json) → List (List Char)
  | [] => []
  | (name, j) :: rest => (quoted name ++ ':' :: ' ' :: j.pretty depth) :: prettyFields depth rest
end

end Json

end LineClock

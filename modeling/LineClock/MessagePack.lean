import LineClock.Bytes
import LineClock.Snapshot.Tree

/-!
# MessagePack

A binary format for trees. Each item starts with a marker byte; numbers are written in the fewest
bytes that hold them, most significant byte first. The reader accepts every width.
-/

namespace LineClock.MessagePack

/-! ## Writing -/

/-- A marker and a number of `width` bytes. -/
def wide (marker : UInt8) (width n : Nat) : Bytes := marker :: Bytes.bigEndian width n

/-- A nonnegative whole number. -/
def natural (n : Nat) : Bytes :=
  if n < 0x80 then [n.toUInt8]
  else if n < UInt8.size then wide 0xcc 1 n
  else if n < UInt16.size then wide 0xcd 2 n
  else if n < UInt32.size then wide 0xce 4 n
  else wide 0xcf 8 n

/-- The head of a text of `n` bytes. -/
def textHead (n : Nat) : Bytes :=
  if n < 0x20 then [0xa0 + n.toUInt8]
  else if n < UInt8.size then wide 0xd9 1 n
  else if n < UInt16.size then wide 0xda 2 n
  else wide 0xdb 4 n

/-- The head of a list of `n` items. -/
def listHead (n : Nat) : Bytes :=
  if n < 0x10 then [0x90 + n.toUInt8] else if n < UInt16.size then wide 0xdc 2 n else wide 0xdd 4 n

/-- The head of a record of `n` fields. -/
def recordHead (n : Nat) : Bytes :=
  if n < 0x10 then [0x80 + n.toUInt8] else if n < UInt16.size then wide 0xde 2 n else wide 0xdf 4 n

/-- A text. -/
def text (s : String) : Bytes :=
  let bytes := Bytes.ofString s
  textHead bytes.length ++ bytes

/-- A floating point number. -/
def real (x : Float) : Bytes := wide 0xcb 8 x.toBits.toNat

/-- The mark of a field. -/
def label : Label → Bytes
  | .name s => text s
  | .index n => natural n
  | .other | .invalid => [0xc0]

mutual
/-- The bytes of a tree. -/
def encode : Tree → Bytes
  | .whole n => if n < 0 then wide 0xd3 8 (UInt64.size - n.natAbs) else natural n.toNat
  | .real x => real x
  | .text s => text s
  | .list items => listHead items.length ++ encodeItems items
  | .record fields => recordHead fields.length ++ encodeFields fields
  | .other => [0xc0]

/-- The bytes of the items of a list. -/
def encodeItems : List Tree → Bytes
  | [] => []
  | t :: rest => encode t ++ encodeItems rest

/-- The bytes of the fields of a record. -/
def encodeFields : List (Label × Tree) → Bytes
  | [] => []
  | (l, t) :: rest => label l ++ encode t ++ encodeFields rest
end

/-! ## Reading -/

/-- Something read from the front of a byte string, and the rest. -/
abbrev Reader (α : Type) := StateT Bytes Option α

/-- The next byte. -/
def byte : Reader UInt8 := fun
  | [] => none
  | b :: rest => some (b, rest)

/-- The next `n` bytes. -/
def bytes (n : Nat) : Reader Bytes := fun input =>
  let taken := input.take n
  if taken.length = n then some (taken, input.drop n) else none

/-- A number of `width` bytes. -/
def number (width : Nat) : Reader Nat := return Bytes.number (← bytes width)

/-- A number of `width` bytes as a signed one. -/
def signed (width : Nat) : Reader Int := do
  let n ← number width
  return if n < 1 <<< (8 * width - 1) then n else (n : Int) - (1 <<< (8 * width) : Nat)

/-- What an item is, as its first bytes tell. -/
inductive Head where
  | natural (n : Nat)
  /-- A number that is stored with a sign. -/
  | integer (n : Int)
  | real (x : Float)
  | text (length : Nat)
  | binary (length : Nat)
  | list (length : Nat)
  | record (length : Nat)
  /-- An application's own type, with its type byte and `length` bytes. -/
  | extension (length : Nat)
  /-- Nothing, true or false. -/
  | plain
  deriving Inhabited

/-- The head of the next item. -/
def head : Reader Head := do
  let marker := (← byte).toNat
  if marker < 0x80 then return .natural marker
  if marker < 0x90 then return .record (marker - 0x80)
  if marker < 0xa0 then return .list (marker - 0x90)
  if marker < 0xc0 then return .text (marker - 0xa0)
  if 0xe0 ≤ marker then return .integer ((marker : Int) - 0x100)
  match marker with
  | 0xc0 | 0xc2 | 0xc3 => return .plain
  | 0xc4 => return .binary (← number 1)
  | 0xc5 => return .binary (← number 2)
  | 0xc6 => return .binary (← number 4)
  | 0xc7 => return .extension (← number 1)
  | 0xc8 => return .extension (← number 2)
  | 0xc9 => return .extension (← number 4)
  | 0xca => return .real (Float32.ofBits (← number 4).toUInt32).toFloat
  | 0xcb => return .real (Float.ofBits (← number 8).toUInt64)
  | 0xcc => return .natural (← number 1)
  | 0xcd => return .natural (← number 2)
  | 0xce => return .natural (← number 4)
  | 0xcf => return .natural (← number 8)
  | 0xd0 => return .integer (← signed 1)
  | 0xd1 => return .integer (← signed 2)
  | 0xd2 => return .integer (← signed 4)
  | 0xd3 => return .integer (← signed 8)
  | 0xd4 => return .extension 1
  | 0xd5 => return .extension 2
  | 0xd6 => return .extension 4
  | 0xd7 => return .extension 8
  | 0xd8 => return .extension 16
  | 0xd9 => return .text (← number 1)
  | 0xda => return .text (← number 2)
  | 0xdb => return .text (← number 4)
  | 0xdc => return .list (← number 2)
  | 0xdd => return .list (← number 4)
  | 0xde => return .record (← number 2)
  | 0xdf => return .record (← number 4)
  | _ => failure

/-- A text from its bytes; bytes that are no text are something else. -/
def ofBytes (bytes : Bytes) : Tree :=
  match Bytes.toString? bytes with
  | some s => .text s
  | none => .other

/-- Read `n` things in a row. -/
def times {α : Type} (item : Reader α) : Nat → Reader (List α)
  | 0 => pure []
  | n + 1 => do
    let a ← item
    let rest ← times item n
    pure (a :: rest)

/-- The mark of a field. Marks are stored as items; `skip` reads over the items of a list. -/
def readLabel (tree : Reader Tree) : Reader Label := do
  let input ← get
  match ← head with
  | .natural n => return .index n
  | .text n | .binary n =>
    match Bytes.toString? (← bytes n) with
    | some s => return .name s
    | none => return .other
  | _ =>
    set input
    discard tree
    return .invalid

/-- Read an item whose lists and records nest less than `depth` deep. -/
def tree : Nat → Reader Tree
  | 0 => failure
  | depth + 1 => do
    match ← head with
    | .natural n => return .whole n
    | .integer n => return .whole n
    | .real x => return .real x
    | .text n | .binary n => return ofBytes (← bytes n)
    | .extension n =>
      discard (bytes (n + 1))
      return .other
    | .plain => return .other
    | .list n =>
      if depth = 0 then failure
      return .list (← times (tree depth) n)
    | .record n =>
      if depth = 0 then failure
      return .record (← times (do
        let l ← readLabel (tree depth)
        let t ← tree depth
        pure (l, t)) n)

/-- How deep lists and records may nest. -/
def maxDepth : Nat := 1024

/-- The tree at the front of a byte string. What follows is not looked at. -/
def decode? (input : Bytes) : Option Tree := ((tree maxDepth).run input).map Prod.fst

end LineClock.MessagePack

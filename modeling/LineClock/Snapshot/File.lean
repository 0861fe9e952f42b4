import LineClock.Files
import LineClock.Json.Reader
import LineClock.MessagePack
import LineClock.Snapshot.Merge

/-!
# Stored snapshots

A stored snapshot is eight bytes that say what the file is, and then the snapshot's tree. The tree can
be written as JSON as well.
-/

namespace LineClock.Snapshot

/-- The bytes every stored snapshot starts with. -/
def magic : Bytes := [0x4c, 0x50, 0x52, 0x4f, 0x46, 0x76, 0x31, 0x00]

/-- A snapshot as stored. -/
def encode (s : Snapshot) : Bytes := magic ++ MessagePack.encode (Tree.ofSnapshot s)

/-- The snapshot stored in a file with the given path and contents. -/
def decode (path : String) (bytes : Bytes) : Except StatsError Snapshot :=
  if magic.isPrefixOf bytes then
    match (MessagePack.decode? (bytes.drop magic.length)).bind Tree.snapshot? with
    | some s => .ok s
    | none => .error .decode
  else
    .error (.badMagic path)

/-- Write a snapshot to a file. -/
def write {m : Type → Type} [Monad m] (disk : Disk m) (s : Snapshot) (path : String) :
    m (Except StatsError Unit) := do
  match ← disk.write path s.encode with
  | .ok () => return .ok ()
  | .error e => return .error (.io e)

/-- Read a snapshot from a file. -/
def read {m : Type → Type} [Monad m] (disk : Disk m) (path : String) :
    m (Except StatsError Snapshot) := do
  match ← disk.read path with
  | .ok bytes => return decode path bytes
  | .error e => return .error (.io e)

/-- Read snapshots from files and merge them. The first file that cannot be read ends the reading. -/
def readAll {m : Type → Type} [Monad m] (disk : Disk m) (paths : List String) :
    m (Except StatsError Snapshot) := do
  let snapshots ← (paths.mapM fun path => ExceptT.mk (read disk path)).run
  return snapshots.bind merge

/-! ## As JSON -/

/-- A snapshot as a document over several lines. -/
def toJson (s : Snapshot) : String := String.ofList ((Json.ofTree (Tree.ofSnapshot s)).pretty 0)

/-- The snapshot that a document holds. -/
def ofJson (text : String) : Except StatsError Snapshot :=
  match (Json.read? text.toList).bind fun j => j.tree.snapshot? with
  | some s => .ok s
  | none => .error .json

end LineClock.Snapshot

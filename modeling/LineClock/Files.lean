import LineClock.Assoc
import LineClock.Bytes
import LineClock.Error

/-!
# Files

`Files` is a directory tree of its own: byte strings under relative paths. A directory is there
when a file below it is. `Disk` is what a program needs of any file system, so the same code runs
on a tree in memory and on a real one.
-/

namespace LineClock

/-- The files below the working directory, by path. -/
structure Files where
  contents : Assoc String Bytes := {}
  deriving DecidableEq, Inhabited

/-- Reading and writing whole files. -/
structure Disk (m : Type → Type) where
  read : String → m (Except FileError Bytes)
  write : String → Bytes → m (Except FileError Unit)

/-- The text with given bytes. -/
def Bytes.readText (bytes : Bytes) : Except FileError String :=
  match bytes.toString? with
  | some text => .ok text
  | none => .error .invalidText

/-- The text of a file on a disk. -/
def Disk.readText {m : Type → Type} [Monad m] (disk : Disk m) (path : String) :
    m (Except FileError String) :=
  return (← disk.read path).bind Bytes.readText

namespace Files

/-- The components of a path, those that stay in place left out. -/
def components (path : String) : List String :=
  ((path.toList.splitOn '/').map String.ofList).filter fun c => c ≠ "" ∧ c ≠ "."

/-- The path written in the one way that `Files` stores it. -/
def normal (path : String) : String := "/".intercalate (components path)

/-- A path as it stands, before any file is looked for. -/
def checkName (path : String) : Except FileError Unit :=
  if path.toList.contains '\x00' then .error .nulInName
  else if path.isEmpty then .error .notFound
  else .ok ()

/-- Whether a path names a directory. -/
def isDirectory (files : Files) (path : List String) : Bool :=
  path.isEmpty || files.contents.keys.any fun name =>
    let name := components name
    path.isPrefixOf name && path.length < name.length

/-- Walk down to a path from the directory `above`. Every component but the last has to be a
directory. -/
def walk (files : Files) (above : List String) : List String → Except FileError Unit
  | [] => .ok ()
  | c :: rest =>
    if 255 < c.utf8ByteSize then .error .nameTooLong
    else if rest.isEmpty then .ok ()
    else if files.isDirectory (above ++ [c]) then walk files (above ++ [c]) rest
    else if files.contents.contains ("/".intercalate (above ++ [c])) then .error .notDirectory
    else .error .notFound

/-- The bytes of a file. -/
def read (files : Files) (path : String) : Except FileError Bytes := do
  checkName path
  if path.startsWith "/" ∧ components path ≠ [] then throw .notFound
  let parts := components path
  files.walk [] parts
  if files.isDirectory parts then throw .isDirectory
  match files.contents.get? ("/".intercalate parts) with
  | none => throw .notFound
  | some bytes => if path.endsWith "/" then throw .notDirectory else pure bytes

/-- The files with `bytes` at a path. -/
def write (files : Files) (path : String) (bytes : Bytes) : Except FileError Files := do
  checkName path
  if path.startsWith "/" ∧ components path ≠ [] then throw .notFound
  let parts := components path
  files.walk [] parts
  if path.endsWith "/" ∨ files.isDirectory parts then throw .isDirectory
  return ⟨files.contents.set ("/".intercalate parts) bytes⟩

/-- The text of a file. -/
def readText (files : Files) (path : String) : Except FileError String :=
  (files.read path).bind Bytes.readText

/-- The tree in memory as a disk. -/
def disk : Disk (StateM Files) where
  read path := do return (← get).read path
  write path bytes := do
    match (← get).write path bytes with
    | .ok files =>
      set files
      pure (.ok ())
    | .error e => pure (.error e)

end Files

end LineClock

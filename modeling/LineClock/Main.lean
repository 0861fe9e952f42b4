import LineClock.CommandLine.Run

/-!
# The program

Runs the command line on the files and the environment of the system.
-/

namespace LineClock

/-- What the system says about a file. -/
def fileError : IO.Error → FileError
  | .noFileOrDirectory _ _ _ => .notFound
  | .inappropriateType _ 20 _ => .notDirectory
  | .inappropriateType _ _ _ => .isDirectory
  | e => .other e.toString

/-- The answer of the system about a file. -/
def attempt {α : Type} (act : IO α) : IO (Except FileError α) := do
  match ← act.toBaseIO with
  | .ok a => return .ok a
  | .error e => return .error (fileError e)

/-- The files of the system. -/
def systemDisk : Disk IO where
  read path := attempt do return (← IO.FS.readBinFile path).toList
  write path bytes := attempt (IO.FS.writeBinFile path bytes.toByteArray)

/-- The variables of the system that matter. -/
def systemEnvironment : IO Environment := do
  let found ← Settings.keys.mapM fun key => return (key, ← IO.getEnv key)
  return fun key => (found.lookup key).join

end LineClock

/-- Run the command line. -/
def main (args : List String) : IO UInt32 := do
  let env ← LineClock.systemEnvironment
  let outcome ← LineClock.CommandLine.run LineClock.systemDisk env args
  (← IO.getStdout).putStr outcome.output
  (← IO.getStderr).putStr outcome.errors
  return outcome.code.toUInt32

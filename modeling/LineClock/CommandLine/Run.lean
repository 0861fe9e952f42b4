import LineClock.CommandLine.Command
import LineClock.CommandLine.Failure
import LineClock.CommandLine.Sample
import LineClock.Report.Basic
import LineClock.Settings.Load
import LineClock.Snapshot.File

/-!
# Running a command

A command reads and writes files through a `Disk`, so the same code runs on files in memory and on
those of the system. What it leaves is an `Outcome`: an exit code and what to print.
-/

namespace LineClock

namespace CommandLine

/-- What a run leaves for the user. -/
structure Outcome where
  code : Nat
  output : String := ""
  errors : String := ""
  deriving DecidableEq, Repr, Inhabited

namespace Outcome

/-- The outcome of a command line that makes no command. -/
def ofStop (stop : Stop) : Outcome :=
  if stop.isAnswer then { code := 0, output := stop.message } else { code := 2, errors := stop.message }

/-- The outcome of a failure, after what was printed before. -/
def ofFailure (failure : Failure) (errors : String) : Outcome :=
  { code := 1, errors := errors ++ failure.text }

end Outcome

variable {m : Type → Type} [Monad m] (disk : Disk m)

/-! ## Showing stored timings -/

/-- The source texts of files as far as they can be read. -/
def readSources (names : List String) : m (String → Option (List String)) := do
  let texts ← names.eraseDups.mapM fun name => return (name, (← disk.readText name).toOption)
  return fun name => (texts.lookup name).join.map Text.lines

/-- The options of a report. -/
def Showing.options (s : Showing) (settings : Settings) : Report.Options where
  outputUnit := s.unit.or settings.outputUnit
  stripZeros := s.skipZero
  summarize := s.summarize
  sort := s.sort
  widths := settings.widths

/-- Show stored timings. -/
def Showing.run (s : Showing) (settings : Settings) : m Outcome := do
  match ← Snapshot.readAll disk s.files with
  | .error e => return .ofFailure { headline := "Failed to load stats files", causes := e.chain } ""
  | .ok snapshot =>
    match s.format with
    | .json => return { code := 0, output := snapshot.toJson ++ "\n" }
    | .text =>
      let sources ← readSources disk (snapshot.timings.keys.map Site.file)
      return { code := 0, output := Report.text (s.options settings) sources snapshot }

/-! ## The demonstration -/

/-- Run the sample program under a profiler. The answer is how the profiler listened and what it
recorded. -/
def Demo.profile (d : Demo) (settings : Settings) :
    ExceptT Failure (StateM Engine) (Backend × Snapshot) := do
  let hosted {α : Type} (act : ExceptT ProfilerError (StateM Engine) α) :
      ExceptT Failure (StateM Engine) α := act.adapt fun e => Failure.ofChain e.chain
  let registry ← hosted
    (Engine.newRegistry (d.backend.getD settings.backend) settings.wrapTrace false)
  let profiler ← Engine.newProfiler registry none .shared Sample.sources
  let routines ← Sample.define
  discard <| Engine.addRoutines profiler routines
  discard <| hosted (Engine.enable registry profiler)
  let outcome ← ExceptT.lift (Sample.run d.calls routines).run
  discard <| ExceptT.lift (Engine.disable registry profiler).run
  match outcome with
  | .error e => throw { headline := "demo program failed", causes := [e.message] }
  | .ok () =>
    let e ← get
    return ((e.registry registry).backend, (e.profiler profiler).snapshot)

/-- The report of the demonstration. -/
def Demo.report (settings : Settings) (snapshot : Snapshot) : String :=
  Report.text { outputUnit := settings.outputUnit, widths := settings.widths }
    (Sample.sources.lines {}) snapshot

/-- Store the snapshot of the demonstration, if a file is named. The answer is what there is to say
about it. -/
def Demo.store (d : Demo) (snapshot : Snapshot) : m (Except Failure String) := do
  match d.output with
  | none => return .ok ""
  | some path =>
    match ← snapshot.write disk path with
    | .ok () => return .ok s!"Wrote profile results to {path}\n"
    | .error e => return .error { headline := s!"Failed to write {path}", causes := e.chain }

/-- Run the demonstration. -/
def Demo.run (d : Demo) (settings : Settings) : m Outcome := do
  match ((d.profile settings).run {}).1 with
  | .error e => return .ofFailure e ""
  | .ok (backend, snapshot) =>
    match ← d.store disk snapshot with
    | .error e => return .ofFailure e ""
    | .ok note =>
      return { code := 0, output := Demo.report settings snapshot
               errors := note ++ s!"Backend: {backend.name}\n" }

/-! ## All of it -/

/-- Run a command under the settings in force. -/
def Command.run (c : Command) (env : Environment) : m Outcome := do
  match ← Settings.load disk env with
  | .error e => return .ofFailure { headline := "Failed to load configuration", causes := e.chain } ""
  | .ok settings =>
    match c.task with
    | .showing s => s.run disk settings
    | .demo d => d.run disk settings

/-- Run a command line. -/
def run (env : Environment) (words : List String) : m Outcome :=
  match Command.read words with
  | .error stop => return .ofStop stop
  | .ok command => command.run disk env

end CommandLine

end LineClock

import LineClock.Files
import LineClock.Settings.Document

/-!
# Settings in force

The settings of a run are the defaults, a file on them if one is named, and on both the variables of
the environment. The variables are read one after another; those before one that cannot be read are
in force.
-/

namespace LineClock

/-- The variables that are set. -/
abbrev Environment := String → Option String

namespace Settings

/-- A variable of the environment that decides a setting. -/
structure Variable where
  key : String
  /-- The settings with the variable's value, if the value says anything. -/
  put? : String → Settings → Option Settings

/-- The variables, in the order in which they are read. -/
def allVariables : List Variable :=
  [⟨"LINEPROF_WRAP_TRACE", fun value s => (flag? value).map fun b => { s with wrapTrace := b }⟩,
    ⟨"LINEPROF_CORE", fun value s =>
      (BackendChoice.ofWord value).toOption.map fun choice => { s with backend := choice }⟩,
    ⟨"LINEPROF_DEBUG", fun value s => (flag? value).map fun b => { s with debug := b }⟩]

/-- The settings with some variables on them, and the error that ended the reading. -/
def overlayVariables (env : Environment) : List Variable → Settings → Settings × Option ConfigError
  | [], s => (s, none)
  | v :: rest, s =>
    match env v.key with
    | none => overlayVariables env rest s
    | some value =>
      match v.put? value s with
      | some s => overlayVariables env rest s
      | none => (s, some (.invalidValue v.key value))

/-- The settings with the environment on them. -/
def overlayEnvironment (s : Settings) (env : Environment) : Settings × Option ConfigError :=
  overlayVariables env allVariables s

/-- The variable with the path of a settings file. -/
def fileKey : String := "LINEPROF_RC"

/-- The variables that matter. -/
def keys : List String := fileKey :: allVariables.map Variable.key

/-- The settings in the text of a file. -/
def ofText (path text : String) : Except ConfigError Settings :=
  match overlayText? {} text with
  | some s => .ok s
  | none => .error (.parse path)

/-- The settings of a file on a disk. -/
def readFile {m : Type → Type} [Monad m] (disk : Disk m) (path : String) :
    m (Except ConfigError Settings) := do
  match ← disk.readText path with
  | .error e => return .error (.io path e)
  | .ok text => return ofText path text

/-- The settings of a run. -/
def load {m : Type → Type} [Monad m] (disk : Disk m) (env : Environment) :
    m (Except ConfigError Settings) := do
  let base ← match env fileKey with
    | none => pure (.ok {})
    | some path => readFile disk path
  return base.bind fun s =>
    match s.overlayEnvironment env with
    | (s, none) => .ok s
    | (_, some e) => .error e

end Settings

end LineClock

/-!
# Errors

Each error is a cause; its wording stands in one function per type. An error of a profiler that
surfaces inside a hook becomes a hook error with the same text, and a hook error stays itself.
-/

namespace LineClock

/-- Misuse of the monitoring facility, by tool id. -/
inductive HostError where
  | toolInUse (tool : UInt8)
  | toolNotInUse (tool : UInt8)
  | invalidTool (tool : UInt8)
  deriving DecidableEq, Repr, Inhabited

def HostError.message : HostError → String
  | toolInUse t => s!"tool id {t.toNat} is already in use"
  | toolNotInUse t => s!"tool id {t.toNat} is not in use"
  | invalidTool t => s!"invalid tool id {t.toNat}"

/-- A hook failed, with the hook's own words. -/
structure HookError where
  text : String
  deriving DecidableEq, Repr, Inhabited

def HookError.message (e : HookError) : String := "trace hook failed: " ++ e.text

/-- Why a call did not return normally. -/
inductive ExecError where
  /-- An exception left the outermost frame. -/
  | raised (name : String) (line : UInt32)
  | hook (error : HookError)
  /-- Calls are nested as deep as allowed. -/
  | recursionLimit (depth : Nat)
  /-- A call names a callee that the block does not have. -/
  | badCallee (name : String) (index : UInt8)
  /-- The step budget of a run is used up. -/
  | unfinished
  deriving DecidableEq, Repr, Inhabited

def ExecError.message : ExecError → String
  | raised name line => s!"exception raised in `{name}` at line {line.toNat}"
  | hook e => e.message
  | recursionLimit depth => s!"maximum call depth {depth} exceeded"
  | badCallee name index => s!"`{name}` calls missing callee #{index.toNat}"
  | unfinished => "step budget used up"

/-- Why a file could not be read or written. -/
inductive FileError where
  | notFound
  | notDirectory
  | isDirectory
  | nameTooLong
  | nulInName
  | invalidText
  /-- Anything else, in the words of the system. -/
  | other (text : String)
  deriving DecidableEq, Repr, Inhabited

def FileError.message : FileError → String
  | notFound => "No such file or directory (os error 2)"
  | notDirectory => "Not a directory (os error 20)"
  | isDirectory => "Is a directory (os error 21)"
  | nameTooLong => "File name too long (os error 36)"
  | nulInName => "file name contained an unexpected NUL byte"
  | invalidText => "stream did not contain valid UTF-8"
  | other text => text

/-- Why timings could not be read, written or merged. The reader of a body says only that it is
corrupt. -/
inductive StatsError where
  | io (error : FileError)
  | badMagic (path : String)
  | decode
  | json
  | empty
  deriving DecidableEq, Repr, Inhabited

def StatsError.message : StatsError → String
  | io e => "I/O error: " ++ e.message
  | badMagic path => path ++ ": not a line profile stats file"
  | decode => "corrupt stats body"
  | json => "JSON error"
  | empty => "no statistics to merge"

/-- Why settings could not be read. -/
inductive ConfigError where
  | io (path : String) (error : FileError)
  | parse (path : String)
  | invalidValue (key value : String)
  deriving DecidableEq, Repr, Inhabited

def ConfigError.message : ConfigError → String
  | io path e => s!"cannot read config file {path}: {e.message}"
  | parse path => "invalid config file " ++ path
  | invalidValue key value => s!"invalid value `{value}` for {key}"

/-- Why a profiler could not do what it was asked to. -/
inductive ProfilerError where
  /-- The host lacks the facility of the requested backend. -/
  | unsupportedBackend (requested : String)
  | introspection (name reason : String)
  | source (name file : String) (firstLine : UInt32)
  | exhausted
  | dispatchUnavailable
  | host (error : HostError)
  | hook (error : HookError)
  | stats (error : StatsError)
  | config (error : ConfigError)
  deriving DecidableEq, Repr, Inhabited

def ProfilerError.message : ProfilerError → String
  | unsupportedBackend requested => s!"event backend `{requested}` is not available on this runtime"
  | introspection name reason => s!"cannot profile `{name}`: {reason}"
  | source name file firstLine =>
    s!"cannot locate source block for `{name}` at {file}:{firstLine.toNat}"
  | exhausted => "aggregation table exhausted: cannot allocate a new line entry"
  | dispatchUnavailable => "event dispatch state is unavailable on this thread"
  | host e => "host runtime error: " ++ e.message
  | hook e => "trace hook error: " ++ e.message
  | stats e => e.message
  | config e => e.message

/-- What a profiler's error is inside a hook. -/
def HookError.ofProfilerError : ProfilerError → HookError
  | .hook e => e
  | e => ⟨e.message⟩

end LineClock

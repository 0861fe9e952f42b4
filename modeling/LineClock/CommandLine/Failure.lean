import LineClock.Error

/-!
# Failures as the user reads them

A failure says what could not be done and then its causes, each the cause of the one before.
-/

namespace LineClock

/-- An error's text and those of its causes. -/
def StatsError.chain (e : StatsError) : List String :=
  e.message :: match e with
    | .io cause => [cause.message]
    | _ => []

/-- An error's text and those of its causes. -/
def ConfigError.chain (e : ConfigError) : List String :=
  e.message :: match e with
    | .io _ cause => [cause.message]
    | _ => []

/-- An error's text and those of its causes. The text of an error that came from elsewhere stands for
that error. -/
def ProfilerError.chain (e : ProfilerError) : List String :=
  match e with
  | .stats e => e.chain
  | .config e => e.chain
  | .host cause => [e.message, cause.message]
  | .hook cause => [e.message, cause.message]
  | _ => [e.message]

namespace CommandLine

/-- What could not be done, and why. -/
structure Failure where
  headline : String
  causes : List String := []
  deriving DecidableEq, Repr, Inhabited

namespace Failure

/-- An error as a failure of its own. -/
def ofChain : List String → Failure
  | [] => { headline := "" }
  | headline :: causes => { headline, causes }

/-- A text with `first` before its first line and `next` before every other. -/
def indented (first next text : String) : String :=
  first ++ ("\n" ++ next).intercalate (text.splitOn "\n")

/-- A cause; of several each has its number. -/
def cause (numbered : Bool) (index : Nat) (text : String) : String :=
  if numbered then
    let digits := toString index
    let place := String.ofList (List.replicate (5 - digits.length) ' ')
    indented (place ++ digits ++ ": ") "       " text
  else
    indented "    " "    " text

/-- The text of a failure. -/
def text (f : Failure) : String :=
  let causes := (f.causes.zipIdx).map fun (text, index) => cause (1 < f.causes.length) index text
  let tail := if causes.isEmpty then "" else "\n\nCaused by:\n" ++ "\n".intercalate causes
  "Error: " ++ f.headline ++ tail ++ "\n"

end Failure

end CommandLine

end LineClock

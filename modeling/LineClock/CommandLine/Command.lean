import LineClock.CommandLine.Grammar
import LineClock.Decimal
import LineClock.Settings.Basic

/-!
# Commands

A command line says which command to run: show stored timings, or run a demonstration. Debugging can
be switched on before the command's name and among its own options.
-/

namespace LineClock

namespace CommandLine

/-- How stored timings are shown. -/
inductive Format where
  | text
  | json
  deriving DecidableEq, Repr, Inhabited

/-- Show stored timings. -/
structure Showing where
  files : List String := []
  unit : Option Float := none
  skipZero : Bool := false
  sort : Bool := false
  summarize : Bool := false
  format : Format := .text
  deriving Inhabited

/-- Run a demonstration. -/
structure Demo where
  backend : Option BackendChoice := none
  /-- How often the first routine is called. -/
  calls : Nat := 5
  output : Option String := none
  deriving Inhabited

/-- What to do. -/
inductive Task where
  | showing (showing : Showing)
  | demo (demo : Demo)
  deriving Inhabited

/-- What a command line says. -/
structure Command where
  debug : Bool
  task : Task
  deriving Inhabited

/-! ## Values -/

/-- The value of one of a list of choices. -/
def choose {α : Type} (argument : String) (choices : List String) (read : String → Option α)
    (value : String) : Except Stop α :=
  match read value with
  | some a => .ok a
  | none =>
    .error (if value = "" then .missingValue argument choices else .badChoice argument value choices)

/-- A path, which may not be empty. -/
def path (argument value : String) : Except Stop String :=
  if value = "" then .error (.missingValue argument []) else .ok value

/-- A floating point number. -/
def real (argument value : String) : Except Stop Float :=
  match Decimal.float? value with
  | some x => .ok x
  | none =>
    .error (.badValue argument value
      (if value = "" then "cannot parse float from empty string" else "invalid float literal"))

/-- The largest number of calls. -/
def maxCalls : Nat := UInt32.size - 1

/-- Why a text is no number of calls, if it is none. -/
def callsFault? (value : String) : Option String :=
  match Decimal.integer? value.toList with
  | none => some (if value = "" then "cannot parse integer from empty string" else "invalid digit found in string")
  | some n =>
    if Int64.maxValue.toInt < n then some "number too large to fit in target type"
    else if n < Int64.minValue.toInt then some "number too small to fit in target type"
    else if n < 0 ∨ maxCalls < n then some s!"{n} is not in 0..={maxCalls}"
    else none

/-- A number of calls. -/
def calls (argument value : String) : Except Stop Nat :=
  match callsFault? value with
  | some reason => .error (.badValue argument value reason)
  | none => .ok ((Decimal.integer? value.toList).getD 0).toNat

/-- A format by its name. -/
def Format.named? (name : String) : Option Format :=
  if name = "text" then some .text else if name = "json" then some .json else none

/-! ## Grammars -/

/-- The options for help on a topic: the word asks for it in full, the letter in brief. -/
def helpSwitches {σ : Type} (topic : Topic) : List (Switch σ) :=
  [{ long := some "help", argument := "--help", effect := .flag fun _ => .error (.help topic true) },
    { short := some 'h', argument := "-h", effect := .flag fun _ => .error (.help topic false) }]

/-- The option for debugging. -/
def debugSwitch {σ : Type} (set : σ → σ) : Switch σ where
  long := some "debug"
  argument := "--debug"
  effect := .flag fun s => .ok (set s)

/-- An option without a value. -/
def flag {σ : Type} (long : String) (short : Char) (set : σ → σ) : Switch σ where
  long := some long
  short := some short
  argument := "--" ++ long
  effect := .flag fun s => .ok (set s)

/-- The options before a command's name. What is read is whether to debug. -/
def programGrammar : Grammar Bool where
  topic := .program
  switches :=
    debugSwitch (fun _ => true) :: helpSwitches .program ++
      [{ long := some "version", short := some 'V', argument := "--version"
         effect := .flag fun _ => .error .version }]

/-- A task in the making, and whether to debug. -/
structure Draft (τ : Type) where
  debug : Bool := false
  task : τ

/-- What comes after the word for showing. -/
def showingGrammar : Grammar (Draft Showing) where
  topic := .showing
  switches :=
    [{ long := some "unit", short := some 'u', argument := "--unit <SECONDS>"
       effect := .value [] fun v d => do
        let x ← real "--unit <SECONDS>" v
        return { d with task.unit := some x } },
      flag "skip-zero" 'z' fun d => { d with task.skipZero := true },
      flag "sort" 'r' fun d => { d with task.sort := true },
      flag "summarize" 's' fun d => { d with task.summarize := true },
      { long := some "format", argument := "--format <FORMAT>"
        effect := .value ["text", "json"] fun v d => do
          let f ← choose "--format <FORMAT>" ["text", "json"] Format.named? v
          return { d with task.format := f } },
      debugSwitch fun d => { d with debug := true }] ++ helpSwitches .showing
  operand := some fun v d => do
    let file ← path "<FILE>..." v
    return { d with task.files := d.task.files ++ [file] }

/-- The names of backends that messages show. -/
def backendNames : List String := ["auto", "legacy", "monitoring"]

/-- What comes after the word for the demonstration. -/
def demoGrammar : Grammar (Draft Demo) where
  topic := .demo
  switches :=
    [{ long := some "backend", argument := "--backend <BACKEND>"
       effect := .value backendNames fun v d => do
        let b ← choose "--backend <BACKEND>" backendNames BackendChoice.named? v
        return { d with task.backend := some b } },
      { long := some "calls", argument := "--calls <N>"
        effect := .value [] fun v d => do
          let n ← calls "--calls <N>" v
          return { d with task.calls := n } },
      { long := some "output", short := some 'o', argument := "--output <FILE>"
        effect := .value [] fun v d => do
          let file ← path "--output <FILE>" v
          return { d with task.output := some file } },
      debugSwitch fun d => { d with debug := true }] ++ helpSwitches .demo

/-! ## Commands by name -/

/-- The topic that a command's name stands for. -/
def topicNamed? (name : String) : Option Topic :=
  if name = "show" then some .showing
  else if name = "demo" then some .demo
  else if name = "help" then some .asking
  else none

/-- The names of commands. -/
def commandNames : List String := ["show", "demo", "help"]

/-- What comes of a word in the place of a command's name. -/
def noSuchCommand (word : String) : Stop :=
  .unknownCommand .program word (Tip.ofSimilar "subcommand" (Text.similarWords word commandNames))

/-- What comes of the words after the one that asks for help. -/
def help : List String → Stop
  | [] => .help .program true
  | word :: rest =>
    match topicNamed? word, rest with
    | none, _ => .unknownCommand .program word []
    | some topic, [] => .help topic true
    | some topic, next :: _ => .unknownCommand topic next []

/-- Read what comes after a command's name. -/
def command (debug : Bool) (words : List String) : Topic → Except Stop Command
  | .program | .asking => .error (help words)
  | .showing => do
    let r ← showingGrammar.read { task := {} } words
    if r.got.task.files.isEmpty then
      throw (.missingArgument .showing r.given "<FILE>...")
    return { debug := debug || r.got.debug, task := .showing r.got.task }
  | .demo => do
    let r ← demoGrammar.read { task := {} } words
    return { debug := debug || r.got.debug, task := .demo r.got.task }

/-- Where the words end before a command's name. -/
def ended (debug : Bool) : Stop := if debug then .noCommand else .nothing

/-- What comes of the words after two dashes before a command's name, where no name may stand. -/
def afterDashes (debug : Bool) : List String → Stop
  | [] => ended debug
  | word :: _ =>
    if (topicNamed? word).isSome then .unknownArgument .program [] word [] else noSuchCommand word

/-- Read from the front on. -/
def readFrom (r : Reading Bool) : List String → Except Stop Command
  | [] => .error (ended r.got)
  | word :: words =>
    match topicNamed? word with
    | some topic => command r.got words topic
    | none =>
      match Word.of word with
      | .dashes => .error (afterDashes r.got words)
      | .long name value => do readFrom (← r.long programGrammar name value) words
      | .letters cs => do readFrom (← r.letters programGrammar cs) words
      | .operand => .error (noSuchCommand word)

/-- The command that a command line is. -/
def Command.read (words : List String) : Except Stop Command := readFrom { got := false } words

end CommandLine

end LineClock

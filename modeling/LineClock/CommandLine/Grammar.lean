import LineClock.CommandLine.Stop

/-!
# Reading the words of a command

A word is an option if it starts with a dash: a long name after two dashes, perhaps with a value
after an equals sign, or letters after one dash, of which the first that takes a value takes the rest
of the word. An option without its value takes the next word that is no option. After a word of two
dashes nothing is an option any more.

A value comes into force when the next option or operand is read. Where a word does not fit at all,
what is not yet in force is not looked at.
-/

namespace LineClock

namespace CommandLine

/-- What an option does to what was read so far. -/
inductive Effect (σ : Type) where
  | flag (set : σ → Except Stop σ)
  | value (choices : List String) (set : String → σ → Except Stop σ)

/-- An option. -/
structure Switch (σ : Type) where
  long : Option String := none
  short : Option Char := none
  /-- How messages refer to it. -/
  argument : String
  effect : Effect σ

/-- What a command takes. -/
structure Grammar (σ : Type) where
  topic : Topic
  switches : List (Switch σ)
  /-- What a word that is no option does, if there may be any. -/
  operand : Option (String → σ → Except Stop σ) := none

/-- The tip that a word was meant as an operand, if there may be any. -/
def Grammar.asOperand {σ : Type} (g : Grammar σ) (word : String) : List Tip :=
  if g.operand.isSome then [.operand word] else []

/-- What was read but is not in force yet. -/
inductive Pending (σ : Type) where
  | nothing
  /-- An option that has no value yet. -/
  | option (switch : Switch σ) (choices : List String) (set : String → σ → Except Stop σ)
  | value (switch : Switch σ) (set : σ → Except Stop σ)
  | operands (words : List String)

/-- How far a command was read. -/
structure Reading (σ : Type) where
  got : σ
  /-- The options that are in force, as messages refer to them, in the order of their coming. -/
  given : List String := []
  pending : Pending σ := .nothing

/-- A word of a command line. -/
inductive Word where
  /-- Two dashes. -/
  | dashes
  | long (name : String) (value : Option String)
  | letters (letters : List Char)
  | operand
  deriving DecidableEq, Repr, Inhabited

/-- What kind of word a word is. -/
def Word.of (word : String) : Word :=
  match word.toList with
  | ['-', '-'] => .dashes
  | '-' :: '-' :: cs =>
    .long (String.ofList (cs.takeWhile (· ≠ '=')))
      (match cs.dropWhile (· ≠ '=') with
        | [] => none
        | _ :: value => some (String.ofList value))
  | '-' :: c :: cs => .letters (c :: cs)
  | _ => .operand

namespace Reading

variable {σ : Type} (g : Grammar σ)

/-- Bring an option into force, unless it is in force already. -/
def apply (switch : Switch σ) (set : σ → Except Stop σ) (r : Reading σ) :
    Except Stop (Reading σ) := do
  if r.given.contains switch.argument then
    throw (.repeated g.topic switch.argument)
  return { r with
    got := ← set r.got, given := r.given ++ [switch.argument], pending := .nothing }

/-- Bring into force what was read. -/
def settle (r : Reading σ) : Except Stop (Reading σ) :=
  match r.pending with
  | .nothing => .ok r
  | .option switch choices _ => .error (.missingValue switch.argument choices)
  | .value switch set => r.apply g switch set
  | .operands words =>
    match g.operand with
    | none => .ok { r with pending := .nothing }
    | some take =>
      return { r with got := ← words.foldlM (fun s w => take w s) r.got, pending := .nothing }

/-- The options in force once a value that was read counts, whether it is a good one or not; one that
was given twice is out. -/
def mentioned (r : Reading σ) : List String :=
  match r.pending with
  | .value switch _ =>
    if r.given.contains switch.argument then r.given.erase switch.argument
    else r.given ++ [switch.argument]
  | _ => r.given

/-- What comes of a long name that is not known. -/
def unknownLong (name : String) (r : Reading σ) : Stop :=
  let candidates := Text.similarWords name (g.switches.filterMap Switch.long)
  match candidates.getLast?.bind fun c => g.switches.find? fun s => s.long = some c with
  | some switch =>
    .unknownArgument g.topic (r.mentioned ++ [switch.argument].filter (· ∉ r.mentioned))
      ("--" ++ name) (Tip.ofSimilar "argument" (switch.long.toList.map ("--" ++ ·)))
  | none => .unknownArgument g.topic r.mentioned ("--" ++ name) (g.asOperand ("--" ++ name))

/-- Read an option with a value, a word of its own if `value` is absent. -/
def takeValue (switch : Switch σ) (choices : List String) (set : String → σ → Except Stop σ)
    (value : Option String) (r : Reading σ) : Except Stop (Reading σ) := do
  let r ← r.settle g
  match value with
  | some v => r.apply g switch (set v)
  | none => return { r with pending := .option switch choices set }

/-- Read a long name. -/
def long (name : String) (value : Option String) (r : Reading σ) : Except Stop (Reading σ) :=
  match g.switches.find? fun s => s.long = some name, value with
  | none, _ => .error (r.unknownLong g name)
  | some switch, _ =>
    match switch.effect, value with
    | .flag set, none => do (← r.settle g).apply g switch set
    | .flag _, some v => .error (.unneededValue g.topic r.given switch.argument v)
    | .value choices set, _ => r.takeValue g switch choices set value

/-- The value that the rest of a word of letters is. -/
def attached? : List Char → Option String
  | [] => none
  | '=' :: cs => some (String.ofList cs)
  | cs => some (String.ofList cs)

/-- Read letters. -/
def letters : List Char → Reading σ → Except Stop (Reading σ)
  | [], r => .ok r
  | c :: cs, r =>
    match g.switches.find? fun s => s.short = some c with
    | none =>
      let word := String.ofList ['-', c]
      .error (.unknownArgument g.topic [] word (g.asOperand word))
    | some switch =>
      match switch.effect with
      | .flag set => do letters cs (← (← r.settle g).apply g switch set)
      | .value choices set => r.takeValue g switch choices set (attached? cs)

/-- Read an operand. -/
def operand (word : String) (r : Reading σ) : Except Stop (Reading σ) :=
  match g.operand, r.pending with
  | none, _ => .error (.unknownArgument g.topic [] word [])
  | some _, .operands words => .ok { r with pending := .operands (words ++ [word]) }
  | some _, _ => return { ← r.settle g with pending := .operands [word] }

/-- Read a word that is no option: the value of an option that waits for one, or an operand. -/
def plain (word : String) (r : Reading σ) : Except Stop (Reading σ) :=
  match r.pending with
  | .option switch _ set => .ok { r with pending := .value switch (set word) }
  | _ => r.operand g word

/-- Read all words and bring them into force. -/
def words (g : Grammar σ) : List String → Reading σ → Except Stop (Reading σ)
  | [], r => r.settle g
  | w :: ws, r =>
    match Word.of w with
    | .dashes => do (← ws.foldlM (fun r w => r.operand g w) r).settle g
    | .long name value => do words g ws (← r.long g name value)
    | .letters cs => do words g ws (← r.letters g cs)
    | .operand => do words g ws (← r.plain g w)

end Reading

/-- What the words of a command say. -/
def Grammar.read {σ : Type} (g : Grammar σ) (start : σ) (words : List String) :
    Except Stop (Reading σ) :=
  Reading.words g words { got := start }

end CommandLine

end LineClock

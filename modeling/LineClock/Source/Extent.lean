import LineClock.Text.Basic

/-!
# The extent of a block in source text

How many lines belong to the block whose header stands at a given line. Decorators before the
header belong to it, and so do all lines of a header that leaves brackets open. The body is every
line after that which is indented deeper than the first line; blank lines and comments count only
between lines of the body.
-/

namespace LineClock.Source

/-- The width of the white space a line starts with; a tab is eight wide. -/
def indent (line : String) : Nat :=
  (line.toList.takeWhile fun c => c = ' ' ∨ c = '\t').foldl
    (fun n c => n + if c = '\t' then 8 else 1) 0

/-- Whether a line holds nothing but blanks and a comment. -/
def isSilent (line : String) : Bool :=
  match Text.trimStart line.toList with
  | [] => true
  | c :: _ => c = '#'

/-- Whether a line starts a decorator. -/
def isDecorator (line : String) : Bool := (Text.trimStart line.toList).head? = some '@'

/-- Whether a character opens a string literal. -/
def isQuote (c : Char) : Bool := c = '\x27' ∨ c = '\x22'

/-- Whether a character opens a bracket. -/
def opens (c : Char) : Bool := c = '(' ∨ c = '[' ∨ c = '\x7b'

/-- Whether a character closes a bracket. -/
def closes (c : Char) : Bool := c = ')' ∨ c = ']' ∨ c = '\x7d'

/-- Where a reader of a line stands: in plain text, or inside a literal, possibly after a
backslash. -/
inductive Place where
  | plain
  | literal (quote : Char) (escaped : Bool)
  deriving DecidableEq, Repr, Inhabited

/-- Brackets opened less brackets closed, outside literals and before a comment. -/
def bracketBalance : Place → List Char → Int
  | _, [] => 0
  | .literal q true, _ :: rest => bracketBalance (.literal q false) rest
  | .literal q false, c :: rest =>
    if c = '\\' then bracketBalance (.literal q true) rest
    else if c = q then bracketBalance .plain rest
    else bracketBalance (.literal q false) rest
  | .plain, c :: rest =>
    if c = '#' then 0
    else if isQuote c then bracketBalance (.literal c false) rest
    else (if opens c then 1 else if closes c then -1 else 0) + bracketBalance .plain rest

/-- The bracket balance of a line. -/
def lineBalance (line : String) : Int := bracketBalance .plain line.toList

/-- How many lines it takes until no bracket is open, with `depth` open brackets before them. -/
def headerLength? (depth : Int) : List String → Option Nat
  | [] => none
  | line :: rest =>
    let depth := depth + lineBalance line
    if depth ≤ 0 then some 1 else (headerLength? depth rest).map (· + 1)

/-- How many of the lines belong to a body that is indented deeper than `base`. -/
def bodyLength (base : Nat) : List String → Nat
  | [] => 0
  | line :: rest =>
    if isSilent line then
      match bodyLength base rest with
      | 0 => 0
      | n + 1 => n + 2
    else if indent line ≤ base then 0
    else bodyLength base rest + 1

/-- The length of the block that starts with the first of the given lines. -/
def lengthFrom? (lines : List String) : Option Nat :=
  match lines with
  | [] => none
  | first :: _ =>
    if isSilent first then none
    else
      let decorators := (lines.takeWhile isDecorator).length
      let rest := lines.drop decorators
      match headerLength? 0 rest with
      | none => none
      | some header =>
        some (decorators + header + bodyLength (indent first) (rest.drop header))

/-- The length in lines of the block at line `firstLine`, counted from one. -/
def blockLength? (lines : List String) (firstLine : UInt32) : Option Nat :=
  if firstLine = 0 then none else lengthFrom? (lines.drop (firstLine.toNat - 1))

/-- The text of a line, counted from one. -/
def lineText? (lines : List String) (line : UInt32) : Option String :=
  if line = 0 then none else lines[line.toNat - 1]?

end LineClock.Source

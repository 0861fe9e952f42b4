import LineClock.Decimal
import LineClock.Toml.Basic

/-!
# Reading TOML

A document is a list of lines: keys with values, headers of tables, comments. Values may reach over
several lines. Anything that does not fit the grammar, a key that stands twice, or a whole or
floating point number out of range makes the document unreadable.
-/

namespace LineClock.Toml

/-- Something read from the front of a text, and the rest. -/
abbrev Scan (α : Type) := StateT (List Char) Option α

/-! ## Blanks, comments and ends of lines -/

/-- The characters from the first that is neither a blank nor a tab on. -/
def skipBlanks (cs : List Char) : List Char := cs.dropWhile fun c => c = ' ' ∨ c = '\t'

/-- Whether a character may stand in a comment or in a quoted text on one line. -/
def isPrintable (c : Char) : Bool := c = '\t' ∨ (0x20 ≤ c.toNat ∧ c.toNat ≠ 0x7f)

/-- What follows the end of a line, if one is at the front. -/
def newLine? : List Char → Option (List Char)
  | '\n' :: rest => some rest
  | '\r' :: '\n' :: rest => some rest
  | _ => none

/-- The text after a comment, if one is at the front. -/
def skipComment : List Char → List Char
  | '#' :: rest => rest.dropWhile isPrintable
  | cs => cs

/-- What follows the line at whose end only blanks and a comment are left. -/
def lineEnd? (cs : List Char) : Option (List Char) :=
  match skipComment (skipBlanks cs) with
  | [] => some []
  | cs => newLine? cs

/-- The characters from the first that is neither a blank, a line end nor in a comment on. Each
round goes to the next line; at most `fuel` are made. -/
def skipLines : Nat → List Char → List Char
  | 0, cs => cs
  | fuel + 1, cs =>
    let cs := skipComment (skipBlanks cs)
    match newLine? cs with
    | some rest => skipLines fuel rest
    | none => cs

/-- Read over blanks. -/
def blanks : Scan Unit := modify skipBlanks

/-- Read over blanks, line ends and comments. -/
def lines : Scan Unit := modify fun cs => skipLines (cs.length + 1) cs

/-- The next character. -/
def next : Scan Char := fun
  | [] => none
  | c :: rest => some (c, rest)

/-- Whether a text is at the front; it is read if it is. -/
def front (s : String) : Scan Bool := fun cs =>
  let s := s.toList
  if s.isPrefixOf cs then some (true, cs.drop s.length) else some (false, cs)

/-- Read a text that has to be at the front. -/
def expect (s : String) : Scan Unit := do
  unless ← front s do failure

/-- The longest run of characters that satisfy `p`. -/
def run (p : Char → Bool) : Scan (List Char) := fun cs => some (cs.takeWhile p, cs.dropWhile p)

/-! ## Texts -/

/-- The value of a hexadecimal digit. -/
def hexDigit? (c : Char) : Option Nat :=
  if c.isDigit then some (c.toNat - '0'.toNat)
  else if 'a' ≤ c ∧ c ≤ 'f' then some (c.toNat - 'a'.toNat + 10)
  else if 'A' ≤ c ∧ c ≤ 'F' then some (c.toNat - 'A'.toNat + 10)
  else none

/-- The character with a given number in hexadecimal digits. -/
def charNumbered? (cs : List Char) : Option Char := do
  let n ← cs.foldlM (fun n c => (hexDigit? c).map (16 * n + ·)) 0
  if n < 0xd800 ∨ (0xe000 ≤ n ∧ n < 0x110000) then some (Char.ofNat n) else none

/-- The character that an escape stands for, after the backslash. -/
def escape? : List Char → Option (Char × List Char)
  | 'b' :: rest => some ('\x08', rest)
  | 't' :: rest => some ('\t', rest)
  | 'n' :: rest => some ('\n', rest)
  | 'f' :: rest => some ('\x0c', rest)
  | 'r' :: rest => some ('\r', rest)
  | '\x22' :: rest => some ('\x22', rest)
  | '\\' :: rest => some ('\\', rest)
  | 'u' :: rest =>
    if rest.length < 4 then none else (charNumbered? (rest.take 4)).map (·, rest.drop 4)
  | 'U' :: rest =>
    if rest.length < 8 then none else (charNumbered? (rest.take 8)).map (·, rest.drop 8)
  | _ => none

/-- The characters of a quoted text on one line, up to its closing quote. -/
def basicText : Nat → Scan (List Char)
  | 0 => failure
  | fuel + 1 => do
    let c ← next
    if c = '\x22' then return []
    if c = '\\' then
      let c ← (escape? : Scan Char)
      return c :: (← basicText fuel)
    if isPrintable c then return c :: (← basicText fuel)
    failure

/-- The characters of a text between apostrophes, up to the closing one. Nothing is escaped. -/
def literalText : Scan (List Char) := do
  let cs ← run fun c => isPrintable c && c ≠ '\x27'
  expect "\x27"
  return cs

/-- The quotes at the end of a text over several lines: three close it, up to two more belong to
the text. Fewer than three belong to the text, which goes on. -/
def closing (quote : Char) : Scan (List Char × Bool) := do
  let quotes ← run fun c => c = quote
  let n := quotes.length
  if n < 3 then return (quotes, false)
  if 5 < n then failure
  return (quotes.drop 3, true)

/-- Whether a backslash at the end of a line is at the front. -/
def isContinued (cs : List Char) : Bool :=
  match cs with
  | '\\' :: rest => (newLine? (skipBlanks rest)).isSome
  | _ => false

/-- Read over blanks and line ends. -/
def skipSpace (cs : List Char) : List Char :=
  cs.dropWhile fun c => c = ' ' ∨ c = '\t' ∨ c = '\n' ∨ c = '\r'

/-- The characters of a quoted text over several lines. -/
def basicLines : Nat → Scan (List Char)
  | 0 => failure
  | fuel + 1 => do
    let (quotes, closed) ← closing '\x22'
    if closed then return quotes
    let cs ← get
    if isContinued cs then
      set (skipSpace (cs.drop 1))
      return quotes ++ (← basicLines fuel)
    match newLine? cs with
    | some rest =>
      set rest
      return quotes ++ '\n' :: (← basicLines fuel)
    | none =>
      let c ← next
      if c = '\\' then
        let c ← (escape? : Scan Char)
        return quotes ++ c :: (← basicLines fuel)
      if isPrintable c then return quotes ++ c :: (← basicLines fuel)
      failure

/-- The characters of a text between apostrophes over several lines. -/
def literalLines : Nat → Scan (List Char)
  | 0 => failure
  | fuel + 1 => do
    let (quotes, closed) ← closing '\x27'
    if closed then return quotes
    match newLine? (← get) with
    | some rest =>
      set rest
      return quotes ++ '\n' :: (← literalLines fuel)
    | none =>
      let c ← next
      if isPrintable c then return quotes ++ c :: (← literalLines fuel)
      failure

/-- Read over one end of a line, if it is at the front. -/
def firstLine : Scan Unit := modify fun cs => (newLine? cs).getD cs

/-- A quoted text on one line, after its first quote. -/
def shortText (quote : Char) : Scan String := do
  let cs ← if quote = '\x27' then literalText else basicText ((← get).length + 1)
  return String.ofList cs

/-- A text in quotes of any kind. -/
def anyText : Scan String := do
  if ← front "\x22\x22\x22" then
    firstLine
    return String.ofList (← basicLines ((← get).length + 1))
  if ← front "\x27\x27\x27" then
    firstLine
    return String.ofList (← literalLines ((← get).length + 1))
  shortText (← next)

/-! ## Keys -/

/-- Whether a character may stand in a key without quotes. -/
def isBare (c : Char) : Bool := c.isAlphanum || c = '_' || c = '-'

/-- One part of a key. -/
def simpleKey : Scan String := do
  if ← front "\x22" then return ← shortText '\x22'
  if ← front "\x27" then return ← shortText '\x27'
  let cs ← run isBare
  if cs.isEmpty then failure
  return String.ofList cs

/-- The parts of a key after the first. -/
def moreKeys : Nat → Scan (List String)
  | 0 => pure []
  | fuel + 1 => do
    blanks
    if ← front "." then
      blanks
      let k ← simpleKey
      return k :: (← moreKeys fuel)
    return []

/-- How deep values may nest, and how many parts a key may have. -/
def maxDepth : Nat := 80

/-- A key: the parts before the last, and the last. -/
def key : Scan (List String × String) := do
  let k ← simpleKey
  let ks := k :: (← moreKeys (← get).length)
  if maxDepth ≤ ks.length then failure
  return (ks.dropLast, ks.getLast?.getD k)

/-! ## Numbers, dates and times -/

/-- Digits in a base with single underscores between them. -/
def digits? (base : Nat) (cs : List Char) : Option Nat :=
  let rec go (n : Nat) (afterDigit : Bool) : List Char → Option Nat
    | [] => if afterDigit then some n else none
    | '_' :: rest => if afterDigit then go n false rest else none
    | c :: rest =>
      match hexDigit? c with
      | some d => if d < base then go (base * n + d) true rest else none
      | none => none
  go 0 false cs

/-- The text without underscores. -/
def withoutUnderscores (cs : List Char) : List Char := cs.filter (· ≠ '_')

/-- A whole number in the range of 64 bits. -/
def inRange? (n : Int) : Option Toml :=
  if Int64.minValue.toInt ≤ n ∧ n ≤ Int64.maxValue.toInt then some (whole n) else none

/-- Whether digits have no zero in front of others. -/
def noLeadingZero : List Char → Bool
  | '0' :: _ :: _ => false
  | _ => true

/-- A whole number. -/
def integer? : List Char → Option Toml
  | '0' :: 'x' :: rest => (digits? 16 rest).bind fun n => inRange? n
  | '0' :: 'o' :: rest => (digits? 8 rest).bind fun n => inRange? n
  | '0' :: 'b' :: rest => (digits? 2 rest).bind fun n => inRange? n
  | cs => do
    let (negative, cs) := Decimal.takeSign cs
    let n ← digits? 10 cs
    if noLeadingZero cs then inRange? (if negative then -n else n) else none

/-- A floating point number with a point or an exponent; infinity is out of range unless it is
written as such. -/
def float? (cs : List Char) : Option Toml := do
  let (negative, cs) := Decimal.takeSign cs
  let signed (x : Float) := real (if negative then -x else x)
  if cs = "inf".toList then return signed Decimal.infinity
  if cs = "nan".toList then return signed (0.0 / 0.0)
  let isMark c := c = 'e' ∨ c = 'E'
  let body := cs.takeWhile fun c => ¬ isMark c
  let exponent := cs.dropWhile fun c => ¬ isMark c
  let whole := body.takeWhile (· ≠ '.')
  let fraction := body.dropWhile (· ≠ '.')
  if exponent.isEmpty ∧ fraction.isEmpty then none
  discard (digits? 10 whole)
  unless noLeadingZero whole do none
  unless fraction.isEmpty do discard (digits? 10 (fraction.drop 1))
  unless exponent.isEmpty do discard (digits? 10 (Decimal.takeSign (exponent.drop 1)).2)
  let x ← Decimal.magnitude? (withoutUnderscores cs)
  if x.isInf then none
  return signed x

/-- Two digits that make a number between two bounds. -/
def pair? (low high : Nat) : List Char → Option (Nat × List Char)
  | a :: b :: rest => do
    let n ← Decimal.natural? [a, b]
    if low ≤ n ∧ n ≤ high then some (n, rest) else none
  | _ => none

/-- What follows a character that has to be at the front. -/
def after? (c : Char) : List Char → Option (List Char)
  | [] => none
  | d :: rest => if d = c then some rest else none

/-- How many days a month has. -/
def daysIn (year month : Nat) : Nat :=
  if month = 2 then
    if year % 4 = 0 ∧ (year % 100 ≠ 0 ∨ year % 400 = 0) then 29 else 28
  else if month = 4 ∨ month = 6 ∨ month = 9 ∨ month = 11 then 30
  else 31

/-- What follows a date. -/
def date? (cs : List Char) : Option (List Char) := do
  if cs.length < 4 then none
  let year ← Decimal.natural? (cs.take 4)
  let cs ← after? '-' (cs.drop 4)
  let (month, cs) ← pair? 1 12 cs
  let cs ← after? '-' cs
  let (_, cs) ← pair? 1 (daysIn year month) cs
  return cs

/-- What follows a time of day. -/
def clock? (cs : List Char) : Option (List Char) := do
  let (_, cs) ← pair? 0 23 cs
  let cs ← after? ':' cs
  let (_, cs) ← pair? 0 59 cs
  let cs ← after? ':' cs
  let (_, cs) ← pair? 0 60 cs
  match cs with
  | '.' :: rest =>
    if (rest.takeWhile Char.isDigit).isEmpty then none else some (rest.dropWhile Char.isDigit)
  | cs => some cs

/-- Whether a text is an offset from universal time, or nothing. -/
def isOffset : List Char → Bool
  | [] => true
  | ['Z'] | ['z'] => true
  | c :: cs =>
    (c = '+' ∨ c = '-') && (do
      let (_, cs) ← pair? 0 23 cs
      let cs ← after? ':' cs
      let (_, cs) ← pair? 0 59 cs
      return cs.isEmpty).getD false

/-- Whether a text is a time of day, perhaps with an offset. -/
def isClock (offset : Bool) (cs : List Char) : Bool :=
  match clock? cs with
  | none => false
  | some rest => rest.isEmpty || (offset && isOffset rest)

/-- Whether a character may stand in a number, a date or a word. -/
def isWordChar (c : Char) : Bool :=
  c.isAlphanum || c = '_' || c = '+' || c = '-' || c = '.' || c = ':'

/-- A date that a blank separates from a time of day, or a date alone. -/
def dated : Scan Toml := do
  match ← get with
  | ' ' :: c :: rest =>
    if c.isDigit then
      set (c :: rest)
      if isClock true (← run isWordChar) then return time
      failure
    return time
  | _ => return time

/-- A value written as one word. -/
def word : Scan Toml := do
  let cs ← run isWordChar
  if cs = "true".toList then return bool true
  if cs = "false".toList then return bool false
  match date? cs with
  | some [] => dated
  | some (c :: rest) => if (c = 'T' ∨ c = 't') ∧ isClock true rest then return time else failure
  | none =>
    if isClock false cs then return time
    match integer? cs with
    | some v => return v
    | none => float? cs

/-! ## Values -/

mutual
/-- A value whose lists and tables nest less than `depth` deep. -/
def value : Nat → Scan Toml
  | 0 => failure
  | depth + 1 => do
    match ← get with
    | '\x22' :: _ | '\x27' :: _ => return text (← anyText)
    | '[' :: rest =>
      if depth = 0 then failure
      set rest
      return list (← items depth (rest.length + 1))
    | '\x7b' :: rest =>
      if depth = 0 then failure
      set rest
      return table .closed (← pairs depth (rest.length + 1))
    | _ => word
  termination_by depth => (depth, 0)

/-- The items of a list up to its closing bracket; at most `fuel` are read. -/
def items : Nat → Nat → Scan (List Toml)
  | _, 0 => failure
  | depth, fuel + 1 => do
    lines
    if ← front "]" then return []
    let v ← value depth
    lines
    if ← front "," then return v :: (← items depth fuel)
    expect "]"
    return [v]
  termination_by depth fuel => (depth, fuel)

/-- The entries of a table inside a value up to its closing brace; at most `fuel` are read. -/
def pairs : Nat → Nat → Scan Entries
  | depth, fuel => do
    blanks
    if ← front "\x7d" then return []
    morePairs depth fuel []
  termination_by depth fuel => (depth, fuel + 1)

/-- More entries, to be added to those that were read. -/
def morePairs : Nat → Nat → Entries → Scan Entries
  | _, 0, _ => failure
  | depth, fuel + 1, entries => do
    blanks
    let (path, k) ← key
    blanks
    expect "="
    blanks
    let v ← value depth
    let entries ← (addPath path k v entries : Option Entries)
    blanks
    if ← front "," then return ← morePairs depth fuel entries
    expect "\x7d"
    return entries
  termination_by depth fuel => (depth, fuel)
end

/-! ## Documents -/

/-- A document that is being read: the path of the header read last, and all entries. -/
structure Draft where
  header : List String := []
  entries : Entries := []
  deriving Inhabited

/-- Read a line, or a key with a value over several lines. -/
def line (d : Draft) : Scan Draft := do
  blanks
  let d ← do
    match ← get with
    | [] | '#' :: _ | '\n' :: _ | '\r' :: _ => pure d
    | '[' :: '[' :: rest =>
      set rest
      blanks
      let (path, k) ← key
      blanks
      expect "]]"
      let entries ← (openElement path k d.entries : Option Entries)
      pure { header := path ++ [k], entries }
    | '[' :: rest =>
      set rest
      blanks
      let (path, k) ← key
      blanks
      expect "]"
      let entries ← (openTable path k d.entries : Option Entries)
      pure { header := path ++ [k], entries }
    | _ =>
      let (path, k) ← key
      blanks
      expect "="
      blanks
      let v ← value maxDepth
      let entries ← (addUnder d.header path k v d.entries : Option Entries)
      pure { d with entries }
  let rest ← (lineEnd? (← get) : Option (List Char))
  set rest
  return d

/-- Read lines to the end; at most `fuel` are read. -/
def document : Nat → Draft → Scan Draft
  | 0, _ => failure
  | fuel + 1, d => do
    if (← get).isEmpty then return d
    let d ← line d
    document fuel d

/-- A text without a byte order mark in front. -/
def withoutMark : List Char → List Char
  | '\ufeff' :: rest => rest
  | cs => cs

/-- The entries of a document. -/
def read? (source : String) : Option Entries := do
  let cs := withoutMark source.toList
  let (d, _) ← (document (cs.length + 1) {}).run cs
  return d.entries

end LineClock.Toml

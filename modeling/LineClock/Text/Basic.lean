/-!
# Lines, blanks and words of a text

A line ends with a line feed, or with a carriage return and a line feed. What follows the last line
feed is a line of its own unless it is empty, and keeps its carriage return.

The characters that count as white space in a text are those with the Unicode property
`White_Space`. Trimming removes them at the ends of a text.

Two words are the more alike the more characters they share at about the same place, and the fewer
of those stand in another order. The measure is Jaro's: the mean of the shares of both words that
match and of the share of the matches that are in order. Of some words those that are similar to a
given one are listed, the most similar one last.
-/

namespace LineClock.Text

/-! ## Lines -/

/-- The line read so far, `read` holding its characters last first, where a line feed follows: a
carriage return at its end belongs to the line feed. -/
def finish : List Char → List Char
  | '\r' :: read => read.reverse
  | read => read.reverse

/-- Split characters into lines; `read` holds those of the line that is being read, last first. -/
def splitLines (read : List Char) : List Char → List (List Char)
  | [] => if read.isEmpty then [] else [read.reverse]
  | c :: rest => if c = '\n' then finish read :: splitLines [] rest else splitLines (c :: read) rest

/-- The lines of a text, without their ends. -/
def lines (text : String) : List String := (splitLines [] text.toList).map String.ofList

/-! ## Blank characters -/

/-- The ranges of code points with the property `White_Space`. -/
def blankRanges : List (Nat × Nat) :=
  [(0x09, 0x0d), (0x20, 0x20), (0x85, 0x85), (0xa0, 0xa0), (0x1680, 0x1680), (0x2000, 0x200a),
    (0x2028, 0x2029), (0x202f, 0x202f), (0x205f, 0x205f), (0x3000, 0x3000)]

/-- Whether a character is white space. -/
def isBlank (c : Char) : Bool := blankRanges.any fun r => r.1 ≤ c.toNat && c.toNat ≤ r.2

/-- Every character that core counts as white space is blank. -/
theorem isBlank_of_isWhitespace (c : Char) (h : c.isWhitespace = true) : isBlank c = true := by
  simp only [Char.isWhitespace, Bool.or_eq_true, decide_eq_true_eq] at h
  rcases h with (((rfl | rfl) | rfl) | rfl) <;> decide

/-- The characters from the first that is not blank on. -/
def trimStart (cs : List Char) : List Char := cs.dropWhile isBlank

/-- The characters up to the last that is not blank. -/
def trimEnd (cs : List Char) : List Char := (cs.reverse.dropWhile isBlank).reverse

/-- The characters without blanks at either end. -/
def trim (cs : List Char) : List Char := trimEnd (trimStart cs)

/-- The text with its ASCII capitals as small letters. -/
def lowerAscii (cs : List Char) : List Char := cs.map Char.toLower

/-- A text without blanks at either end, its ASCII capitals as small letters. -/
def folded (s : String) : String := String.ofList (lowerAscii (trim s.toList))

/-! ## Similar words -/

/-- A character, and whether it is matched already. -/
abbrev Marked := Char × Bool

/-- Match the first character equal to `c` that is not matched yet, from place `low` on and before
place `high`. -/
def markFirst? (c : Char) : Nat → Nat → List Marked → Option (List Marked)
  | _, 0, _ | _, _, [] => none
  | 0, high + 1, (d, marked) :: rest =>
    if c = d ∧ ¬ marked then some ((d, true) :: rest)
    else (markFirst? c 0 high rest).map ((d, marked) :: ·)
  | low + 1, high + 1, d :: rest => (markFirst? c low high rest).map (d :: ·)

/-- The characters of a word, from place `i` on, that match one of the other word at most `reach`
places away, and the marks that they leave there. -/
def matchesFrom (reach : Nat) : Nat → List Char → List Marked → List Char × List Marked
  | _, [], other => ([], other)
  | i, c :: rest, other =>
    match markFirst? c (i - reach) (i + reach + 1) other with
    | none => matchesFrom reach (i + 1) rest other
    | some other =>
      let (found, other) := matchesFrom reach (i + 1) rest other
      (c :: found, other)

/-- How alike two words are, between zero and one. -/
def similarity (a b : List Char) : Float :=
  let reach := max a.length b.length / 2 - 1
  let (found, marked) := matchesFrom reach 0 a (b.map fun c => (c, false))
  let others := (marked.filter (·.2)).map (·.1)
  let swaps := ((found.zip others).filter fun p => p.1 ≠ p.2).length / 2
  let m := found.length
  if a.isEmpty ∧ b.isEmpty then 1.0
  else if m = 0 then 0.0
  else
    (m.toFloat / a.length.toFloat + m.toFloat / b.length.toFloat + (m - swaps).toFloat / m.toFloat) / 3.0

/-- The words of a list that are similar to a given one, the most similar one last. -/
def similarWords (word : String) (words : List String) : List String :=
  let rated := words.map fun w => (similarity word.toList w.toList, w)
  ((rated.filter fun r => 0.7 < r.1).mergeSort fun r s => r.1 ≤ s.1).map (·.2)

end LineClock.Text

import LineClock.Source.Extent

/-!
# The extent of a block

Which characters of a line stand outside string literals and before a comment, and how many brackets
lines leave open by those characters alone: `Plain` and `Depth` say it without the place of a reader,
and the balance that the reader counts is the depth.

Then the three parts of a block and where each of them ends: the lines that start decorators, the
header up to the first line after which no bracket is open, and the body, which is the longest run of
lines that ends with a line indented deeper than the block's first and holds, blank lines and comments
apart, only such lines.

Main statements: `depth_iff` and `block_maximal`.
-/

namespace LineClock.Source

/-! ## Characters outside literals -/

/-- What follows a literal that a quote has opened before the given characters: nothing if the
literal is not closed. -/
inductive Literal (quote : Char) : List Char → List Char → Prop where
  | unclosed : Literal quote [] []
  | unescaped : Literal quote ['\\'] []
  | close (rest : List Char) : Literal quote (quote :: rest) rest
  | escape (c : Char) {cs rest : List Char} (inner : Literal quote cs rest) :
    Literal quote ('\\' :: c :: cs) rest
  | char {c : Char} {cs rest : List Char} (plain : c ≠ '\\') (other : c ≠ quote)
    (inner : Literal quote cs rest) : Literal quote (c :: cs) rest

/-- The characters of a line that stand outside literals and before a comment. -/
inductive Plain : List Char → List Char → Prop where
  | nil : Plain [] []
  | comment (cs : List Char) : Plain ('#' :: cs) []
  | literal {quote : Char} {cs rest code : List Char} (opened : isQuote quote = true)
    (inner : Literal quote cs rest) (next : Plain rest code) : Plain (quote :: cs) code
  | char {c : Char} {cs code : List Char} (noComment : c ≠ '#') (noQuote : isQuote c = false)
    (next : Plain cs code) : Plain (c :: cs) (c :: code)

/-- A quote is no backslash. -/
theorem ne_backslash_of_isQuote {quote : Char} (h : isQuote quote = true) : quote ≠ '\\' := by
  rintro rfl
  exact absurd h (by decide)

/-- A quote opens no comment. -/
theorem ne_hash_of_isQuote {quote : Char} (h : isQuote quote = true) : quote ≠ '#' := by
  rintro rfl
  exact absurd h (by decide)

/-- No bracket opens and closes. -/
theorem closes_of_opens {c : Char} (h : opens c = true) : closes c = false := by
  simp only [opens, Bool.decide_or, Bool.or_eq_true, decide_eq_true_eq] at h
  rcases h with rfl | rfl | rfl <;> decide

theorem exists_literal (quote : Char) :
    (cs : List Char) → ∃ rest, Literal quote cs rest ∧ rest.length ≤ cs.length
  | [] => ⟨[], .unclosed, Nat.le_refl 0⟩
  | c :: cs => by
    by_cases closed : c = quote
    · exact ⟨cs, closed ▸ .close cs, Nat.le_succ _⟩
    · by_cases backslash : c = '\\'
      · -- The character after a backslash is passed with it.
        match cs with
        | [] => exact ⟨[], backslash ▸ .unescaped, Nat.zero_le 1⟩
        | d :: cs =>
          obtain ⟨rest, inner, short⟩ := exists_literal quote cs
          exact ⟨rest, backslash ▸ .escape d inner, by simp only [List.length_cons]; omega⟩
      · obtain ⟨rest, inner, short⟩ := exists_literal quote cs
        exact ⟨rest, .char backslash closed inner, Nat.le_succ_of_le short⟩

/-- Every line can be read. -/
theorem exists_plain (cs : List Char) : ∃ code, Plain cs code := by
  -- A literal is passed at once, so the induction is on how much is left of the line.
  induction long : cs.length using Nat.strongRecOn generalizing cs with
  | ind n ih =>
    subst long
    match cs with
    | [] => exact ⟨[], .nil⟩
    | c :: cs =>
      by_cases comment : c = '#'
      · exact ⟨[], comment ▸ .comment cs⟩
      · cases opened : isQuote c with
        | true =>
          obtain ⟨rest, inner, short⟩ := exists_literal c cs
          obtain ⟨code, next⟩ := ih rest.length (Nat.lt_succ_of_le short) rest rfl
          exact ⟨code, .literal opened inner next⟩
        | false =>
          obtain ⟨code, next⟩ := ih cs.length (Nat.lt_succ_self _) cs rfl
          exact ⟨c :: code, .char comment opened next⟩

/-! ## The balance of a line -/

/-- Brackets opened less brackets closed among some characters. -/
def openLess (code : List Char) : Int := (code.countP opens : Int) - code.countP closes

theorem openLess_cons (c : Char) (code : List Char) :
    openLess (c :: code) = (if opens c then 1 else if closes c then -1 else 0) + openLess code := by
  unfold openLess
  rw [List.countP_cons, List.countP_cons]
  cases opened : opens c with
  | true =>
    rw [closes_of_opens opened, if_pos rfl, if_neg Bool.false_ne_true, if_pos rfl]
    omega
  | false =>
    rw [if_neg Bool.false_ne_true, if_neg Bool.false_ne_true]
    cases closes c with
    | true =>
      rw [if_pos rfl, if_pos rfl]
      omega
    | false =>
      rw [if_neg Bool.false_ne_true, if_neg Bool.false_ne_true]
      omega

theorem Literal.balance {quote : Char} {cs rest : List Char} (opened : isQuote quote = true)
    (h : Literal quote cs rest) :
    bracketBalance (.literal quote false) cs = bracketBalance .plain rest := by
  induction h with
  | unclosed => rfl
  | unescaped => rfl
  | close rest => rw [bracketBalance, if_neg (ne_backslash_of_isQuote opened), if_pos rfl]
  | escape c inner ih => rw [bracketBalance, if_pos rfl, bracketBalance, ih]
  | char plain other inner ih => rw [bracketBalance, if_neg plain, if_neg other, ih]

/-- A reader counts the brackets outside literals and before a comment. -/
theorem Plain.balance {cs code : List Char} (h : Plain cs code) :
    bracketBalance .plain cs = openLess code := by
  induction h with
  | nil => rfl
  | comment cs => rw [bracketBalance, if_pos rfl]; rfl
  | literal opened inner next ih =>
    rw [bracketBalance, if_neg (ne_hash_of_isQuote opened), if_pos opened, inner.balance opened, ih]
  | char noComment noQuote next ih =>
    rw [bracketBalance, if_neg noComment, if_neg (by rw [noQuote]; decide), openLess_cons, ih]

/-! ## The depth of lines -/

/-- How many brackets lines open more than they close; a literal ends with its line. -/
inductive Depth : List String → Int → Prop where
  | nil : Depth [] 0
  | cons {line : String} {lines : List String} {code : List Char} {d : Int}
    (here : Plain line.toList code) (next : Depth lines d) :
    Depth (line :: lines) (openLess code + d)

/-- The bracket balance of lines. -/
def balance : List String → Int
  | [] => 0
  | line :: lines => lineBalance line + balance lines

@[simp] theorem balance_nil : balance [] = 0 := rfl

@[simp] theorem balance_cons (line : String) (lines : List String) :
    balance (line :: lines) = lineBalance line + balance lines := rfl

@[simp] theorem balance_append (lines lines' : List String) :
    balance (lines ++ lines') = balance lines + balance lines' := by
  induction lines with
  | nil => exact (Int.zero_add _).symm
  | cons line lines ih => rw [List.cons_append, balance_cons, ih, balance_cons, Int.add_assoc]

/-- **The depth of lines is their balance.** -/
theorem depth_iff {lines : List String} {d : Int} : Depth lines d ↔ balance lines = d := by
  constructor
  · intro h
    induction h with
    | nil => rfl
    | cons here next ih =>
      rw [balance_cons, ih]
      exact congrArg (· + _) here.balance
  · rintro rfl
    induction lines with
    | nil => exact .nil
    | cons line lines ih =>
      obtain ⟨code, here⟩ := exists_plain line.toList
      have same : lineBalance line = openLess code := here.balance
      rw [balance_cons, same]
      exact .cons here ih

/-- Lines after which no bracket is open: they close as many as they open, or more. -/
def Settled (lines : List String) : Prop := ∃ d, d ≤ 0 ∧ Depth lines d

theorem settled_iff {lines : List String} : Settled lines ↔ balance lines ≤ 0 := by
  unfold Settled
  constructor
  · rintro ⟨d, low, depth⟩
    rw [depth_iff.mp depth]
    exact low
  · exact fun low => ⟨balance lines, low, depth_iff.mpr rfl⟩

/-! ## The parts of a block -/

/-- The first `n` lines are a header: after them no bracket is open, after fewer of them some are. -/
structure Header (lines : List String) (n : Nat) : Prop where
  pos : 0 < n
  inside : n ≤ lines.length
  settled : Settled (lines.take n)
  first : ∀ m, 0 < m → m < n → ¬ Settled (lines.take m)

/-- The first `n` lines are a body: what is neither blank nor a comment among them is deeper than
`base`, the last of them is such a line, and the next such line after them, if there is one, is not
deeper. -/
structure Body (base : Nat) (lines : List String) (n : Nat) : Prop where
  inside : n ≤ lines.length
  last : n = 0 ∨ ∃ line, (lines.take n).getLast? = some line ∧ isSilent line = false
  deeper : ∀ line ∈ lines.take n, isSilent line = false → base < indent line
  next : ∀ line, (lines.drop n).find? (!isSilent ·) = some line → indent line ≤ base

/-- The balance of one line more than `n`, with some brackets open before. -/
theorem add_balance_take (depth : Int) (line : String) (lines : List String) (n : Nat) :
    depth + balance ((line :: lines).take (n + 1)) =
      depth + lineBalance line + balance (lines.take n) := by
  rw [List.take_succ_cons, balance_cons, ← Int.add_assoc]

theorem headerLength?_eq_none_iff {depth : Int} {lines : List String} :
    headerLength? depth lines = none ↔
      ∀ n, n < lines.length → 0 < depth + balance (lines.take (n + 1)) := by
  induction lines generalizing depth with
  | nil => exact ⟨fun _ n inside => absurd inside (Nat.not_lt_zero n), fun _ => rfl⟩
  | cons line lines ih =>
    rw [headerLength?]
    simp only [add_balance_take]
    by_cases settled : depth + lineBalance line ≤ 0
    · rw [if_pos settled]
      refine ⟨nofun, fun never => absurd (never 0 (Nat.succ_pos _)) ?_⟩
      rw [List.take_zero, balance_nil]
      omega
    · rw [if_neg settled, Option.map_eq_none_iff, ih]
      constructor
      · intro never n inside
        cases n with
        | zero =>
          rw [List.take_zero, balance_nil]
          omega
        | succ n => exact never n (Nat.lt_of_succ_lt_succ inside)
      · exact fun never n inside => never (n + 1) (Nat.succ_lt_succ inside)

/-- A header has a line. -/
theorem headerLength?_pos {depth : Int} {lines : List String} {n : Nat}
    (h : headerLength? depth lines = some n) : 0 < n := by
  cases lines with
  | nil => cases h
  | cons line lines =>
    rw [headerLength?] at h
    split at h
    · cases h
      exact Nat.one_pos
    · obtain ⟨k, -, rfl⟩ := Option.map_eq_some_iff.mp h
      exact k.succ_pos

theorem headerLength?_eq_some_iff {depth : Int} {lines : List String} {n : Nat} :
    headerLength? depth lines = some (n + 1) ↔
      n < lines.length ∧ depth + balance (lines.take (n + 1)) ≤ 0 ∧
        ∀ m, m < n → 0 < depth + balance (lines.take (m + 1)) := by
  induction lines generalizing depth n with
  | nil => exact ⟨nofun, fun ⟨inside, _⟩ => absurd inside (Nat.not_lt_zero n)⟩
  | cons line lines ih =>
    rw [headerLength?]
    simp only [add_balance_take]
    by_cases settled : depth + lineBalance line ≤ 0
    · rw [if_pos settled]
      constructor
      · rintro ⟨⟩
        refine ⟨Nat.succ_pos _, ?_, nofun⟩
        rw [List.take_zero, balance_nil]
        omega
      · rintro ⟨-, -, opened⟩
        cases n with
        | zero => rfl
        | succ n =>
          have before := opened 0 n.succ_pos
          rw [List.take_zero, balance_nil] at before
          omega
    · rw [if_neg settled, Option.map_eq_some_iff]
      constructor
      · rintro ⟨k, found, same⟩
        cases Nat.succ.inj same
        cases n with
        | zero => exact absurd (headerLength?_pos found) (Nat.lt_irrefl 0)
        | succ n =>
          obtain ⟨inside, shut, opened⟩ := ih.mp found
          refine ⟨Nat.succ_lt_succ inside, shut, fun m low => ?_⟩
          cases m with
          | zero =>
            rw [List.take_zero, balance_nil]
            omega
          | succ m => exact opened m (Nat.lt_of_succ_lt_succ low)
      · rintro ⟨inside, shut, opened⟩
        cases n with
        | zero =>
          rw [List.take_zero, balance_nil] at shut
          omega
        | succ n =>
          exact ⟨n + 1, ih.mpr ⟨Nat.lt_of_succ_lt_succ inside, shut, fun m low =>
            opened (m + 1) (Nat.succ_lt_succ low)⟩, rfl⟩

/-- **The header is found** if there is one. -/
theorem header_iff {lines : List String} {n : Nat} :
    headerLength? 0 lines = some n ↔ Header lines n := by
  constructor
  · intro found
    obtain ⟨n, rfl⟩ := Nat.exists_eq_add_one.mpr (headerLength?_pos found)
    obtain ⟨inside, shut, opened⟩ := headerLength?_eq_some_iff.mp found
    rw [Int.zero_add] at shut
    refine ⟨n.succ_pos, inside, settled_iff.mpr shut, fun m pos low => ?_⟩
    obtain ⟨m, rfl⟩ := Nat.exists_eq_add_one.mpr pos
    have before := opened m (Nat.lt_of_succ_lt_succ low)
    rw [Int.zero_add] at before
    exact fun settled => absurd (settled_iff.mp settled) (Int.not_le.mpr before)
  · intro h
    obtain ⟨n, rfl⟩ := Nat.exists_eq_add_one.mpr h.pos
    rw [headerLength?_eq_some_iff]
    refine ⟨h.inside, ?_, fun m low => ?_⟩
    · rw [Int.zero_add]
      exact settled_iff.mp h.settled
    · rw [Int.zero_add]
      exact Int.not_le.mp fun shut => h.first _ m.succ_pos (Nat.succ_lt_succ low) (settled_iff.mpr shut)

/-- No header is found if brackets stay open to the end. -/
theorem no_header_iff {lines : List String} :
    headerLength? 0 lines = none ↔ ∀ n, n < lines.length → ¬ Settled (lines.take (n + 1)) := by
  rw [headerLength?_eq_none_iff]
  simp only [settled_iff, Int.not_le, Int.zero_add]

/-! ## The body -/

/-- No line is a body where the next line with code is no deeper. -/
theorem body_zero {base : Nat} {lines : List String}
    (next : ∀ line, lines.find? (!isSilent ·) = some line → indent line ≤ base) : Body base lines 0 :=
  ⟨Nat.zero_le _, .inl rfl, nofun, next⟩

/-- A body with one line more before it, which is not blank or a comment if it is the only one. -/
theorem Body.cons {base n : Nat} {line : String} {lines : List String} (h : Body base lines n)
    (deep : isSilent line = false → base < indent line) (ends : n = 0 → isSilent line = false) :
    Body base (line :: lines) (n + 1) := by
  refine ⟨Nat.succ_le_succ h.inside, .inr ?_, fun l mem loud => ?_, h.next⟩
  · rw [List.take_succ_cons, List.getLast?_cons]
    rcases h.last with rfl | ⟨l, last, loud⟩
    · exact ⟨line, rfl, ends rfl⟩
    · exact ⟨l, by rw [last]; rfl, loud⟩
  · rcases List.mem_cons.mp mem with rfl | mem
    · exact deep loud
    · exact h.deeper l mem loud

/-- The lines that are counted are a body. -/
theorem body_bodyLength (base : Nat) (lines : List String) :
    Body base lines (bodyLength base lines) := by
  induction lines with
  | nil => exact body_zero nofun
  | cons line lines ih =>
    rw [bodyLength]
    cases silent : isSilent line with
    | true =>
      rw [if_pos rfl]
      cases counted : bodyLength base lines with
      | zero =>
        -- Nothing deeper follows, so this line is not counted either.
        rw [counted] at ih
        refine body_zero fun next there => ih.next next ?_
        rw [List.find?_cons_of_neg (by rw [silent]; decide)] at there
        exact there
      | succ n =>
        rw [counted] at ih
        refine ih.cons (fun loud => ?_) fun none => absurd none n.succ_ne_zero
        rw [silent] at loud
        cases loud
    | false =>
      rw [if_neg Bool.false_ne_true]
      by_cases shallow : indent line ≤ base
      · rw [if_pos shallow]
        refine body_zero fun next there => ?_
        rw [List.find?_cons_of_pos (by rw [silent]; decide)] at there
        cases there
        exact shallow
      · rw [if_neg shallow]
        exact ih.cons (fun _ => Nat.lt_of_not_le shallow) fun _ => silent

/-- Of two bodies neither is shorter: the line that ends the longer one would be the next after the
shorter. -/
theorem Body.not_lt {base m n : Nat} {lines : List String} (h : Body base lines m)
    (h' : Body base lines n) : ¬ m < n := by
  intro shorter
  obtain ⟨last, ends, loud⟩ := h'.last.resolve_left (Nat.ne_zero_of_lt shorter)
  have beyond : last ∈ (lines.take n).drop m := by
    have split : (lines.take n).drop m ≠ [] := by
      rw [Ne, List.drop_eq_nil_iff, List.length_take, Nat.min_eq_left h'.inside]
      exact Nat.not_le_of_lt shorter
    have same : ((lines.take n).drop m).getLast? = some last := by
      rw [List.getLast?_drop, if_neg, ends]
      rw [List.length_take, Nat.min_eq_left h'.inside]
      exact Nat.not_le_of_lt shorter
    exact List.mem_of_getLast? same
  have some : ((lines.take n).drop m).find? (!isSilent ·) ≠ none := by
    rw [Ne, List.find?_eq_none]
    exact fun none => none last beyond (by rw [loud]; rfl)
  obtain ⟨line, found⟩ := Option.ne_none_iff_exists'.mp some
  have deeper := h'.deeper line (List.mem_of_mem_drop (List.mem_of_find?_eq_some found)) (by
    have loud := List.find?_some found
    simpa using loud)
  have shallow := h.next line (by
    rw [← List.take_append_drop (n - m) (lines.drop m), ← List.drop_take, List.find?_append, found]
    rfl)
  exact absurd deeper (Nat.not_lt_of_le shallow)

/-- **The lines that are counted are the only body.** -/
theorem body_iff {base n : Nat} {lines : List String} :
    Body base lines n ↔ bodyLength base lines = n := by
  constructor
  · intro h
    have counted := body_bodyLength base lines
    exact Nat.le_antisymm (Nat.le_of_not_lt (h.not_lt counted)) (Nat.le_of_not_lt (counted.not_lt h))
  · rintro rfl
    exact body_bodyLength base lines

/-! ## The block -/

/-- The lines of a text from a line on, counted from one. -/
def linesFrom (text : List String) (first : UInt32) : List String := text.drop (first.toNat - 1)

/-- The first `h` of the lines are the decorators and the header. -/
def Opening (lines : List String) (h : Nat) : Prop :=
  ∃ n, Header (lines.dropWhile isDecorator) n ∧ h = (lines.takeWhile isDecorator).length + n

/-- The first `n` of the lines are a block, whose header ends with the `h`-th of them; `first` is the
line that the others are measured by. -/
structure IsBlock (lines : List String) (first : String) (h n : Nat) : Prop where
  pos : 1 ≤ n
  through : h ≤ n
  inside : n ≤ lines.length
  last : n = h ∨ ∃ line, (lines.take n).getLast? = some line ∧
    isSilent line = false ∧ indent first < indent line
  deeper : ∀ line ∈ (lines.take n).drop h, isSilent line = false → indent first < indent line
  next : ∀ line, (lines.drop n).find? (!isSilent ·) = some line → indent line ≤ indent first

theorem Opening.pos {lines : List String} {h : Nat} (opening : Opening lines h) : 1 ≤ h := by
  obtain ⟨n, header, rfl⟩ := opening
  exact Nat.le_add_left_of_le header.pos

theorem Opening.inside {lines : List String} {h : Nat} (opening : Opening lines h) :
    h ≤ lines.length := by
  obtain ⟨n, header, rfl⟩ := opening
  have whole := congrArg List.length (List.takeWhile_append_dropWhile (p := isDecorator) (l := lines))
  rw [List.length_append] at whole
  exact whole ▸ Nat.add_le_add_left header.inside _

/-- A block is its header with a body. -/
theorem isBlock_iff {lines : List String} {first : String} {h n : Nat} (opening : Opening lines h) :
    IsBlock lines first h n ↔ ∃ m, Body (indent first) (lines.drop h) m ∧ n = h + m := by
  constructor
  · intro block
    obtain ⟨m, rfl⟩ := Nat.exists_eq_add_of_le block.through
    have part : (lines.take (h + m)).drop h = (lines.drop h).take m := by
      rw [List.drop_take, Nat.add_sub_cancel_left]
    refine ⟨m, ⟨?_, ?_, part ▸ block.deeper, ?_⟩, rfl⟩
    · rw [List.length_drop]
      have inside := block.inside
      omega
    · rcases block.last with none | ⟨line, ends, loud, -⟩
      · exact .inl (by omega)
      · by_cases none : m = 0
        · exact .inl none
        · refine .inr ⟨line, ?_, loud⟩
          rw [← part, List.getLast?_drop, if_neg, ends]
          rw [List.length_take, Nat.min_eq_left block.inside]
          omega
    · rw [List.drop_drop]
      exact block.next
  · rintro ⟨m, body, rfl⟩
    have part : (lines.take (h + m)).drop h = (lines.drop h).take m := by
      rw [List.drop_take, Nat.add_sub_cancel_left]
    have inside : h + m ≤ lines.length := by
      have inside := body.inside
      rw [List.length_drop] at inside
      have low := opening.inside
      omega
    refine ⟨Nat.le_add_right_of_le opening.pos, Nat.le_add_right h m, inside, ?_, part ▸ body.deeper, ?_⟩
    · rcases body.last with rfl | ⟨line, ends, loud⟩
      · exact .inl rfl
      · refine .inr ⟨line, ?_, loud, body.deeper line (List.mem_of_getLast? ends) loud⟩
        rw [← part, List.getLast?_drop] at ends
        split at ends
        · cases ends
        · exact ends
    · have next := body.next
      rw [List.drop_drop] at next
      exact next

/-- The lines after those that start decorators. -/
theorem drop_decorators (lines : List String) :
    lines.drop (lines.takeWhile isDecorator).length = lines.dropWhile isDecorator := by
  have split : (lines.takeWhile isDecorator ++ lines.dropWhile isDecorator).drop
      (lines.takeWhile isDecorator).length = lines.dropWhile isDecorator := List.drop_left
  rw [List.takeWhile_append_dropWhile] at split
  exact split

/-- Lines that begin with code are a block as long as their parts, if they have a header. -/
theorem lengthFrom?_loud {first : String} {rest : List String} (loud : isSilent first = false) :
    lengthFrom? (first :: rest) =
      (headerLength? 0 ((first :: rest).dropWhile isDecorator)).map fun header =>
        let h := ((first :: rest).takeWhile isDecorator).length + header
        h + bodyLength (indent first) ((first :: rest).drop h) := by
  unfold lengthFrom?
  simp only [loud, Bool.false_eq_true, if_false, drop_decorators]
  cases headerLength? 0 ((first :: rest).dropWhile isDecorator) with
  | none => rfl
  | some header => rw [Option.map_some, ← List.drop_drop, drop_decorators]

theorem lengthFrom?_silent {first : String} {rest : List String} (silent : isSilent first = true) :
    lengthFrom? (first :: rest) = none := if_pos silent

theorem lengthFrom?_eq_some_iff {first : String} {rest : List String} {n : Nat} :
    lengthFrom? (first :: rest) = some n ↔
      isSilent first = false ∧ ∃ h, Opening (first :: rest) h ∧ IsBlock (first :: rest) first h n := by
  cases silent : isSilent first with
  | true =>
    rw [lengthFrom?_silent silent]
    exact ⟨nofun, nofun⟩
  | false =>
    rw [lengthFrom?_loud silent, Option.map_eq_some_iff]
    constructor
    · rintro ⟨header, found, rfl⟩
      have opening : Opening (first :: rest) _ := ⟨header, header_iff.mp found, rfl⟩
      exact ⟨rfl, _, opening, (isBlock_iff opening).mpr ⟨_, body_bodyLength _ _, rfl⟩⟩
    · rintro ⟨-, h, opening, block⟩
      obtain ⟨m, body, rfl⟩ := (isBlock_iff opening).mp block
      obtain ⟨header, found, rfl⟩ := opening
      exact ⟨header, header_iff.mpr found, congrArg (_ + ·) (body_iff.mp body)⟩

theorem lengthFrom?_eq_none_iff {first : String} {rest : List String} :
    lengthFrom? (first :: rest) = none ↔ isSilent first = true ∨
      ∀ n, n < ((first :: rest).dropWhile isDecorator).length →
        ¬ Settled (((first :: rest).dropWhile isDecorator).take (n + 1)) := by
  cases silent : isSilent first with
  | true => exact ⟨fun _ => .inl rfl, fun _ => lengthFrom?_silent silent⟩
  | false =>
    rw [lengthFrom?_loud silent, Option.map_eq_none_iff, no_header_iff]
    exact (or_iff_right Bool.false_ne_true).symm

/-- A line is there if a text has lines from there on. -/
theorem lineText?_eq {text : List String} {first : UInt32} (counted : first ≠ 0) :
    lineText? text first = (linesFrom text first).head? := by
  rw [lineText?, if_neg counted, linesFrom, List.head?_drop]

/-- **A block is as long as can be.** There is none where its first line is missing, blank or a comment,
or where from the first line on that starts no decorator brackets stay open to the end. Otherwise the
header ends with the first line after which no bracket is open, and the block with the last of the lines
that are indented deeper than its first, blank lines and comments apart, before one that is not. -/
theorem block_maximal (text : List String) (first : UInt32) :
    (blockLength? text first = none ↔
      (∀ line, lineText? text first = some line → isSilent line = true) ∨
        ∀ n, n < ((linesFrom text first).dropWhile isDecorator).length →
          ¬ Settled (((linesFrom text first).dropWhile isDecorator).take (n + 1))) ∧
    ∀ n, blockLength? text first = some n ↔
      ∃ line h, lineText? text first = some line ∧ isSilent line = false ∧
        Opening (linesFrom text first) h ∧ IsBlock (linesFrom text first) line h n := by
  by_cases counted : first = 0
  · subst counted
    exact ⟨⟨fun _ => .inl nofun, fun _ => rfl⟩,
      fun n => ⟨nofun, fun ⟨_, _, there, _⟩ => nomatch there⟩⟩
  · rw [lineText?_eq counted, blockLength?, if_neg counted]
    change (lengthFrom? (linesFrom text first) = none ↔ _) ∧
      ∀ n, lengthFrom? (linesFrom text first) = some n ↔ _
    cases linesFrom text first with
    | nil =>
      exact ⟨⟨fun _ => .inl nofun, fun _ => rfl⟩,
        fun n => ⟨nofun, fun ⟨_, _, there, _⟩ => nomatch there⟩⟩
    | cons line lines =>
      constructor
      · rw [lengthFrom?_eq_none_iff]
        refine or_congr ⟨?_, fun silent => silent line rfl⟩ Iff.rfl
        rintro silent _ ⟨⟩
        exact silent
      · intro n
        rw [lengthFrom?_eq_some_iff]
        constructor
        · rintro ⟨loud, h, opening, block⟩
          exact ⟨line, h, rfl, loud, opening, block⟩
        · rintro ⟨_, h, ⟨⟩, loud, opening, block⟩
          exact ⟨loud, h, opening, block⟩

end LineClock.Source

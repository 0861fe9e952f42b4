import LineClock.Proofs.Source.Extent

/-!
# Definitions with decorators

A definition in source text: decorators, a header and a body, where each decorator and the header may
go on over several lines as long as brackets are open. The extent of its block is the definition, if no
decorator goes on with a line that does not itself start like a decorator. Otherwise the block ends
within the first decorator that does.

Main statement: `definition_measured`.
-/

namespace LineClock.Source

/-- Lines that belong together: some bracket is open after each of them but the last, after which as
many are closed as were opened. -/
structure Joined (lines : List String) : Prop where
  nonempty : lines ≠ []
  closed : Depth lines 0
  opened : ∀ n, 0 < n → n < lines.length → ¬ Settled (lines.take n)

/-- A definition at an indentation: lines of decorators, of a header and of a body up to its last line
that is neither blank nor a comment, with what comes after them. -/
structure Definition (base : Nat) (decorators : List (List String)) (header body : List String)
    (last : String) (after : List String) : Prop where
  decorates : ∀ d ∈ decorators, Joined d ∧
    ∃ line ∈ d.head?, isDecorator line = true ∧ indent line = base
  heads : Joined header ∧ ∃ line ∈ header.head?, isDecorator line = false ∧
    isSilent line = false ∧ indent line = base
  deeper : ∀ line ∈ body, isSilent line = false → base < indent line
  ends : isSilent last = false ∧ base < indent last
  next : ∀ line ∈ after.find? (!isSilent ·), indent line ≤ base

theorem joined_iff {lines : List String} :
    Joined lines ↔ lines ≠ [] ∧ balance lines = 0 ∧
      ∀ n < lines.length, 0 < n → 0 < balance (lines.take n) := by
  simp only [← Int.not_le (b := (0 : Int)), ← settled_iff]
  exact ⟨fun h => ⟨h.nonempty, depth_iff.mp h.closed, fun n low pos => h.opened n pos low⟩,
    fun ⟨nonempty, closed, opened⟩ =>
      ⟨nonempty, depth_iff.mpr closed, fun n pos low => opened n low pos⟩⟩

instance (lines : List String) : Decidable (Joined lines) := decidable_of_iff' _ joined_iff

instance (base : Nat) (decorators : List (List String)) (header body : List String) (last : String)
    (after : List String) : Decidable (Definition base decorators header body last after) :=
  decidable_of_iff
    ((∀ d ∈ decorators, Joined d ∧ ∃ line ∈ d.head?, isDecorator line = true ∧ indent line = base) ∧
      (Joined header ∧ ∃ line ∈ header.head?, isDecorator line = false ∧ isSilent line = false ∧
        indent line = base) ∧
      (∀ line ∈ body, isSilent line = false → base < indent line) ∧
      (isSilent last = false ∧ base < indent last) ∧
      ∀ line ∈ after.find? (!isSilent ·), indent line ≤ base)
    ⟨fun ⟨decorates, heads, deeper, ends, next⟩ => ⟨decorates, heads, deeper, ends, next⟩,
      fun ⟨decorates, heads, deeper, ends, next⟩ => ⟨decorates, heads, deeper, ends, next⟩⟩

/-! ## Lines that belong together -/

/-- A line that starts a decorator is neither blank nor a comment. -/
theorem loud_of_isDecorator {line : String} (h : isDecorator line = true) : isSilent line = false := by
  unfold isDecorator at h
  unfold isSilent
  split
  · rename_i blank
    rw [blank] at h
    cases h
  · rename_i c rest starts
    rw [starts] at h
    cases of_decide_eq_true h
    rfl

namespace Joined

variable {lines : List String}

/-- Lines that belong together are a header, whatever comes after them. -/
theorem header (h : Joined lines) (rest : List String) : Header (lines ++ rest) lines.length := by
  have whole : Settled lines := ⟨0, Int.le_refl 0, h.closed⟩
  refine ⟨List.length_pos_iff.mpr h.nonempty, ?_, ?_, fun n pos low => ?_⟩
  · rw [List.length_append]
    exact Nat.le_add_right _ _
  · rw [List.take_left]
    exact whole
  · rw [List.take_append_of_le_length (Nat.le_of_lt low)]
    exact h.opened n pos low

/-- What is left of lines that belong together closes more than it opens. -/
theorem settled_drop {n : Nat} (h : Joined lines) (pos : 0 < n) (low : n < lines.length) :
    Settled (lines.drop n) := by
  have opened := h.opened n pos low
  have whole := depth_iff.mp h.closed
  rw [settled_iff, Int.not_le] at opened
  rw [← List.take_append_drop n lines, balance_append] at whole
  rw [settled_iff]
  omega

/-- So from a line on that is not the first, a header ends with them at the latest. -/
theorem header_drop {n : Nat} (h : Joined lines) (pos : 0 < n) (low : n < lines.length)
    (rest : List String) :
    ∃ m, Header (lines.drop n ++ rest) m ∧ m ≤ lines.length - n := by
  have part : (lines.drop n ++ rest).take (lines.length - n) = lines.drop n := by
    rw [← List.length_drop, List.take_left]
  have settled : Settled ((lines.drop n ++ rest).take (lines.length - n)) :=
    part.symm ▸ h.settled_drop pos low
  have left : 0 < lines.length - n := Nat.sub_pos_of_lt low
  cases found : headerLength? 0 (lines.drop n ++ rest) with
  | none =>
    obtain ⟨k, more⟩ := Nat.exists_eq_add_one.mpr left
    rw [more] at settled
    refine absurd settled (no_header_iff.mp found k ?_)
    rw [List.length_append, List.length_drop]
    omega
  | some m =>
    have header := header_iff.mp found
    exact ⟨m, header, Nat.le_of_not_lt fun beyond => header.first _ left beyond settled⟩

end Joined

/-! ## How far a block goes -/

/-- A body ends before a line that is not indented deeper. -/
theorem Body.le_of_shallow {base m : Nat} {lines rest : List String} {line : String}
    (h : Body base (lines ++ line :: rest) m) (loud : isSilent line = false)
    (shallow : indent line ≤ base) : m ≤ lines.length := by
  refine Nat.le_of_not_lt fun beyond => absurd (h.deeper line ?_ loud) (Nat.not_lt_of_le shallow)
  rw [List.take_append]
  obtain ⟨k, more⟩ := Nat.exists_eq_add_of_lt beyond
  rw [more, Nat.add_assoc, Nat.add_sub_cancel_left, List.take_succ_cons]
  exact List.mem_append_right _ List.mem_cons_self

/-- Lines up to one that is deeper are a body, if nothing deeper follows. -/
theorem body_through {base : Nat} {body after : List String} {last : String}
    (deeper : ∀ line ∈ body, isSilent line = false → base < indent line)
    (ends : isSilent last = false ∧ base < indent last)
    (next : ∀ line, after.find? (!isSilent ·) = some line → indent line ≤ base) :
    Body base (body ++ last :: after) (body.length + 1) := by
  induction body with
  | nil => exact (body_zero next).cons (fun _ => ends.2) fun _ => ends.1
  | cons line body ih =>
    exact (ih fun l mem => deeper l (List.mem_cons_of_mem _ mem)).cons
      (deeper line List.mem_cons_self) fun none => absurd none body.length.succ_ne_zero

/-- The length of a block from its parts: lines that start decorators, a header and a body. -/
theorem lengthFrom?_parts {starts rest : List String} {first line : String} {n m : Nat}
    (head : (starts ++ line :: rest).head? = some first) (loud : isSilent first = false)
    (decorators : ∀ l ∈ starts, isDecorator l = true) (other : isDecorator line = false)
    (header : Header (line :: rest) n)
    (body : Body (indent first) ((line :: rest).drop n) m) :
    lengthFrom? (starts ++ line :: rest) = some (starts.length + n + m) := by
  have taken : (starts ++ line :: rest).takeWhile isDecorator = starts := by
    rw [List.takeWhile_append_of_pos decorators,
      List.takeWhile_cons_of_neg (Bool.not_eq_true _ ▸ other), List.append_nil]
  have dropped : (starts ++ line :: rest).dropWhile isDecorator = line :: rest := by
    rw [List.dropWhile_append_of_pos decorators,
      List.dropWhile_cons_of_neg (Bool.not_eq_true _ ▸ other)]
  obtain ⟨lines, split⟩ := List.head?_eq_some_iff.mp head
  have opening : Opening (first :: lines) (starts.length + n) := by
    rw [← split]
    exact ⟨n, dropped.symm ▸ header, by rw [taken]⟩
  rw [split, lengthFrom?_eq_some_iff]
  refine ⟨loud, _, opening, (isBlock_iff opening).mpr ⟨m, ?_, rfl⟩⟩
  rw [← split, ← List.drop_drop, List.drop_left]
  exact body

/-- Lines among which some start no decorator, split at the first that does not. -/
theorem exists_goesOn {lines : List String} (h : ∃ line ∈ lines, isDecorator line = false) :
    ∃ begun line more, lines = begun ++ line :: more ∧ (∀ l ∈ begun, isDecorator l = true) ∧
      isDecorator line = false := by
  obtain ⟨line, mem, other⟩ := h
  cases found : lines.find? (!isDecorator ·) with
  | none => exact absurd (List.find?_eq_none.mp found line mem) (by rw [other]; decide)
  | some line =>
    obtain ⟨first, begun, more, split, before⟩ := List.find?_eq_some_iff_append.mp found
    refine ⟨begun, line, more, split, fun l mem => ?_, ?_⟩
    · simpa using before l mem
    · simpa using first

/-! ## The extent of a definition -/

namespace Definition

variable {base : Nat} {decorators done others : List (List String)} {d header body after : List String}
  {last : String}

/-- A definition begins with a line that stands at its indentation and is neither blank nor a comment,
be it of a decorator or of the header. -/
theorem begins (h : Definition base decorators header body last after) (rest : List String) :
    ∃ line, (decorators.flatten ++ header ++ rest).head? = some line ∧ isSilent line = false ∧
      indent line = base := by
  cases decorators with
  | nil =>
    obtain ⟨-, line, starts, -, loud, place⟩ := h.heads
    obtain ⟨lines, rfl⟩ := List.head?_eq_some_iff.mp starts
    exact ⟨line, rfl, loud, place⟩
  | cons d decorators =>
    obtain ⟨-, line, starts, decorator, place⟩ := h.decorates d List.mem_cons_self
    obtain ⟨lines, rfl⟩ := List.head?_eq_some_iff.mp starts
    exact ⟨line, rfl, loud_of_isDecorator decorator, place⟩

/-- What is left of a definition after some of its decorators. -/
theorem drop (h : Definition base (done ++ d :: others) header body last after) :
    Definition base others header body last after :=
  ⟨fun d mem => h.decorates d (List.mem_append_right _ (List.mem_cons_of_mem _ mem)), h.heads, h.deeper,
    h.ends, h.next⟩

/-- **A definition is measured whole** if all lines of its decorators start like decorators. -/
theorem whole (h : Definition base decorators header body last after)
    (plain : ∀ d ∈ decorators, ∀ line ∈ d, isDecorator line = true) :
    lengthFrom? (decorators.flatten ++ header ++ (body ++ last :: after)) =
      some (decorators.flatten.length + header.length + (body.length + 1)) := by
  obtain ⟨first, head, loud, place⟩ := h.begins (body ++ last :: after)
  obtain ⟨joined, line, starts, other, -⟩ := h.heads
  obtain ⟨lines, rfl⟩ := List.head?_eq_some_iff.mp starts
  rw [List.append_assoc] at head ⊢
  refine lengthFrom?_parts head loud (fun line mem => ?_) other (joined.header _) ?_
  · obtain ⟨d, there, here⟩ := List.mem_flatten.mp mem
    exact plain d there line here
  · rw [place]
    change Body base (((line :: lines) ++ (body ++ last :: after)).drop (line :: lines).length) _
    rw [List.drop_left]
    exact body_through h.deeper h.ends h.next

/-- **A definition is cut within the first decorator that goes on** with a line that does not start like
one: what is left of the decorator closes more brackets than it opens, and what comes after it is
indented like the definition. -/
theorem cut (h : Definition base (done ++ d :: others) header body last after)
    (plain : ∀ d ∈ done, ∀ line ∈ d, isDecorator line = true)
    (goesOn : ∃ line ∈ d, isDecorator line = false) :
    ∃ n, lengthFrom? ((done ++ d :: others).flatten ++ header ++ (body ++ last :: after)) = some n ∧
      done.flatten.length < n ∧ n ≤ done.flatten.length + d.length := by
  obtain ⟨first, head, loud, place⟩ := h.begins (body ++ last :: after)
  obtain ⟨next, follows, loudNext, placeNext⟩ := h.drop.begins (body ++ last :: after)
  obtain ⟨tail, follows⟩ := List.head?_eq_some_iff.mp follows
  obtain ⟨joined, one, starts, decorator, -⟩ := h.decorates d List.mem_append_cons_self
  obtain ⟨begun, line, more, rfl, starting, other⟩ := exists_goesOn goesOn
  have low : begun.length < (begun ++ line :: more).length := by
    rw [List.length_append, List.length_cons]
    omega
  have pos : 0 < begun.length := by
    refine List.length_pos_iff.mpr fun none => ?_
    subst none
    cases starts
    rw [other] at decorator
    cases decorator
  obtain ⟨m, ends, short⟩ := joined.header_drop pos low (next :: tail)
  rw [List.drop_left] at ends
  have text : (done ++ (begun ++ line :: more) :: others).flatten ++ header ++ (body ++ last :: after) =
      (done.flatten ++ begun) ++ line :: (more ++ next :: tail) := by
    rw [← follows]
    simp [List.append_assoc]
  have counted := body_bodyLength (indent first) ((line :: (more ++ next :: tail)).drop m)
  rw [text] at head ⊢
  refine ⟨_, lengthFrom?_parts head loud ?_ other ends counted, ?_, ?_⟩
  · intro l mem
    rcases List.mem_append.mp mem with mem | mem
    · obtain ⟨d, there, here⟩ := List.mem_flatten.mp mem
      exact plain d there l here
    · exact starting l mem
  · rw [List.length_append]
    have := ends.pos
    omega
  · -- The next decorator, or the header, is no deeper than the definition.
    rw [List.length_append, List.length_cons] at short
    have split : (line :: (more ++ next :: tail)).drop m = (line :: more).drop m ++ next :: tail := by
      rw [← List.cons_append, List.drop_append_of_le_length (by rw [List.length_cons]; omega)]
    rw [split, place] at counted
    have stops := counted.le_of_shallow loudNext (Nat.le_of_eq placeNext)
    rw [List.length_drop, List.length_cons] at stops
    rw [split, place, List.length_append, List.length_append, List.length_cons]
    omega

end Definition

/-- **A definition is measured whole where no decorator goes on.** The block at its first line goes to
the last line of its body that is neither blank nor a comment, if all lines of its decorators start like
decorators. Otherwise it ends within the first decorator that goes on with another line. -/
theorem definition_measured {base : Nat} {decorators : List (List String)}
    {before header body after : List String} {last : String} {first : UInt32}
    (h : Definition base decorators header body last after) (here : first.toNat = before.length + 1) :
    let text := before ++ (decorators.flatten ++ header ++ (body ++ last :: after))
    ((∀ d ∈ decorators, ∀ line ∈ d, isDecorator line = true) →
      blockLength? text first = some (decorators.flatten.length + header.length + (body.length + 1))) ∧
    ∀ done d others, decorators = done ++ d :: others →
      (∀ d ∈ done, ∀ line ∈ d, isDecorator line = true) → (∃ line ∈ d, isDecorator line = false) →
      ∃ n, blockLength? text first = some n ∧ done.flatten.length < n ∧
        n ≤ done.flatten.length + d.length := by
  intro text
  have counted : first ≠ 0 := by
    rintro rfl
    cases here
  have from' : blockLength? text first =
      lengthFrom? (decorators.flatten ++ header ++ (body ++ last :: after)) := by
    rw [blockLength?, if_neg counted, here, Nat.add_sub_cancel, List.drop_left]
  rw [from']
  refine ⟨h.whole, ?_⟩
  rintro done d others rfl plain goesOn
  exact h.cut plain goesOn

/-- A definition with two decorators, a header that goes on and a comment in its body, in the middle of a
text. -/
theorem definition_measured_decorated :
    Definition 0 [["@deco"], ["@other(1)  # ("]] ["def f(a, b=')',", "      c=(1, 2)):"]
      ["    # (", "", "    y = a"] "    return y" ["", "z = 1"] ∧
    blockLength? ["x = 1", "@deco", "@other(1)  # (", "def f(a, b=')',", "      c=(1, 2)):", "    # (", "",
      "    y = a", "    return y", "", "z = 1"] 2 = some 8 :=
  have definition : Definition 0 [["@deco"], ["@other(1)  # ("]]
      ["def f(a, b=')',", "      c=(1, 2)):"] ["    # (", "", "    y = a"] "    return y"
      ["", "z = 1"] := by decide
  ⟨definition, (@definition_measured 0 _ ["x = 1"] _ _ _ _ 2 definition rfl).1 (by decide)⟩

/-- A decorator that goes on over two lines: the block ends with the second, before the definition. -/
theorem continued_decorator_cut :
    Definition 0 [["@deco(", "    1)"]] ["def f():"] [] "    pass" [] ∧
      blockLength? ["@deco(", "    1)", "def f():", "    pass"] 1 = some 2 := by
  decide

end LineClock.Source

import LineClock.Registry.Padding

/-!
# Blocks that are kept apart

What padding does to the bytes of a block, and that a registry gives the blocks it admits different
padding wherever their unpadded bytes are the same.

Main statements: `Block.Padded.bytes_eq_iff` and `Padding.Admitted.accept`.
-/

namespace LineClock

/-- The bytes of a number of no-ops. -/
def noOps (n : Nat) : Bytes := (List.replicate n Op.nop.bytes).flatten

@[simp] theorem length_noOps (n : Nat) : (noOps n).length = 2 * n := by
  simp [noOps, Op.bytes, Nat.mul_comm]

theorem noOps_add (m n : Nat) : noOps (m + n) = noOps m ++ noOps n := by
  unfold noOps
  rw [← List.replicate_append_replicate, List.flatten_append]

/-! ## Bytes of units -/

theorem length_unitBytes (l : List Instr) : (l.flatMap fun i => i.op.bytes).length = 2 * l.length := by
  induction l with
  | nil => rfl
  | cons i rest ih =>
    rw [List.flatMap_cons, List.length_append, ih, List.length_cons]
    simp only [Op.bytes, List.length_cons, List.length_nil]
    omega

/-- The bytes of the first units. -/
theorem take_unitBytes (l : List Instr) (n : Nat) :
    (l.flatMap fun i => i.op.bytes).take (2 * n) = (l.take n).flatMap fun i => i.op.bytes := by
  induction l generalizing n with
  | nil => simp
  | cons i rest ih =>
    cases n with
    | zero => rfl
    | succ n =>
      have two : 2 * (n + 1) = 2 * n + 1 + 1 := by omega
      rw [two, List.take_succ_cons, List.flatMap_cons, List.flatMap_cons, ← ih]
      rfl

/-- Units that do nothing. -/
theorem unitBytes_noOps {l : List Instr} (idle : ∀ i ∈ l, i.op = .nop) :
    (l.flatMap fun i => i.op.bytes) = noOps l.length := by
  induction l with
  | nil => rfl
  | cons i rest ih =>
    rw [List.flatMap_cons, idle i List.mem_cons_self,
      ih fun j mem => idle j (List.mem_cons_of_mem _ mem)]
    rfl

namespace Block

/-- The padding of a block is no-ops behind its body, on the last line of it; a native block has
none. -/
structure Padded (b : Block) : Prop where
  short : b.padding ≤ b.instrs.length
  idle : ∀ i ∈ b.instrs.drop (b.instrs.length - b.padding), i.op = .nop
  line : ∀ i ∈ b.instrs.drop (b.instrs.length - b.padding), i.line = b.paddingLine
  native : b.native = true → b.padding = 0

/-- A block without padding. -/
theorem Padded.unpadded {b : Block} (h : b.padding = 0) : b.Padded := by
  have nothing : b.instrs.drop (b.instrs.length - b.padding) = [] := by
    rw [h, Nat.sub_zero, List.drop_length]
  refine ⟨?_, ?_, ?_, fun _ => h⟩
  · rw [h]
    exact Nat.zero_le _
  · rw [nothing]
    exact fun _ mem => by cases mem
  · rw [nothing]
    exact fun _ mem => by cases mem

/-- What is not padding is the body. -/
theorem strippedBytes_eq {b : Block} (h : b.native = false) :
    b.strippedBytes = b.body.flatMap fun i => i.op.bytes := by
  have bytes : b.bytes = b.instrs.flatMap fun i => i.op.bytes := by
    unfold Block.bytes
    rw [h]
    rfl
  have keep : 2 * b.instrs.length - 2 * b.padding = 2 * (b.instrs.length - b.padding) := by omega
  unfold strippedBytes body
  rw [bytes, length_unitBytes, keep, take_unitBytes]

/-- **The bytes of a block** are those of its body, and as many no-ops as it has padding. -/
theorem Padded.bytes_eq {b : Block} (h : b.Padded) : b.bytes = b.strippedBytes ++ noOps b.padding := by
  cases native : b.native with
  | true =>
    have nothing : b.bytes = [] := by simp [Block.bytes, native]
    have stripped : b.strippedBytes = [] := by simp [strippedBytes, nothing]
    rw [nothing, stripped, h.native native]
    rfl
  | false =>
    have bytes : b.bytes = b.instrs.flatMap fun i => i.op.bytes := by simp [Block.bytes, native]
    have length : (b.instrs.drop (b.instrs.length - b.padding)).length = b.padding := by
      have short := h.short
      rw [List.length_drop]
      omega
    have padding := unitBytes_noOps h.idle
    rw [length] at padding
    rw [bytes, strippedBytes_eq native, ← padding, body, ← List.flatMap_append, List.take_append_drop]

/-- Different padding shows in the bytes. -/
theorem Padded.bytes_ne {b c : Block} (hb : b.Padded) (hc : c.Padded)
    (same : b.strippedBytes = c.strippedBytes) (differ : b.padding ≠ c.padding) :
    b.bytes ≠ c.bytes := by
  intro bytes
  rw [hb.bytes_eq, hc.bytes_eq, same] at bytes
  have lengths := congrArg List.length (List.append_cancel_left bytes)
  rw [length_noOps, length_noOps] at lengths
  omega

/-- The body of `b` goes on with no-ops of its own where `c` has more padding than `b`. -/
def Extends (b c : Block) : Prop :=
  b.padding < c.padding ∧ b.strippedBytes = c.strippedBytes ++ noOps (c.padding - b.padding)

instance (b c : Block) : Decidable (b.Extends c) := inferInstanceAs (Decidable (_ ∧ _))

theorem Padded.bytes_eq_of_extends {b c : Block} (hb : b.Padded) (hc : c.Padded)
    (h : b.Extends c) : b.bytes = c.bytes := by
  rw [hb.bytes_eq, hc.bytes_eq, h.2, List.append_assoc, ← noOps_add,
    Nat.sub_add_cancel (Nat.le_of_lt h.1)]

/-- Bytes that end alike in less padding have the longer body. -/
theorem extends_of_bytes_eq {b c : Block} (hb : b.Padded) (hc : c.Padded) (same : b.bytes = c.bytes)
    (less : b.padding < c.padding) : b.Extends c := by
  have more : noOps c.padding = noOps (c.padding - b.padding) ++ noOps b.padding := by
    rw [← noOps_add, Nat.sub_add_cancel (Nat.le_of_lt less)]
  rw [hb.bytes_eq, hc.bytes_eq, more, ← List.append_assoc] at same
  exact ⟨less, List.append_cancel_right same⟩

/-- **When two blocks have the same bytes**: same body and same padding, or the body of one goes on
with no-ops where the other has padding. -/
theorem Padded.bytes_eq_iff {b c : Block} (hb : b.Padded) (hc : c.Padded) :
    b.bytes = c.bytes ↔ (b.strippedBytes = c.strippedBytes ∧ b.padding = c.padding) ∨
      b.Extends c ∨ c.Extends b := by
  constructor
  · intro same
    rcases Nat.lt_trichotomy b.padding c.padding with less | equal | more
    · exact .inr (.inl (extends_of_bytes_eq hb hc same less))
    · rw [hb.bytes_eq, hc.bytes_eq, equal] at same
      exact .inl ⟨List.append_cancel_right same, equal⟩
    · exact .inr (.inr (extends_of_bytes_eq hc hb same.symm more))
  · rintro (⟨body, padding⟩ | longer | longer)
    · rw [hb.bytes_eq, hc.bytes_eq, body, padding]
    · exact hb.bytes_eq_of_extends hc longer
    · exact (hc.bytes_eq_of_extends hb longer).symm

/-- The byte string by whose hash a block is known. -/
def hashed (b : Block) : Bytes :=
  if b.native then Bytes.ofString "native::" ++ Bytes.littleEndian b.id.toUInt64 else b.bytes

theorem identity_eq (b : Block) : b.identity = Fnv1a.hash b.hashed := by
  unfold identity hashed
  split <;> rfl

/-- No instruction begins like the byte string of a native block. -/
theorem hashed_ne_of_native {b c : Block} (hb : b.native = true) (hc : c.native = false)
    (shown : c.instrs ≠ []) : b.hashed ≠ c.hashed := by
  intro same
  unfold hashed bytes at same
  rw [if_pos hb, hc, if_neg Bool.noConfusion, if_neg Bool.noConfusion] at same
  obtain ⟨i, rest, instrs⟩ := List.exists_cons_of_ne_nil shown
  have text : Bytes.ofString "native::" =
      0x6e :: [0x61, 0x74, 0x69, 0x76, 0x65, 0x3a, 0x3a] := by decide +kernel
  rw [instrs, text, List.cons_append, List.flatMap_cons] at same
  have first : 0x6e = i.op.opcode := (List.cons.inj same).1
  cases h : i.op <;> simp [h, Op.opcode] at first

/-- A block is padded behind its body, which stays the same. -/
theorem body_withPadding {b : Block} (h : b.native = false) (units : Nat) (id : BlockId) :
    (b.withPadding units id).body = b.body := by
  have length : (b.withPadding units id).instrs.length - (b.withPadding units id).padding =
      b.body.length := by
    simp [withPadding, h]
  unfold body
  rw [length]
  simp [withPadding]
  rfl

theorem strippedBytes_withPadding {b : Block} (h : b.native = false) (units : Nat) (id : BlockId) :
    (b.withPadding units id).strippedBytes = b.strippedBytes := by
  rw [strippedBytes_eq h, @strippedBytes_eq (b.withPadding units id) h, body_withPadding h]

theorem padded_withPadding (b : Block) (units : Nat) (id : BlockId) :
    (b.withPadding units id).Padded := by
  cases native : b.native with
  | true =>
    exact .unpadded (by simp [withPadding, native])
  | false =>
    have count : (b.withPadding units id).padding = units := by simp [withPadding, native]
    have instrs : (b.withPadding units id).instrs =
      b.body ++ List.replicate units ⟨b.paddingLine, .nop⟩ := rfl
    have length : (b.withPadding units id).instrs.length - units = b.body.length := by
      simp [instrs]
    have line : (b.withPadding units id).paddingLine = b.paddingLine := by
      unfold paddingLine
      rw [body_withPadding native]
      rfl
    refine ⟨?_, fun i mem => ?_, fun i mem => ?_, fun h => ?_⟩
    · rw [count, instrs]
      simp
    · rw [count, length, instrs, List.drop_left] at mem
      rw [List.eq_of_mem_replicate mem]
    · rw [count, length, instrs, List.drop_left] at mem
      rw [List.eq_of_mem_replicate mem, line]
    · have same : (b.withPadding units id).native = b.native := rfl
      rw [same, native] at h
      cases h

end Block

namespace Padding

/-- What a registry remembers of the blocks it has admitted, and that it keeps them apart. -/
structure Admitted (p : Padding) (done : List Block) : Prop where
  known : ∀ id, id ∈ p.known ↔ ∃ b ∈ done, b.id = id
  counted : ∀ b ∈ done, b.native = false →
    b.padding ∈ p.shapes.getD (BlockHash.ofBytes b.strippedBytes) []
  apart : ∀ b ∈ done, ∀ c ∈ done, b ≠ c → b.native = false → c.native = false →
    b.strippedBytes = c.strippedBytes → b.padding ≠ c.padding

/-- A block is placed behind all that were placed before it. -/
theorem lt_distance {siblings : List Nat} {n : Nat} (mem : n ∈ siblings) (own : Nat) :
    n < distance siblings own := by
  unfold distance
  cases most : siblings.max? with
  | none =>
    rw [List.max?_eq_none_iff.mp most] at mem
    cases mem
  | some m =>
    have le := List.le_max?_get_of_mem mem
    simp only [most, Option.get_some] at le
    exact Nat.lt_succ_of_le le

/-- What is placed: the block itself, or a copy of it under the new number with other padding. -/
structure Placed (p : Padding) (block : Block) (id : BlockId) (placed : Block) : Prop where
  same : placed = block ∨ ∃ units, placed = block.withPadding units id
  native : placed.native = block.native
  stripped : block.native = false → placed.strippedBytes = block.strippedBytes
  padding : block.native = false → placed.padding =
    distance (p.shapes.getD (BlockHash.ofBytes block.strippedBytes) []) block.padding

theorem placed_place (p : Padding) (block : Block) (id : BlockId) :
    p.Placed block id (p.place block id).1 := by
  unfold place
  cases native : block.native with
  | true =>
    rw [if_pos rfl]
    exact ⟨.inl rfl, rfl, fun h => absurd (native.symm.trans h) Bool.noConfusion,
      fun h => absurd (native.symm.trans h) Bool.noConfusion⟩
  | false =>
    rw [if_neg Bool.noConfusion]
    simp only
    split
    · rename_i own
      exact ⟨.inl rfl, rfl, fun _ => rfl, fun _ => own.symm⟩
    · refine ⟨.inr ⟨_, rfl⟩, rfl, fun _ => Block.strippedBytes_withPadding native _ _, fun _ => ?_⟩
      simp [Block.withPadding, native]

theorem known_place (p : Padding) (block : Block) (id : BlockId) :
    (p.place block id).2.known = p.known := by
  unfold place
  split <;> rfl

/-- The padding of what is placed is remembered with its shape. -/
theorem shapes_place (p : Padding) (block : Block) (id : BlockId) (shape : BlockHash) :
    (p.place block id).2.shapes.getD shape [] =
      if block.native = false ∧ BlockHash.ofBytes block.strippedBytes = shape then
        p.shapes.getD shape [] ++ [(p.place block id).1.padding]
      else p.shapes.getD shape [] := by
  unfold place
  cases native : block.native with
  | true => simp
  | false =>
    rw [if_neg Bool.noConfusion]
    simp only [Assoc.getD_set, true_and]
    split
    · rename_i here
      rw [here]
    · rfl

theorem native_accept (p : Padding) (block : Block) (id : BlockId) :
    (p.accept block id).1.native = block.native := by
  unfold accept
  split
  · rfl
  · exact (p.placed_place block id).native

theorem instrs_place (p : Padding) {block : Block} (shown : block.instrs ≠ []) (id : BlockId) :
    (p.place block id).1.instrs ≠ [] := by
  unfold place
  split
  · exact shown
  · simp only
    split
    · exact shown
    · rename_i moved
      -- Only a block with siblings becomes a copy, and that has padding.
      unfold distance at *
      cases most : (p.shapes.getD (BlockHash.ofBytes block.strippedBytes) []).max? with
      | none =>
        rw [most] at moved
        exact absurd rfl moved
      | some m => simp [Block.withPadding, List.replicate_succ]

/-- What shows instructions shows instructions once it was admitted. -/
theorem instrs_accept (p : Padding) {block : Block} (shown : block.instrs ≠ []) (id : BlockId) :
    (p.accept block id).1.instrs ≠ [] := by
  unfold accept
  split
  · exact shown
  · exact p.instrs_place shown id

/-- **Admitting keeps blocks apart**, where a block that was admitted before is the same still. -/
theorem Admitted.accept {p : Padding} {done : List Block} (h : p.Admitted done) {block : Block}
    (unique : ∀ b ∈ done, b.id = block.id → b = block) (id : BlockId) :
    (p.accept block id).2.Admitted ((p.accept block id).1 :: done) := by
  unfold Padding.accept
  cases known : p.known.contains block.id with
  | true =>
    rw [if_pos rfl]
    obtain ⟨b, mem, same⟩ := (h.known block.id).mp (List.contains_iff_mem.mp known)
    cases unique b mem same
    have old : ∀ {c}, c ∈ block :: done → c ∈ done := by
      intro c there
      rcases List.mem_cons.mp there with rfl | there
      · exact mem
      · exact there
    refine ⟨fun id' => (h.known id').trans ⟨?_, ?_⟩, fun c there => h.counted c (old there),
      fun c there d there' => h.apart c (old there) d (old there')⟩
    · rintro ⟨c, there, rfl⟩
      exact ⟨c, List.mem_cons_of_mem _ there, rfl⟩
    · rintro ⟨c, there, rfl⟩
      exact ⟨c, old there, rfl⟩
  | false =>
    rw [if_neg Bool.noConfusion]
    have placed := placed_place p block id
    have shapes := shapes_place p block id
    have noted := known_place p block id
    generalize p.place block id = result at placed shapes noted
    obtain ⟨copy, next⟩ := result
    simp only at placed shapes noted ⊢
    -- Whoever has the shape of the new block already has less padding.
    have behind : ∀ c ∈ done, c.native = false → copy.native = false →
        c.strippedBytes = copy.strippedBytes → c.padding < copy.padding := by
      intro c there plain plain' same
      have native : block.native = false := placed.native.symm.trans plain'
      rw [placed.padding native]
      refine lt_distance ?_ _
      rw [← placed.stripped native, ← same]
      exact h.counted c there plain
    refine ⟨fun id' => ?_, fun c there plain => ?_, fun c there d there' differ plain plain' same => ?_⟩
    · rw [noted, List.mem_cons, h.known]
      simp only [List.mem_cons, exists_eq_or_imp]
      exact or_congr_left eq_comm
    · rw [shapes]
      rcases List.mem_cons.mp there with rfl | there
      · have native : block.native = false := placed.native.symm.trans plain
        rw [if_pos ⟨native, by rw [placed.stripped native]⟩]
        exact List.mem_append_right _ List.mem_cons_self
      · split
        · exact List.mem_append_left _ (h.counted c there plain)
        · exact h.counted c there plain
    · rcases List.mem_cons.mp there with isCopy | old <;>
        rcases List.mem_cons.mp there' with isCopy' | old'
      · exact absurd (isCopy.trans isCopy'.symm) differ
      · subst isCopy
        exact Nat.ne_of_gt (behind d old' plain' plain same.symm)
      · subst isCopy'
        exact Nat.ne_of_lt (behind c old plain plain' same)
      · exact h.apart c old d old' differ plain plain' same

/-- A profiler that is enrolled does not follow itself. -/
theorem not_mem_enrol (p : Padding) (routine : RoutineId) (before after : BlockId)
    (watcher : ProfilerId) : watcher ∉ (p.enrol routine before after watcher).1 := by
  unfold enrol
  simp only
  split
  · exact List.not_mem_nil
  · simp

/-- Enrolling a profiler admits nothing. -/
theorem Admitted.enrol {p : Padding} {done : List Block} (h : p.Admitted done) (routine : RoutineId)
    (before after : BlockId) (watcher : ProfilerId) :
    (p.enrol routine before after watcher).2.Admitted done :=
  ⟨h.known, h.counted, h.apart⟩

end Padding

/-!
## Padded copies

What lies behind the body of a block is padding on its last line, so blocks with the same body have
the same units as far as the body goes and differ only in how many no-ops follow. A block is
`Paddable` if whoever gets behind its last unit has just run that unit.
-/

/-- The unit that a loop may go back to. -/
def Op.back? : Op → Option Nat
  | .loopEnd target => some target.toNat
  | _ => none

namespace Block

variable {b c : Block}

/-! ### What lies behind the body -/

theorem Padded.instrs_eq (h : b.Padded) :
    b.instrs = b.body ++ List.replicate b.padding ⟨b.paddingLine, .nop⟩ := by
  have behind : b.instrs.drop (b.instrs.length - b.padding) =
      List.replicate b.padding ⟨b.paddingLine, .nop⟩ := by
    have short := h.short
    refine List.eq_replicate_iff.mpr ⟨by rw [List.length_drop]; omega, fun i mem => ?_⟩
    obtain ⟨line, op⟩ := i
    have hl : line = b.paddingLine := h.line _ mem
    have ho : op = .nop := h.idle _ mem
    rw [hl, ho]
  rw [← behind, body, List.take_append_drop]

/-- As far as the body goes, its units are those of the block. -/
theorem Padded.unit (h : b.Padded) {i : Nat} (inside : i < b.body.length) :
    b.instrs[i]? = some b.body[i] := by
  rw [h.instrs_eq, List.getElem?_append_left inside, List.getElem?_eq_getElem inside]

theorem Padded.behind (h : b.Padded) :
    b.instrs.drop b.body.length = List.replicate b.padding ⟨b.paddingLine, .nop⟩ := by
  have split := congrArg (List.drop b.body.length) h.instrs_eq
  rwa [List.drop_left] at split

/-- The last unit of the body is on the line of the padding. -/
theorem line_last {i : Nat} (inside : i < b.body.length) (last : i + 1 = b.body.length) :
    b.body[i].line = b.paddingLine := by
  have found : b.body.getLast? = some b.body[i] := by
    rw [List.getLast?_eq_getElem?, ← last, Nat.add_sub_cancel, List.getElem?_eq_getElem inside]
  unfold paddingLine
  rw [found]
  rfl

/-! ### Copies -/

/-- A block that has a body from which no jump leads behind it. The last unit of a generator must not
be a `yield`: the frame would be resumed behind the body, where the line is announced once more if
there is padding. -/
structure Paddable (b : Block) : Prop where
  shown : b.body ≠ []
  backward : ∀ i < b.body.length, ∀ target ∈ b.body[i]?.bind fun u => u.op.back?, target ≤ i
  goesOn : b.generator = true → ∀ i ∈ b.body.getLast?, i.op ≠ .yield

instance (b : Block) : Decidable b.Paddable :=
  decidable_of_iff (b.body ≠ [] ∧ (∀ i < b.body.length,
      ∀ target ∈ b.body[i]?.bind fun u => u.op.back?, target ≤ i) ∧ (b.generator = true → ∀ i ∈ b.body.getLast?, i.op ≠ .yield))
    ⟨fun h => ⟨h.1, h.2.1, h.2.2⟩, fun h => ⟨h.shown, h.backward, h.goesOn⟩⟩

theorem Paddable.congr (h : b.Paddable) (body : c.body = b.body) (generator : c.generator = b.generator) :
    c.Paddable := by
  obtain ⟨shown, backward, goesOn⟩ := h
  rw [← body] at shown backward goesOn
  rw [← generator] at goesOn
  exact ⟨shown, backward, goesOn⟩

/-- Blocks that run the same body. -/
structure Copies (b c : Block) : Prop where
  paddable : b.Paddable
  body : c.body = b.body
  generator : c.generator = b.generator
  padded : b.Padded
  padded' : c.Padded

namespace Copies

theorem pos (h : b.Copies c) : 0 < b.body.length := List.length_pos_iff.mpr h.paddable.shown

/-- Both have the same units as far as the body goes. -/
theorem units (h : b.Copies c) {i : Nat} (inside : i < b.body.length) :
    b.instrs[i]? = some b.body[i] ∧ c.instrs[i]? = some b.body[i] := by
  refine ⟨h.padded.unit inside, ?_⟩
  rw [h.padded'.unit (h.body ▸ inside)]
  simp only [h.body]

/-- The padding of both is on the same line. -/
theorem paddingLine (h : b.Copies c) : c.paddingLine = b.paddingLine := by
  have some : ∃ i, b.body.getLast? = some i := by
    cases last : b.body.getLast? with
    | none => exact absurd (List.getLast?_eq_none_iff.mp last) h.paddable.shown
    | some i => exact ⟨i, rfl⟩
  obtain ⟨i, last⟩ := some
  unfold Block.paddingLine
  rw [h.body, last]
  rfl

end Copies

/-- **A padded block is a copy**, however much it is padded. -/
theorem Paddable.copies (h : b.Paddable) (native : b.native = false) (padded : b.Padded)
    (units : Nat) (id : BlockId) : b.Copies (b.withPadding units id) :=
  ⟨h, body_withPadding native units id, rfl, padded, padded_withPadding b units id⟩

end Block

end LineClock

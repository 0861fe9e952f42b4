import LineClock.MessagePack
import LineClock.Proofs.Bytes

/-!
# MessagePack is lossless

Reading is told of byte strings that start with what was written: a reader that `Reads` something
there leaves whatever follows. A tree is `Storable` if its numbers have at most 64 bits, the lengths
of its texts, lists and records at most 32, and it does not nest too deep; it is read back as it was
written. Main statement: `decode?_encode`.
-/

namespace LineClock.MessagePack

variable {α β : Type}

/-- A reader takes something off the front of every byte string that starts with `input`. -/
def Reads (r : Reader α) (a : α) (input : Bytes) : Prop :=
  ∀ rest, r (input ++ rest) = some (a, rest)

namespace Reads

theorem pure (a : α) : Reads (Pure.pure a) a [] := fun _ => rfl

theorem bind {r : Reader α} {f : α → Reader β} {a : α} {b : β} {x y : Bytes}
    (first : Reads r a x) (rest : Reads (f a) b y) : Reads (r >>= f) b (x ++ y) := by
  intro more
  have step : (r >>= f) (x ++ y ++ more) = (r (x ++ y ++ more)).bind fun p => f p.1 p.2 := rfl
  rw [step, List.append_assoc, first, Option.bind_some]
  exact rest more

/-- Something that takes nothing more off comes last. -/
theorem last {r : Reader α} {f : α → Reader β} {a : α} {b : β} {x : Bytes}
    (first : Reads r a x) (rest : Reads (f a) b []) : Reads (r >>= f) b x := by
  have whole := first.bind rest
  rwa [List.append_nil] at whole

theorem map {r : Reader α} {f : α → β} {a : α} {x : Bytes} (first : Reads r a x) :
    Reads (do return f (← r)) (f a) x := first.last (pure (f a))

/-- A look at the whole input takes nothing off. -/
theorem get {f : Bytes → Reader α} {a : α} {x : Bytes} (rest : ∀ input, Reads (f input) a x) :
    Reads (MonadState.get >>= f) a x := fun more => rest (x ++ more) more

end Reads

/-! ## Bytes and numbers -/

theorem reads_byte (b : UInt8) : Reads byte b [b] := fun _ => rfl

theorem reads_bytes (input : Bytes) : Reads (bytes input.length) input input := by
  intro rest
  unfold bytes
  simp

theorem reads_number (width : Nat) {n : Nat} (h : n < 1 <<< (8 * width)) :
    Reads (number width) n (Bytes.bigEndian width n) := by
  have read := reads_bytes (Bytes.bigEndian width n)
  rw [Bytes.length_bigEndian] at read
  have whole := read.map (f := Bytes.number)
  rwa [Bytes.number_bigEndian width n h] at whole

/-- A negative number is stored as what it is short of a power of two. -/
theorem reads_signed {n : Int} (negative : n < 0) (least : -2 ^ 63 ≤ n) :
    Reads (signed 8) n (Bytes.bigEndian 8 (UInt64.size - n.natAbs)) := by
  have size : UInt64.size = 2 ^ 64 := rfl
  have stored : UInt64.size - n.natAbs < 1 <<< (8 * 8) := by
    show _ < 2 ^ 64
    omega
  have whole := (reads_number 8 stored).map
    (f := fun n => if n < 1 <<< (8 * 8 - 1) then (n : Int) else (n : Int) - (1 <<< (8 * 8) : Nat))
  have back : (if UInt64.size - n.natAbs < 1 <<< (8 * 8 - 1)
      then ((UInt64.size - n.natAbs : Nat) : Int)
      else ((UInt64.size - n.natAbs : Nat) : Int) - (1 <<< (8 * 8) : Nat)) = n := by
    have half : 1 <<< (8 * 8 - 1) = 2 ^ 63 := rfl
    have full : 1 <<< (8 * 8) = 2 ^ 64 := rfl
    rw [half, full, if_neg (by omega)]
    omega
  rwa [back] at whole

/-! ## Heads -/

/-- A marker that holds a small number itself. -/
theorem toNat_marker (base : Nat) {n : Nat} (h : base + n < 256) :
    (base.toUInt8 + n.toUInt8).toNat = base + n := by
  rw [UInt8.toNat_add]
  simp only [Nat.toUInt8_eq, UInt8.toNat_ofNat']
  omega

theorem reads_natural {n : Nat} (h : n < 2 ^ 64) : Reads head (.natural n) (natural n) := by
  unfold natural
  split
  · rename_i small
    have marker : n.toUInt8.toNat = n := by
      simp only [Nat.toUInt8_eq, UInt8.toNat_ofNat']
      omega
    refine (reads_byte n.toUInt8).last ?_
    simp only [marker, if_pos small]
    exact .pure _
  split
  · exact (reads_byte 0xcc).bind (reads_number 1 ‹_›).map
  split
  · exact (reads_byte 0xcd).bind (reads_number 2 ‹_›).map
  split
  · exact (reads_byte 0xce).bind (reads_number 4 ‹_›).map
  · exact (reads_byte 0xcf).bind (reads_number 8 h).map

theorem reads_textHead {n : Nat} (h : n < 2 ^ 32) : Reads head (.text n) (textHead n) := by
  unfold textHead
  split
  · rename_i small
    have marker : (0xa0 + n.toUInt8).toNat = 0xa0 + n := toNat_marker 0xa0 (by omega)
    refine (reads_byte (0xa0 + n.toUInt8)).last ?_
    simp only [marker]
    rw [if_neg (by omega), if_neg (by omega), if_neg (by omega), if_pos (by omega),
      Nat.add_sub_cancel_left]
    exact .pure _
  split
  · exact (reads_byte 0xd9).bind (reads_number 1 ‹_›).map
  split
  · exact (reads_byte 0xda).bind (reads_number 2 ‹_›).map
  · exact (reads_byte 0xdb).bind (reads_number 4 h).map

theorem reads_listHead {n : Nat} (h : n < 2 ^ 32) : Reads head (.list n) (listHead n) := by
  unfold listHead
  split
  · rename_i small
    have marker : (0x90 + n.toUInt8).toNat = 0x90 + n := toNat_marker 0x90 (by omega)
    refine (reads_byte (0x90 + n.toUInt8)).last ?_
    simp only [marker]
    rw [if_neg (by omega), if_neg (by omega), if_pos (by omega), Nat.add_sub_cancel_left]
    exact .pure _
  split
  · exact (reads_byte 0xdc).bind (reads_number 2 ‹_›).map
  · exact (reads_byte 0xdd).bind (reads_number 4 h).map

theorem reads_recordHead {n : Nat} (h : n < 2 ^ 32) : Reads head (.record n) (recordHead n) := by
  unfold recordHead
  split
  · rename_i small
    have marker : (0x80 + n.toUInt8).toNat = 0x80 + n := toNat_marker 0x80 (by omega)
    refine (reads_byte (0x80 + n.toUInt8)).last ?_
    simp only [marker]
    rw [if_neg (by omega), if_pos (by omega), Nat.add_sub_cancel_left]
    exact .pure _
  split
  · exact (reads_byte 0xde).bind (reads_number 2 ‹_›).map
  · exact (reads_byte 0xdf).bind (reads_number 4 h).map

theorem reads_real (x : Float) : Reads head (.real x) (real x) := by
  have bits : x.toBits.toNat < 1 <<< (8 * 8) := x.toBits.toNat_lt
  have read := (reads_number 8 bits).map (f := fun n => Head.real (Float.ofBits n.toUInt64))
  have back : Float.ofBits x.toBits.toNat.toUInt64 = x := by
    rw [Nat.toUInt64_eq, UInt64.ofNat_toNat, Bytes.ofBits_toBits]
  rw [back] at read
  exact (reads_byte 0xcb).bind read

theorem reads_plain : Reads head .plain [0xc0] := (reads_byte 0xc0).bind (Reads.pure _)

/-! ## Trees -/

/-- Whether a mark of a field can be stored. -/
def StorableLabel : Label → Prop
  | .name s => (Bytes.ofString s).length < 2 ^ 32
  | .index n => n < 2 ^ 64
  | .other | .invalid => False

/-- Whether a tree can be stored so that it is read back, if lists and records nest less than
`depth` deep. -/
def Storable : Nat → Tree → Prop
  | 0, _ => False
  | _ + 1, .whole n => -2 ^ 63 ≤ n ∧ n < 2 ^ 64
  | _ + 1, .real _ => True
  | _ + 1, .text s => (Bytes.ofString s).length < 2 ^ 32
  | depth + 1, .list items => depth ≠ 0 ∧ items.length < 2 ^ 32 ∧ ∀ t ∈ items, Storable depth t
  | depth + 1, .record fields =>
    depth ≠ 0 ∧ fields.length < 2 ^ 32 ∧ ∀ f ∈ fields, StorableLabel f.1 ∧ Storable depth f.2
  | _ + 1, .other => True

theorem reads_times {item : Reader α} {write : α → Bytes} {l : List α}
    (each : ∀ a ∈ l, Reads item a (write a)) : Reads (times item l.length) l (l.flatMap write) := by
  induction l with
  | nil => exact .pure _
  | cons a rest ih =>
    have first := each a List.mem_cons_self
    have later := ih fun a mem => each a (List.mem_cons_of_mem _ mem)
    exact first.bind later.map

theorem reads_text {s : String} (h : (Bytes.ofString s).length < 2 ^ 32) (depth : Nat) :
    Reads (tree (depth + 1)) (.text s) (text s) := by
  have read := (reads_bytes (Bytes.ofString s)).map (f := ofBytes)
  have back : ofBytes (Bytes.ofString s) = .text s := by
    unfold ofBytes
    rw [Bytes.toString?_ofString]
  rw [back] at read
  exact (reads_textHead h).bind read

theorem reads_label {l : Label} (h : StorableLabel l) (skip : Reader Tree) :
    Reads (readLabel skip) l (label l) := by
  refine Reads.get fun input => ?_
  cases l with
  | name s =>
    refine (reads_textHead h).bind ((reads_bytes (Bytes.ofString s)).last ?_)
    rw [Bytes.toString?_ofString]
    exact .pure _
  | index n => exact (reads_natural h).last (.pure _)
  | other => exact h.elim
  | invalid => exact h.elim

/-- A field of a record. -/
theorem reads_field {depth : Nat} {f : Label × Tree} (label : StorableLabel f.1)
    (read : Reads (tree depth) f.2 (encode f.2)) :
    Reads (do
      let l ← readLabel (tree depth)
      let t ← tree depth
      pure (l, t)) f (MessagePack.label f.1 ++ encode f.2) :=
  (reads_label label _).bind read.map

theorem encodeItems_eq (items : List Tree) : encodeItems items = items.flatMap encode := by
  induction items with
  | nil => rfl
  | cons t rest ih => rw [encodeItems, ih, List.flatMap_cons]

theorem encodeFields_eq (fields : List (Label × Tree)) :
    encodeFields fields = fields.flatMap fun f => label f.1 ++ encode f.2 := by
  induction fields with
  | nil => rfl
  | cons f rest ih => rw [encodeFields, ih, List.flatMap_cons]

/-- **A storable tree is read as it was written.** -/
theorem reads_tree (depth : Nat) : ∀ {t : Tree}, Storable depth t → Reads (tree depth) t (encode t) := by
  induction depth with
  | zero => exact fun h => h.elim
  | succ depth ih =>
    intro t h
    cases t with
    | whole n =>
      obtain ⟨least, largest⟩ := h
      unfold encode
      split
      · rename_i negative
        have head : Reads head (.integer n) (wide 0xd3 8 (UInt64.size - n.natAbs)) :=
          (reads_byte 0xd3).bind (reads_signed negative least).map
        exact head.last (.pure _)
      · rename_i positive
        have same : ((n.toNat : Nat) : Int) = n := by omega
        refine (reads_natural (n := n.toNat) (by omega)).last ?_
        show Reads (Pure.pure (Tree.whole n.toNat)) (.whole n) []
        rw [same]
        exact .pure _
    | real x =>
      unfold encode
      exact (reads_real x).last (.pure _)
    | text s =>
      unfold encode
      exact reads_text h depth
    | list items =>
      obtain ⟨deep, short, each⟩ := h
      unfold encode
      rw [encodeItems_eq]
      refine (reads_listHead short).bind ?_
      simp only [if_neg deep]
      exact (reads_times fun t mem => ih (each t mem)).map
    | record fields =>
      obtain ⟨deep, short, each⟩ := h
      unfold encode
      rw [encodeFields_eq]
      refine (reads_recordHead short).bind ?_
      simp only [if_neg deep]
      exact (reads_times fun f mem => reads_field (each f mem).1 (ih (each f mem).2)).map
    | other =>
      unfold encode
      exact reads_plain.last (.pure _)

/-- **What is stored is read.** -/
theorem decode?_encode {t : Tree} (h : Storable maxDepth t) : decode? (encode t) = some t := by
  have read := reads_tree maxDepth h []
  rw [List.append_nil] at read
  unfold decode? StateT.run
  rw [read]
  rfl

end LineClock.MessagePack

/-!
# Words as bytes

Byte strings are lists of bytes. A word is written with its most or least significant byte first;
reading back what was written most significant byte first gives the number.
-/

namespace LineClock

/-- A byte string. -/
abbrev Bytes := List UInt8

namespace Bytes

/-- The eight bytes of a word, least significant first. -/
def littleEndian (w : UInt64) : Bytes :=
  (List.range 8).map fun i => (w >>> (8 * i).toUInt64).toUInt8

/-- The last `width` base-256 digits of a number, most significant first. -/
def bigEndian : Nat → Nat → Bytes
  | 0, _ => []
  | width + 1, n => bigEndian width (n / 256) ++ [n.toUInt8]

/-- The number whose base-256 digits are the given bytes, most significant first. -/
def number (bytes : Bytes) : Nat := bytes.foldl (fun n b => 256 * n + b.toNat) 0

theorem number_append (a b : Bytes) : number (a ++ b) = b.foldl (fun n b => 256 * n + b.toNat) (number a) := by
  simp [number, List.foldl_append]

theorem number_bigEndian (width n : Nat) (h : n < 1 <<< (8 * width)) :
    number (bigEndian width n) = n := by
  induction width generalizing n with
  | zero =>
    have none : n = 0 := Nat.lt_one_iff.mp h
    simp [none, bigEndian, number]
  | succ width ih =>
    have hd : n / 256 < 1 <<< (8 * width) := by
      rw [show 8 * (width + 1) = 8 * width + 8 from rfl, Nat.shiftLeft_add, Nat.shiftLeft_eq] at h
      exact Nat.div_lt_of_lt_mul (by omega)
    rw [bigEndian, number_append, ih _ hd]
    simp only [List.foldl_cons, List.foldl_nil, Nat.toUInt8_eq, UInt8.toNat_ofNat']
    omega

@[simp] theorem length_bigEndian (width n : Nat) : (bigEndian width n).length = width := by
  induction width generalizing n with
  | zero => rfl
  | succ width ih => simp [bigEndian, ih]

/-- The bytes of a text. -/
def ofString (s : String) : Bytes := s.toUTF8.toList

/-- A number below sixteen as a hexadecimal digit. -/
def hexDigit (n : Nat) : Char := "0123456789abcdef".toList.getD n '0'

/-- Two hexadecimal digits for each byte. -/
def hex (bytes : Bytes) : String :=
  String.ofList (bytes.flatMap fun b => [hexDigit (b.toNat / 16), hexDigit (b.toNat % 16)])

/-- A word as sixteen hexadecimal digits. -/
def wordHex (w : UInt64) : String := hex (bigEndian 8 w.toNat)

/-- The text with the given bytes, if they are valid UTF-8. -/
def toString? (bytes : Bytes) : Option String := String.fromUTF8? (bytes.toByteArray)

end Bytes

end LineClock

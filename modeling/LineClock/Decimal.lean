/-!
# Numbers and their decimal digits

A finite floating point number is a whole number of binary steps, so it is a fraction and can be
rounded to decimal digits exactly. Ties go to the even neighbour. Main statement: rounding a
quotient is off by at most half a unit.
-/

namespace LineClock.Decimal

/-- A finite number: a sign and `mantissa` steps of two to the power `exponent`. -/
structure Binary where
  negative : Bool
  mantissa : Nat
  exponent : Int
  deriving DecidableEq, Repr, Inhabited

/-- The leading bit of a mantissa, which the field of the fraction leaves out. -/
def leadingBit : Nat := 1 <<< 52

/-- The number with a given sign and fields of its exponent and fraction, unless it is infinite or
no number. -/
def Binary.ofFields? (negative : Bool) (exponent fraction : Nat) : Option Binary :=
  if exponent = 0x7ff then none
  else if exponent = 0 then some ⟨negative, fraction, -1074⟩
  else some ⟨negative, fraction + leadingBit, exponent - 1075⟩

/-- The parts of a floating point number, none for infinities and for what is no number. -/
def Binary.ofFloat? (x : Float) : Option Binary :=
  let bits := x.toBits.toNat
  ofFields? (1 <<< 63 ≤ bits) (bits / leadingBit % 0x800) (bits % leadingBit)

/-- A nonnegative fraction. -/
structure Fraction where
  num : Nat
  den : Nat
  deriving DecidableEq, Repr, Inhabited

namespace Fraction

/-- `n` steps of two to the power `exponent`. -/
def ofSteps (n : Nat) (exponent : Int) : Fraction := ⟨n <<< exponent.toNat, 1 <<< (-exponent).toNat⟩

/-- The fraction times a power of ten. -/
def scale (f : Fraction) (exponent : Int) : Fraction :=
  ⟨f.num * Nat.pow 10 exponent.toNat, f.den * Nat.pow 10 (-exponent).toNat⟩

/-- The whole number next to the fraction; of two that are equally near, the even one. -/
def round (f : Fraction) : Nat :=
  let q := f.num / f.den
  let r := f.num % f.den
  if f.den < 2 * r ∨ (2 * r = f.den ∧ q % 2 = 1) then q + 1 else q

theorem round_le (f : Fraction) : 2 * f.round * f.den ≤ 2 * f.num + f.den := by
  have h := Nat.div_add_mod f.num f.den
  have e : 2 * (f.num / f.den) * f.den = 2 * (f.den * (f.num / f.den)) := by
    rw [Nat.mul_comm f.den, ← Nat.mul_assoc]
  unfold round
  dsimp only
  split
  · rw [Nat.mul_add, Nat.add_mul, e]
    omega
  · rw [e]
    omega

theorem le_round (f : Fraction) (h0 : 0 < f.den) : 2 * f.num ≤ 2 * f.round * f.den + f.den := by
  have h := Nat.div_add_mod f.num f.den
  have e : 2 * (f.num / f.den) * f.den = 2 * (f.den * (f.num / f.den)) := by
    rw [Nat.mul_comm f.den, ← Nat.mul_assoc]
  unfold round
  dsimp only
  split
  · rw [Nat.mul_add, Nat.add_mul, e]
    have hr := Nat.mod_lt f.num h0
    omega
  · rw [e]
    omega

/-- The whole number next to the fraction; of two that are equally near, the larger. -/
def roundUp (f : Fraction) : Nat := (2 * f.num + f.den) / (2 * f.den)

/-- The power of ten at the first digit of a positive fraction. -/
def magnitude (f : Fraction) : Int :=
  let x : Int := (Nat.toDigits 10 f.num).length - (Nat.toDigits 10 f.den).length
  let g := f.scale (-x)
  if g.den ≤ g.num then x else x - 1

end Fraction

/-- The magnitude of a number as a fraction. -/
def Binary.fraction (b : Binary) : Fraction := .ofSteps b.mantissa b.exponent

/-! ## The shortest digits

The digits with which a number is written are the fewest that read back as the same number, and
among those the nearest to it. For one, two, … seventeen digits the two neighbours of the number on
that decimal grid are tried. -/

/-- The decimal number `digits` times ten to the power `exponent`. -/
structure Scientific where
  digits : Nat
  exponent : Int
  deriving DecidableEq, Repr, Inhabited

namespace Scientific

/-- The same number without zeros at the end of its digits; at most `fuel` are removed. -/
def stripZeros : Nat → Scientific → Scientific
  | 0, s => s
  | fuel + 1, s =>
    if s.digits % 10 = 0 ∧ s.digits ≠ 0 then stripZeros fuel ⟨s.digits / 10, s.exponent + 1⟩ else s

end Scientific

namespace Binary

/-- Whether the number below `b` is half as far away as the number above it. -/
def isPowerStart (b : Binary) : Bool := b.mantissa = leadingBit ∧ -1074 < b.exponent

/-- Whether the decimal number `digits` times ten to the power `exponent` reads back as `b`: it lies
between the middles of the gaps below and above `b`, or on one of them if the mantissa is even. -/
def contains (b : Binary) (digits : Nat) (exponent : Int) : Bool :=
  let four := 4 * b.mantissa
  let low := Fraction.ofSteps (four - if b.isPowerStart then 1 else 2) (b.exponent - 2)
  let high := Fraction.ofSteps (four + 2) (b.exponent - 2)
  let d := Fraction.scale ⟨digits, 1⟩ exponent
  let fromLow := (low.num * d.den, d.num * low.den)
  let toHigh := (d.num * high.den, high.num * d.den)
  if b.mantissa % 2 = 0 then fromLow.1 ≤ fromLow.2 ∧ toHigh.1 ≤ toHigh.2
  else fromLow.1 < fromLow.2 ∧ toHigh.1 < toHigh.2

/-- The nearest decimal number with `count` digits that reads back as `b`, if any does. -/
def withDigits? (b : Binary) (count : Nat) : Option Scientific :=
  let x := b.fraction.magnitude
  let shift : Int := count - 1 - x
  let scaled := b.fraction.scale shift
  let down := scaled.num / scaled.den
  let nearest := scaled.round
  let other := if nearest = down then down + 1 else down
  if b.contains nearest (-shift) then some ⟨nearest, -shift⟩
  else if b.contains other (-shift) then some ⟨other, -shift⟩
  else none

/-- The fewest digits that read back as a number other than zero; zero has the digit zero. -/
def shortest (b : Binary) : Scientific :=
  if b.mantissa = 0 then ⟨0, 0⟩
  else
    let found := (List.range 17).findSome? fun n => b.withDigits? (n + 1)
    (found.getD ⟨0, 0⟩).stripZeros 20

end Binary

/-! ## Reading

A decimal number is rounded to the nearest floating point number. Numbers far outside the range of
floating point numbers are settled by their number of digits alone. -/

/-- The value of a digit. -/
def digit? (c : Char) : Option Nat := if c.isDigit then some (c.toNat - '0'.toNat) else none

/-- The number with given digits, none if a character is no digit or there are none. -/
def natural? (cs : List Char) : Option Nat :=
  if cs.isEmpty then none else cs.foldlM (fun n c => (digit? c).map (10 * n + ·)) 0

/-- A sign at the front, and the rest. -/
def takeSign : List Char → Bool × List Char
  | '-' :: rest => (true, rest)
  | '+' :: rest => (false, rest)
  | cs => (false, cs)

/-- A whole number with an optional sign. -/
def integer? (cs : List Char) : Option Int := do
  let (negative, cs) := takeSign cs
  let n ← natural? cs
  return if negative then -n else n

/-- Infinity. -/
def infinity : Float := 1.0 / 0.0

/-- The floating point number nearest to `mantissa` times ten to the power `exponent`. -/
def nearest (mantissa : Nat) (exponent : Int) : Float :=
  let places : Int := (Nat.toDigits 10 mantissa).length + exponent
  if mantissa = 0 ∨ places < -400 then 0.0
  else if 400 < places then infinity
  else Float.ofScientific mantissa (exponent < 0) exponent.natAbs

/-- A decimal number without sign: digits with at most one point among them, at least one digit, and
perhaps an exponent. -/
def magnitude? (cs : List Char) : Option Float := do
  let isMark c := c = 'e' ∨ c = 'E'
  let body := cs.takeWhile fun c => ¬ isMark c
  let exponent ← match cs.dropWhile fun c => ¬ isMark c with
    | [] => pure 0
    | _ :: e => integer? e
  let whole := body.takeWhile (· ≠ '.')
  let fraction := (body.dropWhile (· ≠ '.')).drop 1
  let mantissa ← natural? (whole ++ fraction)
  return nearest mantissa (exponent - fraction.length)

/-- A number with an optional sign; infinity and what is no number have names, in any case. -/
def float? (s : String) : Option Float := do
  let (negative, cs) := takeSign s.toList
  let name := cs.map Char.toLower
  let x ← if name = "inf".toList ∨ name = "infinity".toList then some infinity
    else if name = "nan".toList then some (0.0 / 0.0)
    else magnitude? cs
  return if negative then -x else x

end LineClock.Decimal

import LineClock.Decimal

/-!
# JSON numerals

A numeral is kept as it is written. Its value is computed in machine numbers: digits are gathered in
a word as long as they fit; further digits of the whole part only scale the result, further digits
after the point are dropped; and the word is then scaled by powers of ten. Numbers are written with
the fewest digits that read back, positionally from the fifth place after the point up to sixteen
digits before it; otherwise with an exponent, which has a sign always.
-/

namespace LineClock.Json

/-- A numeral as it is written. -/
structure Numeral where
  negative : Bool := false
  /-- The digits before the point. -/
  whole : List Nat
  /-- The digits after the point, if there is one. -/
  fraction : Option (List Nat) := none
  /-- The exponent, if there is one: whether it is negative, and its digits. -/
  exponent : Option (Bool × List Nat) := none
  deriving DecidableEq, Repr, Inhabited

/-- What a numeral stands for. -/
inductive Amount where
  | whole (n : Int)
  | real (x : Float)
  /-- A number beyond all floating point numbers. -/
  | beyond
  deriving Inhabited

namespace Numeral

/-! ## Values -/

/-- The largest word. -/
def maxWord : Nat := UInt64.size - 1

/-- Append digits to a word as long as the result is a word. The answer is the word and the digits
that are left. -/
def gather (n : Nat) : List Nat → Nat × List Nat
  | [] => (n, [])
  | d :: rest => if maxWord < 10 * n + d then (n, d :: rest) else gather (10 * n + d) rest

/-- A power of ten as a floating point number. -/
def tenTo (n : Nat) : Float := Float.ofScientific 1 false n

/-- A number times ten to the power `exponent`, none if the result is infinite. Steps of 308 places
bring a far exponent within reach; at most `steps` are taken. -/
def scale : Nat → Float → Int → Option Float
  | 0, x, _ => some x
  | steps + 1, x, exponent =>
    if exponent.natAbs ≤ 308 then
      if 0 ≤ exponent then
        let y := x * tenTo exponent.toNat
        if y.isInf then none else some y
      else
        some (x / tenTo exponent.natAbs)
    else if x == 0.0 then some x
    else if 0 ≤ exponent then none
    else scale steps (x / tenTo 308) (exponent + 308)

/-- The number with given digits. -/
def ofDigits (digits : List Nat) : Nat := digits.foldl (fun n d => 10 * n + d) 0

/-- The bound of exponents. -/
def maxExponent : Nat := 0x7fffffff

/-- The value of a numeral that has a point or an exponent or does not fit into a word, without its
sign. -/
def magnitude (n : Numeral) : Option Float :=
  let (word, left) := gather 0 n.whole
  let (word, placed) := match n.fraction with
    | none => (word, 0)
    | some ds =>
      let (word, rest) := gather word ds
      (word, ds.length - rest.length)
  let start : Int := left.length - placed
  match n.exponent with
  | none => scale 5 word.toUInt64.toFloat start
  | some (negative, ds) =>
    let e := ofDigits ds
    if maxExponent < e then if word ≠ 0 ∧ ¬ negative then none else some 0.0
    else scale 5 word.toUInt64.toFloat (if negative then start - e else start + e)

/-- Whether a numeral is written as a whole number. -/
def isWhole (n : Numeral) : Bool := n.fraction.isNone && n.exponent.isNone

/-- What a numeral stands for. Whole numbers that fit into a word, with a sign if they are negative,
stay whole; minus zero does not. -/
def amount (n : Numeral) : Amount :=
  let word := ofDigits n.whole
  if n.isWhole ∧ word ≤ maxWord ∧ ¬ n.negative then .whole word
  else if n.isWhole ∧ n.negative ∧ word ≠ 0 ∧ word ≤ 1 <<< 63 then .whole (-word)
  else
    match n.magnitude with
    | none => .beyond
    | some x => .real (if n.negative then -x else x)

/-! ## Writing -/

/-- The digits of a number. -/
def digitsOf (n : Nat) : List Nat := (Nat.toDigits 10 n).map fun c => c.toNat - '0'.toNat

/-- A whole number. -/
def ofInt (n : Int) : Numeral := { negative := n < 0, whole := digitsOf n.natAbs }

/-- An exponent. -/
def exponentOf (e : Int) : Option (Bool × List Nat) := some (e < 0, digitsOf e.natAbs)

/-- A decimal number, laid out. -/
def ofScientific (negative : Bool) (s : Decimal.Scientific) : Numeral :=
  let ds := digitsOf s.digits
  let point : Int := ds.length + s.exponent
  if 0 ≤ s.exponent ∧ point ≤ 16 then
    { negative, whole := ds ++ List.replicate s.exponent.toNat 0, fraction := some [0] }
  else if 0 < point ∧ point ≤ 16 then
    { negative, whole := ds.take point.toNat, fraction := some (ds.drop point.toNat) }
  else if -5 < point ∧ point ≤ 0 then
    { negative, whole := [0], fraction := some (List.replicate (-point).toNat 0 ++ ds) }
  else
    let fraction := if ds.length = 1 then none else some (ds.drop 1)
    { negative, whole := ds.take 1, fraction, exponent := exponentOf (point - 1) }

/-- A finite floating point number. -/
def ofFloat? (x : Float) : Option Numeral :=
  (Decimal.Binary.ofFloat? x).map fun b => ofScientific b.negative b.shortest

/-- The character of a digit. -/
def digitChar (d : Nat) : Char := Char.ofNat ('0'.toNat + d)

/-- A numeral as text. -/
def text (n : Numeral) : List Char :=
  (if n.negative then ['-'] else []) ++ n.whole.map digitChar ++
    (match n.fraction with
      | none => []
      | some ds => '.' :: ds.map digitChar) ++
    (match n.exponent with
      | none => []
      | some (negative, ds) => 'e' :: (if negative then '-' else '+') :: ds.map digitChar)

end Numeral

end LineClock.Json

import LineClock.Decimal

/-!
# Numbers in reports

A report writes numbers with a fixed number of places, or with a number of significant digits:
positionally where the first digit stands between the fourth place after the point and the last of
the significant digits, with an exponent of at least two digits elsewhere, and without zeros at the
end either way. Digits are exact; ties go to the even neighbour.
-/

namespace LineClock.Report

open Decimal

/-- A text brought to a width by blanks before it. -/
def padLeft (width : Nat) (s : List Char) : List Char := List.replicate (width - s.length) ' ' ++ s

/-- The decimal digits of a number, brought to a width by zeros before them. -/
def digits (width n : Nat) : List Char :=
  let ds := Nat.toDigits 10 n
  List.replicate (width - ds.length) '0' ++ ds

/-- Digits with a point before the last `places` of them. -/
def withPoint (places : Nat) (ds : List Char) : List Char :=
  if places = 0 then ds else ds.take (ds.length - places) ++ '.' :: ds.drop (ds.length - places)

/-- A number that is not finite. -/
def special (x : Float) : List Char :=
  if x.isNaN then "NaN".toList else if x < 0 then "-inf".toList else "inf".toList

/-- A minus sign where one is needed. -/
def sign (negative : Bool) : List Char := if negative then ['-'] else []

/-- A number with `places` digits after the point. -/
def fixed (places : Nat) (x : Float) : List Char :=
  match Binary.ofFloat? x with
  | none => special x
  | some b => sign b.negative ++
    withPoint places (digits (places + 1) (b.fraction.scale places).round)

/-- The first `count` digits of a positive fraction, rounded, and the power of ten at the first. -/
def leading (count : Nat) (f : Fraction) : Nat × Int :=
  let x := f.magnitude
  let n := (f.scale (count - 1 - x)).round
  if n = Nat.pow 10 count then (Nat.pow 10 (count - 1), x + 1) else (n, x)

/-- Digits after a point without zeros at the end, and without the point if none is left. -/
def trimFraction (s : List Char) : List Char :=
  if s.contains '.' then ((s.reverse.dropWhile fun c => c = '0').dropWhile fun c => c = '.').reverse else s

/-- An exponent with its sign and at least two digits. -/
def exponent (x : Int) : List Char :=
  'e' :: (if x < 0 then '-' else '+') :: digits 2 x.natAbs

/-- A number with `precision` significant digits, at least one. -/
def general (precision : Nat) (x : Float) : List Char :=
  match Binary.ofFloat? x with
  | none => special x
  | some b =>
    if b.mantissa = 0 then ['0']
    else
      let precision := max precision 1
      let (n, x) := leading precision b.fraction
      let body :=
        if x < -4 ∨ (precision : Int) ≤ x then
          trimFraction (withPoint (precision - 1) (digits precision n)) ++ exponent x
        else
          let places := ((precision : Int) - 1 - x).toNat
          trimFraction (withPoint places (digits (places + 1) (b.fraction.scale places).round))
      sign b.negative ++ body

/-- A time or a time per hit: one digit after the point, or three significant digits where that
does not fit into the column. -/
def amount (width : Nat) (x : Float) : List Char :=
  let plain := padLeft 5 (fixed 1 x)
  if width < plain.length then padLeft 5 (general 3 x) else plain

end LineClock.Report

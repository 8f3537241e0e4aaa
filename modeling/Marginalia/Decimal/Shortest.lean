import Marginalia.Decimal.Binary64
import Marginalia.Text.Basic

/-!
# Shortest decimals

The decimal of a binary number is the shortest one that reads back: of all decimals that round to
the number, one with the fewest digits, and of those the nearest to the number.

The decimals with `n` significant digits lie on a grid.  If a point of the grid rounds to the
number, then so does one of the two points next to the number, so `search` looks at no others.
`DecimalFormat` says how the digits are laid out.
-/

namespace Marginalia

namespace Binary64

/-- A decimal `digits * 10 ^ exponent`. -/
structure Decimal where
  /-- The digits, as a number. -/
  digits : Nat
  /-- The power of ten. -/
  exponent : Int
deriving DecidableEq, Repr

/-- The decimals that round to a number lie between two fractions with one denominator. -/
structure Interval where
  /-- The lower end. -/
  lower : Nat
  /-- The number itself. -/
  value : Nat
  /-- The upper end. -/
  upper : Nat
  /-- The common denominator. -/
  denominator : Nat
  /-- Whether the ends belong to it. -/
  closed : Bool

/-- The interval of the decimals that round to `m * 2 ^ e`. -/
def interval (m : Nat) (e : Int) : Interval :=
  let (up, down) := scale (e - 2)
  let below := if m = mantissas / 2 && leastExponent < e then 1 else 2
  ⟨(4 * m - below) * up, 4 * m * up, (4 * m + 2) * up, down, m % 2 == 0⟩

/-- Whether `n / d` lies in an interval. -/
def Interval.holds (i : Interval) (n d : Nat) : Bool :=
  let x := n * i.denominator
  if i.closed then i.lower * d ≤ x && x ≤ i.upper * d
  else i.lower * d < x && x < i.upper * d

/-- The number of digits in front of the decimal point of `n / d`, negative or zero if the first
digit stands behind it. -/
def pointPosition (n d : Nat) : Int :=
  if d ≤ n then (Nat.toDigits 10 (n / d)).length
  else
    let c := (d + n - 1) / n
    if c ≤ 1 then 1 else 1 - (Nat.toDigits 10 (c - 1)).length

/-- The decimal of an interval with `count` significant digits that is nearest to its value. -/
def Interval.nearest? (i : Interval) (count : Nat) : Option Decimal :=
  let p := pointPosition i.value i.denominator - count
  let up := Nat.pow 10 p.toNat
  let down := Nat.pow 10 (-p).toNat
  let n := i.value * down
  let d := i.denominator * up
  let q := n / d
  let r := n % d
  let lowerOk := i.holds (q * up) down
  let upperOk := i.holds ((q + 1) * up) down
  if lowerOk && (!upperOk || 2 * r < d || (2 * r == d && q % 2 == 0)) then some ⟨q, p⟩
  else if upperOk then some ⟨q + 1, p⟩
  else none

/-- The first hit among the grids with `count`, `count + 1`, … digits. -/
def Interval.search (i : Interval) : Nat → Nat → Decimal
  | 0, _ => ⟨0, 0⟩
  | fuel + 1, count => (i.nearest? count).getD (i.search fuel (count + 1))

/-- The shortest decimal that reads back as `m * 2 ^ e`. -/
def shortest (m : Nat) (e : Int) : Decimal :=
  if m = 0 then ⟨0, 0⟩ else (interval m e).search 17 1

end Binary64

/-! ## Layout -/

/-- How the digits of a decimal are laid out. -/
structure DecimalFormat where
  /-- The least exponent of the first digit that is written without an exponent. -/
  leastPositional : Int
  /-- The least exponent above it that is written with one. -/
  leastScientific : Int
  /-- The least number of digits of an exponent. -/
  exponentDigits : Nat
  /-- The text of infinity. -/
  infinity : Text
  /-- The text of what is no number. -/
  notANumber : Text

namespace DecimalFormat

/-- The digits with a point after the first `whole` of them and at least one digit on each side. -/
def positional (digits : Text) (whole : Int) : Text :=
  if whole ≤ 0 then "0.".toList ++ List.replicate (-whole).toNat '0' ++ digits
  else
    let n := whole.toNat
    if digits.length ≤ n then digits ++ List.replicate (n - digits.length) '0' ++ ".0".toList
    else digits.take n ++ ['.'] ++ digits.drop n

/-- The digits with a point after the first of them, and an exponent. -/
def scientific (f : DecimalFormat) (digits : Text) (exponent : Int) : Text :=
  let fraction := digits.drop 1
  let sign := if exponent < 0 then '-' else '+'
  digits.take 1 ++ (if fraction.isEmpty then [] else '.' :: fraction)
    ++ ['e', sign] ++ Text.ofNatPadded f.exponentDigits exponent.natAbs

/-- The text of a number. -/
def render (f : DecimalFormat) : Binary64 → Text
  | .notANumber => f.notANumber
  | .infinite negative => if negative then '-' :: f.infinity else f.infinity
  | .finite negative m e =>
    let d := Binary64.shortest m e
    let all := Text.ofNat d.digits
    let digits := Text.dropEndWhile (· == '0') all
    let digits := if digits.isEmpty then ['0'] else digits
    let exponent := if m = 0 then 0 else (all.length : Int) + d.exponent - 1
    let body :=
      if f.leastPositional ≤ exponent && exponent < f.leastScientific then
        positional digits (exponent + 1)
      else f.scientific digits exponent
    if negative then '-' :: body else body

end DecimalFormat

end Marginalia

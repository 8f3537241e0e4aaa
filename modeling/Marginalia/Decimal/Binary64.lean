/-!
# Binary floating-point numbers

A number of the 64-bit binary format is kept as what it stands for: a sign, a mantissa below
`2 ^ 53` and a power of two.  All arithmetic on it is exact arithmetic on natural numbers.

`ofDecimal` rounds a decimal to the nearest such number, and a decimal halfway between two of them
to the one with the even mantissa.
-/

namespace Marginalia

/-- A number of the 64-bit binary format. -/
inductive Binary64 where
  /-- The number `± mantissa * 2 ^ exponent`. -/
  | finite (negative : Bool) (mantissa : Nat) (exponent : Int)
  /-- An infinity. -/
  | infinite (negative : Bool)
  /-- No number. -/
  | notANumber
deriving DecidableEq, Repr

namespace Binary64

/-- The exponent of the least positive number. -/
def leastExponent : Int := -1074

/-- The exponent of the greatest number. -/
def greatestExponent : Int := 971

/-- The number of mantissas: each is less than this power of two. -/
def mantissas : Nat := Nat.pow 2 53

/-- A power of two, as numerator and denominator. -/
def scale (e : Int) : Nat × Nat :=
  (Nat.pow 2 e.toNat, Nat.pow 2 (-e).toNat)

/-- The natural number nearest to `n / d`, the even one of two that are equally near. -/
def divRound (n d : Nat) : Nat :=
  let q := n / d
  let r := n % d
  if 2 * r < d then q else if d < 2 * r then q + 1 else q + q % 2

/-- The exponent to which the positive number `n / d` is rounded: the mantissa then has 53 binary
digits, or fewer if the exponent is the least one. -/
def roundingExponent (n d : Nat) : Int :=
  let e := max ((n.log2 : Int) - d.log2 - 53) leastExponent
  let (up, down) := scale e
  if mantissas ≤ n * down / (d * up) then e + 1 else e

/-- The number nearest to `± n / d`. -/
def ofRatio (negative : Bool) (n d : Nat) : Binary64 :=
  if n = 0 then .finite negative 0 leastExponent
  else
    let e := roundingExponent n d
    let (up, down) := scale e
    let m := divRound (n * down) (d * up)
    let (m, e) := if m = mantissas then (mantissas / 2, e + 1) else (m, e)
    if greatestExponent < e then .infinite negative else .finite negative m e

/-- The number nearest to `± digits * 10 ^ exponent`.  A decimal far outside the range of the
format is not computed. -/
def ofDecimal (negative : Bool) (digits : Nat) (exponent : Int) : Binary64 :=
  let magnitude : Int := (Nat.toDigits 10 digits).length + exponent
  if digits = 0 || magnitude < -330 then .finite negative 0 leastExponent
  else if 330 < magnitude then .infinite negative
  else ofRatio negative (digits * Nat.pow 10 exponent.toNat) (Nat.pow 10 (-exponent).toNat)

/-- Whether a number has no fractional part. -/
def isIntegral : Binary64 → Bool
  | .finite _ m e => m % (scale e).2 == 0
  | _ => false

/-- The whole part of a finite number, toward zero. -/
def truncate : Binary64 → Int
  | .finite negative m e =>
    let (up, down) := scale e
    let n : Int := m * up / down
    if negative then -n else n
  | _ => 0

/-- Whether a number is less than the integer `k`. -/
def ltInt (k : Int) : Binary64 → Bool
  | .finite negative m e =>
    let (up, down) := scale e
    let n : Int := m * up
    (if negative then -n else n) < k * down
  | .infinite negative => negative
  | .notANumber => false

/-- Whether a number is at least the integer `k`. -/
def geInt (k : Int) : Binary64 → Bool
  | .notANumber => false
  | x => !ltInt k x

/-- Whether a number is greater than the integer `k`. -/
def gtInt (k : Int) : Binary64 → Bool
  | .finite negative m e =>
    let (up, down) := scale e
    let n : Int := m * up
    k * down < (if negative then -n else n)
  | .infinite negative => !negative
  | .notANumber => false

/-- Whether a number is the integer `k`. -/
def eqInt (k : Int) (x : Binary64) : Bool :=
  x.geInt k && !x.gtInt k

/-- Whether a number is at most another one. -/
def le : Binary64 → Binary64 → Bool
  | .notANumber, _ | _, .notANumber => false
  | .infinite true, _ | _, .infinite false => true
  | .infinite false, _ | _, .infinite true => false
  | .finite negative m e, .finite negative' m' e' =>
    let (up, down) := scale e
    let (up', down') := scale e'
    let n : Int := m * up * down'
    let n' : Int := m' * up' * down
    (if negative then -n else n) ≤ (if negative' then -n' else n')

/-- The number nearest to the sum of a number and the integer `k`. -/
def addInt (k : Int) : Binary64 → Binary64
  | .finite negative m e =>
    let (up, down) := scale e
    let n : Int := m * up
    let sum := (if negative then -n else n) + k * down
    if k = 0 then .finite negative m e else ofRatio (decide (sum < 0)) sum.natAbs down
  | x => x

/-- Whether a number is zero. -/
def isZero : Binary64 → Bool
  | .finite _ m _ => m == 0
  | _ => false

example : le (ofDecimal true 5 (-1)) (ofDecimal false 1 300) := by decide +kernel
example : ((ofDecimal false 1 (-1)).addInt 1).addInt (-1)
    = .finite false 7205759403792800 (-56) := by
  decide +kernel
example : ofDecimal false 1 (-1) = .finite false 7205759403792794 (-56) := by decide +kernel
example : ofDecimal false 5 (-324) = .finite false 1 (-1074) := by decide +kernel
example : ofDecimal false 17976931348623158 292 = .finite false (mantissas - 1) 971 := by
  decide +kernel
example : ofDecimal false 17976931348623159 292 = .infinite false := by decide +kernel

end Binary64

end Marginalia

import Marginalia.Toml.Scan
import Marginalia.Value

/-!
# Numbers and moments of settings files

A value that starts with a digit or a sign is a date or a time if it has that shape, and otherwise
a number.  Only the longest start of the text that has the shape is read; what follows it is for
the statement to accept or refuse.
-/

namespace Marginalia.Toml

open Text (isAsciiDigit isHexDigit digitRun? valueIn sign)

/-! ## Numbers -/

/-- A whole number in base sixteen, eight or two. -/
def radixNumber? (s : Text) : Option (Value × Text) :=
  let read (p : Char → Bool) (base : Nat) (s : Text) : Option (Value × Text) :=
    (digitRun? p s).map fun (digits, rest) => (.integer (valueIn base digits), rest)
  match s with
  | '0' :: 'x' :: s => read isHexDigit 16 s
  | '0' :: 'o' :: s => read (fun c => '0' ≤ c && c ≤ '7') 8 s
  | '0' :: 'b' :: s => read (fun c => c = '0' || c = '1') 2 s
  | _ => none

/-- The whole part of a number: a zero, or digits that start with none. -/
def wholePart? : Text → Option (Text × Text)
  | '0' :: s => some (['0'], s)
  | s => digitRun? isAsciiDigit s

/-- The digits behind the point. -/
def fractionPart? : Text → Option (Text × Text)
  | '.' :: s => digitRun? isAsciiDigit s
  | _ => none

/-- The power of ten behind the letter that announces it. -/
def exponentPart? : Text → Option (Int × Text)
  | c :: s =>
    if c = 'e' || c = 'E' then
      let (negative, s) := sign s
      (digitRun? isAsciiDigit s).map fun (digits, rest) =>
        let n : Int := valueIn 10 digits
        (if negative then -n else n, rest)
    else none
  | [] => none

/-- A number in base ten. -/
def decimalNumber? (s : Text) : Option (Except Refusal (Value × Text)) := do
  let (negative, afterSign) := sign s
  let (whole, afterWhole) ← wholePart? afterSign
  let fraction := fractionPart? afterWhole
  let (fractionDigits, afterFraction) := fraction.getD ([], afterWhole)
  let exponent := exponentPart? afterFraction
  let (power, rest) := exponent.getD (0, afterFraction)
  if fraction.isNone && exponent.isNone then
    if Text.digitLimit < whole.length then some (.error .tooManyDigits)
    else
      let n : Int := valueIn 10 whole
      some (.ok (.integer (if negative then -n else n), rest))
  else
    let digits := valueIn 10 (whole ++ fractionDigits)
    some (.ok (.number (.ofDecimal negative digits (power - fractionDigits.length)), rest))

/-- A floating-point number that has no digits. -/
def specialNumber? (s : Text) : Option (Value × Text) :=
  let (negative, afterSign) := sign s
  match afterSign with
  | 'i' :: 'n' :: 'f' :: rest => some (.number (.infinite negative), rest)
  | 'n' :: 'a' :: 'n' :: rest => some (.number .notANumber, rest)
  | _ => none

/-! ## Moments -/

/-- A number of exactly `count` digits. -/
def fixedDigits? (count : Nat) (s : Text) : Option (Nat × Text) :=
  let digits := s.take count
  if digits.length = count && digits.all isAsciiDigit then some (valueIn 10 digits, s.drop count)
  else none

/-- The text behind a character. -/
def expect? (c : Char) : Text → Option Text
  | d :: s => if c = d then some s else none
  | [] => none

/-- A number of two digits up to `greatest`. -/
def twoDigits? (greatest : Nat) (s : Text) : Option (Nat × Text) := do
  let (n, rest) ← fixedDigits? 2 s
  if n ≤ greatest then some (n, rest) else none

/-- A date, which need not be a day of the calendar. -/
def date? (s : Text) : Option (Date × Text) := do
  let (year, s) ← fixedDigits? 4 s
  let s ← expect? '-' s
  let (month, s) ← twoDigits? 12 s
  let s ← expect? '-' s
  let (day, s) ← twoDigits? 31 s
  if month = 0 || day = 0 then none else some (⟨year, month, day⟩, s)

/-- The digits behind the point of a second.  Digits after the sixth are dropped. -/
def fractionOfSecond (s : Text) : Nat × Text :=
  match s with
  | '.' :: rest =>
    let digits := rest.takeWhile isAsciiDigit
    if digits.isEmpty then (0, s)
    else
      let kept := digits.take 6
      (valueIn 10 kept * Nat.pow 10 (6 - kept.length), rest.drop digits.length)
  | s => (0, s)

/-- A time of day. -/
def clock? (s : Text) : Option (Clock × Text) := do
  let (hour, s) ← twoDigits? 23 s
  let s ← expect? ':' s
  let (minute, s) ← twoDigits? 59 s
  let s ← expect? ':' s
  let (second, s) ← twoDigits? 59 s
  let (micro, s) := fractionOfSecond s
  some (⟨hour, minute, second, micro⟩, s)

/-- The distance from universal time, in minutes. -/
def offset? (s : Text) : Option (Int × Text) :=
  match s with
  | 'Z' :: s | 'z' :: s => some (0, s)
  | c :: s =>
    if c = '+' || c = '-' then do
      let (hours, s) ← twoDigits? 23 s
      let s ← expect? ':' s
      let (minutes, s) ← twoDigits? 59 s
      let n : Int := 60 * hours + minutes
      some (if c = '-' then -n else n, s)
    else none
  | [] => none

/-- The time of day that follows a date. -/
def clockAfterDate? : Text → Option (Clock × Text)
  | 'T' :: s | 't' :: s | ' ' :: s => clock? s
  | _ => none

/-- A date, a time of day or both.  A date that is no day of the calendar is refused. -/
def moment? (s : Text) : Option (Except Refusal (Value × Text)) :=
  match date? s with
  | some (d, afterDate) =>
    if !d.isValid then some fail
    else
      match clockAfterDate? afterDate with
      | none => some (.ok (.moment (.date d), afterDate))
      | some (c, afterClock) =>
        match offset? afterClock with
        | none => some (.ok (.moment (.dateTime d c none), afterClock))
        | some (o, rest) => some (.ok (.moment (.dateTime d c (some o)), rest))
  | none => (clock? s).map fun (c, rest) => .ok (.moment (.clock c), rest)

/-! ## Values without parts -/

/-- The value at the start of a text, other than a string, a list or a table. -/
def scalar (s : Text) : Except Refusal (Value × Text) :=
  match Text.after? "true".toList s with
  | some rest => .ok (.boolean true, rest)
  | none =>
    match Text.after? "false".toList s with
    | some rest => .ok (.boolean false, rest)
    | none =>
      match moment? s with
      | some read => read
      | none =>
        match radixNumber? s with
        | some read => .ok read
        | none =>
          match decimalNumber? s with
          | some read => read
          | none =>
            match specialNumber? s with
            | some read => .ok read
            | none => fail

end Marginalia.Toml

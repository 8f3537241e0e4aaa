import Marginalia.Text.Blank
import Marginalia.Text.Digit

/-!
# Numerals

Whole numbers written in digits of a kind, with an underscore allowed between each two digits, and a
sign in front.  A reader takes the longest start of the text that is a numeral and returns the text
behind it.

`integer?` reads a text that is a numeral as a whole, in the digits of any script, with white space
around it.
-/

namespace Marginalia.Text

/-! ## Digits -/

/-- Whether a character is a digit of the ASCII range. -/
def isAsciiDigit (c : Char) : Bool :=
  '0' ≤ c && c ≤ '9'

/-- Whether a character is a digit in base sixteen. -/
def isHexDigit (c : Char) : Bool :=
  isAsciiDigit c || ('a' ≤ c && c ≤ 'f') || ('A' ≤ c && c ≤ 'F')

/-- The value of a digit in base sixteen. -/
def hexValue (c : Char) : Nat :=
  if isAsciiDigit c then c.toNat - '0'.toNat
  else if 'a' ≤ c then c.toNat - 'a'.toNat + 10
  else c.toNat - 'A'.toNat + 10

/-! ## Runs of digits -/

/-- The digits at the start of a text that goes on in a run of digits, each two of which may have
an underscore between them. -/
def moreDigits (p : Char → Bool) : Text → Text × Text
  | '_' :: c :: s =>
    if p c then
      let (digits, rest) := moreDigits p s
      (c :: digits, rest)
    else ([], '_' :: c :: s)
  | c :: s =>
    if p c then
      let (digits, rest) := moreDigits p s
      (c :: digits, rest)
    else ([], c :: s)
  | [] => ([], [])

/-- A run of digits, without its underscores. -/
def digitRun? (p : Char → Bool) : Text → Option (Text × Text)
  | c :: s =>
    if p c then
      let (digits, rest) := moreDigits p s
      some (c :: digits, rest)
    else none
  | [] => none

/-- The number that digits write in a base. -/
def valueIn (base : Nat) (digits : Text) : Nat :=
  digits.foldl (fun n c => base * n + hexValue c) 0

/-- The sign at the start of a text. -/
def sign : Text → Bool × Text
  | '-' :: s => (true, s)
  | '+' :: s => (false, s)
  | s => (false, s)

/-- The whole number that a text writes, in the digits of any script and between white space. -/
def integer? (s : Text) : Option Int :=
  let (negative, s) := sign (stripSpace s)
  match digitRun? isDigit s with
  | some (digits, []) =>
    (readNumber? digits).map fun value : Nat => if negative then -(value : Int) else value
  | _ => none

example : digitRun? isAsciiDigit "1_02_a".toList = some ("102".toList, "_a".toList) := by decide
example : digitRun? isAsciiDigit "1__2".toList = some (['1'], "__2".toList) := by decide
example : digitRun? isHexDigit "fF-".toList = some ("fF".toList, ['-']) := by decide
example : valueIn 16 "fF".toList = 255 := by decide
example : integer? "\u3000+\u0662_0\n".toList = some 20 := by decide
example : integer? "-7".toList = some (-7) := by decide
example : ["2.0", "0__2", "+ 2", "_2", ""].map (fun s => integer? s.toList)
    = List.replicate 5 none := by decide

end Marginalia.Text

import Marginalia.Text.Basic

/-!
# Decimal digits

The decimal digits of all scripts: the category `Nd` of version 14 of the Unicode standard, which
encodes the ten digits of a script in a row from zero to nine, so `zeros` lists only the code
points of the zeros.

A number may be written in the digits of any script, also of several.  A number of more than
`digitLimit` digits is refused by every reader of this library, since the time to convert it grows
with the square of its length.
-/

namespace Marginalia.Text

/-- The code point of the zero of each script. -/
def zeros : List Nat :=
  [0x30, 0x660, 0x6F0, 0x7C0, 0x966, 0x9E6, 0xA66, 0xAE6, 0xB66, 0xBE6, 0xC66, 0xCE6, 0xD66, 0xDE6,
   0xE50, 0xED0, 0xF20, 0x1040, 0x1090, 0x17E0, 0x1810, 0x1946, 0x19D0, 0x1A80, 0x1A90, 0x1B50,
   0x1BB0, 0x1C40, 0x1C50, 0xA620, 0xA8D0, 0xA900, 0xA9D0, 0xA9F0, 0xAA50, 0xABF0, 0xFF10, 0x104A0,
   0x10D30, 0x11066, 0x110F0, 0x11136, 0x111D0, 0x112F0, 0x11450, 0x114D0, 0x11650, 0x116C0,
   0x11730, 0x118E0, 0x11950, 0x11C50, 0x11D50, 0x11DA0, 0x16A60, 0x16AC0, 0x16B50, 0x1D7CE,
   0x1D7D8, 0x1D7E2, 0x1D7EC, 0x1D7F6, 0x1E140, 0x1E2F0, 0x1E950, 0x1FBF0]

/-- The value of a decimal digit. -/
def digitValue? (c : Char) : Option Nat :=
  (zeros.find? fun z => z ≤ c.toNat && c.toNat < z + 10).map (c.toNat - ·)

/-- Whether a character is a decimal digit. -/
def isDigit (c : Char) : Bool :=
  (digitValue? c).isSome

/-- The number that the digits of a text write; characters that are no digits count as zero. -/
def digitsValue (s : Text) : Nat :=
  s.foldl (fun n c => 10 * n + (digitValue? c).getD 0) 0

/-- The most digits a number may have. -/
def digitLimit : Nat := 4300

/-- The number that a run of digits writes, unless the run is too long. -/
def readNumber? (digits : Text) : Option Nat :=
  if digits.length ≤ digitLimit then some (digitsValue digits) else none

example : zeros.length = 66 := by decide
example : digitsValue "0402".toList = 402 := by decide
example : digitsValue ['\u0661', '7', '\uFF13'] = 173 := by decide
example : isDigit '²' = false := by decide

end Marginalia.Text

import Marginalia.Console.Color.Names
import Marginalia.Decimal.Binary64
import Marginalia.Text.Blank
import Marginalia.Text.Digit
import Marginalia.Text.Lower
import Marginalia.Text.Numeral

/-!
# Colours

A colour is written as a name, as the number of one of the 256 colours of a terminal, or as its
shares of red, green and blue.  The terminal has no more than 256 colours, so a mixed colour is
drawn as one that is near it: a colour of little saturation as one of 26 greys, and any other one as
a colour of a cube with six steps of red, green and blue.
-/

namespace Marginalia.Console

/-- What a colour is drawn as. -/
inductive Shade where
  /-- The colour that the terminal draws with if it is told nothing. -/
  | usual
  /-- One of the 256 colours of the terminal. -/
  | numbered (n : Nat)
  /-- A mixture of red, green and blue, 255 parts of each at most. -/
  | mixed (red green blue : Nat)
deriving DecidableEq, Repr

/-- A colour and what it is called. -/
structure Color where
  /-- What it is called. -/
  name : Text
  /-- What it is drawn as. -/
  shade : Shade
deriving DecidableEq, Repr

/-! ## Drawing -/

namespace Shade

/-- The natural number nearest to `n / d`, the even one of two that are equally near. -/
abbrev nearest (n d : Nat) : Nat :=
  Binary64.divRound n d

/-- Whether a mixture is drawn as a grey: its saturation is less than 15 percent. -/
def isGrey (red green blue : Nat) : Bool :=
  let least := (min red (min green blue)).toFloat / 255
  let most := (max red (max green blue)).toFloat / 255
  if least == most then true
  else if (most + least) / 2 ≤ 0.5 then decide ((most - least) / (most + least) < 0.15)
  else decide ((most - least) / (2 - most - least) < 0.15)

/-- The grey of a mixture, as one of the 256 colours. -/
def grey (red green blue : Nat) : Nat :=
  match nearest (25 * (max red (max green blue) + min red (min green blue))) 510 with
  | 0 => 16
  | 25 => 231
  | n => 231 + n

/-- The step of a share in the cube of colours. -/
def step (share : Nat) : Nat :=
  if share < 95 then nearest share 95 else nearest (share - 55) 40

/-- The number of the colour that a shade is drawn in, if it is not the usual one. -/
def number? : Shade → Option Nat
  | .usual => none
  | .numbered n => some n
  | .mixed red green blue =>
    some (if isGrey red green blue then grey red green blue
      else 16 + 36 * step red + 6 * step green + step blue)

/-- What a colour number adds to the code of the colour of a text, or of what is behind it. -/
def base (front : Bool) : Nat :=
  if front then 30 else 40

/-- The code that has a shade drawn. -/
def code (front : Bool) (s : Shade) : Text :=
  match s, s.number? with
  | .numbered n, _ =>
    if n < 8 then Text.ofNat (base front + n)
    else if n < 16 then Text.ofNat (base front + 52 + n)
    else Text.ofNat (base front + 8) ++ ";5;".toList ++ Text.ofNat n
  | _, some n => Text.ofNat (base front + 8) ++ ";5;".toList ++ Text.ofNat n
  | _, none => Text.ofNat (base front + 9)

end Shade

/-! ## Reading -/

namespace Color

/-- Why a text is no colour. -/
inductive Refusal where
  /-- Nothing is called so. -/
  | unknown
  /-- A share is not written at all. -/
  | noNumber
  /-- A share has too many digits. -/
  | tooManyDigits
deriving DecidableEq, Repr

/-- What stands in brackets behind a word. -/
def inBrackets? (word s : Text) : Option Text :=
  match Text.after? (word ++ ['(']) s with
  | some rest => if rest.getLast? = some ')' then some rest.dropLast else none
  | none => none

/-- The shade that six digits in base sixteen write. -/
def ofHex? (digits : Text) : Option Shade :=
  if digits.length = 6 && digits.all Text.isHexDigit then
    let share (k : Nat) := Text.valueIn 16 ((digits.drop k).take 2)
    some (.mixed (share 0) (share 2) (share 4))
  else none

/-- The shade of a number of the terminal. -/
def ofNumber? (digits : Text) : Option Shade :=
  if !digits.isEmpty && digits.length ≤ 3 && digits.all Text.isAsciiDigit then
    let n := Text.valueIn 10 digits
    if n ≤ 255 then some (.numbered n) else none
  else none

/-- The number that a share of a mixture writes. -/
def share (digits : Text) : Except Refusal Nat :=
  if digits.isEmpty then .error .noNumber
  else
    match Text.readNumber? digits with
    | some n => .ok n
    | none => .error .tooManyDigits

/-- The shade that three numbers with commas between them write. -/
def ofShares (s : Text) : Except Refusal Shade := do
  if s.isEmpty || !s.all (fun c => Text.isDigit c || c == ',') then .error .unknown
  else
    match s.splitOn ',' with
    | [red, green, blue] =>
      let red ← share red
      let green ← share green
      let blue ← share blue
      if red ≤ 255 && green ≤ 255 && blue ≤ 255 then .ok (.mixed red green blue)
      else .error .unknown
    | _ => .error .unknown

/-- The shade that a word in small letters without blanks stands for. -/
def shadeOf (word : Text) : Except Refusal Shade :=
  if word = "default".toList then .ok .usual
  else
    match colorNames.lookup (String.ofList word) with
    | some n => .ok (.numbered n)
    | none =>
      match word with
      | '#' :: digits => (ofHex? digits).elim (.error .unknown) .ok
      | _ =>
        match inBrackets? "color".toList word, inBrackets? "rgb".toList word with
        | some digits, _ => (ofNumber? digits).elim (.error .unknown) .ok
        | none, some shares => ofShares shares
        | none, none => .error .unknown

/-- The colour that a word without blanks stands for. -/
def ofWord (word : Text) : Except Refusal Color := do
  let name := Text.lower word
  .ok ⟨name, ← shadeOf name⟩

end Color

example : (Shade.mixed 255 0 0).code true = "38;5;196".toList := by decide +kernel
example : (Shade.numbered 10).code true = "92".toList := by decide +kernel
example : Shade.usual.code false = "49".toList := by decide +kernel
example : (Color.shadeOf "rgb(1,2,3)".toList).toOption = some (.mixed 1 2 3) := by decide +kernel
example : (Color.shadeOf "rgb(1,,3)".toList).toOption = none := by decide +kernel
example : (Color.shadeOf "color(256)".toList).toOption = none := by decide +kernel

end Marginalia.Console

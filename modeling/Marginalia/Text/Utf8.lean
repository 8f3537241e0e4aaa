import Marginalia.Text.Basic

/-!
# UTF-8

A byte string is cut into *items*: a well-formed character, or a malformed run of bytes with the
reason why it is malformed.  `scan` makes the cut.  A malformed run is the longest start of a
character that the bytes could still have continued, so what follows it is read afresh.

* `decode` accepts a byte string exactly if all its items are characters, and reports the position
  of the first that is not.
* `decodeLossy` accepts every byte string and puts U+FFFD in the place of each malformed run.
-/

namespace Marginalia.Utf8

/-- Why a run of bytes is no character. -/
inductive Reason where
  /-- The first byte starts no character. -/
  | invalidStart
  /-- A byte that ought to continue the character does not. -/
  | invalidContinuation
  /-- The bytes end inside the character. -/
  | unexpectedEnd
deriving DecidableEq, Repr

/-- What stands at one place of a byte string. -/
inductive Item where
  /-- A character that takes `size` bytes. -/
  | char (c : Char) (size : Nat)
  /-- A malformed run of `size` bytes. -/
  | malformed (reason : Reason) (size : Nat)
deriving DecidableEq, Repr

/-- The number of bytes an item takes. -/
def Item.size : Item → Nat
  | .char _ n => n
  | .malformed _ n => n

/-- Whether a byte continues a character. -/
def isContinuation (b : UInt8) : Bool :=
  0x80 ≤ b && b ≤ 0xBF

/-- The six low bits of a byte. -/
def low6 (b : UInt8) : Nat :=
  b.toNat % 64

/-- Whether `b` may follow `lead`: the ranges leave out overlong forms, surrogates and all that
lies above U+10FFFF. -/
def secondOk (lead b : UInt8) : Bool :=
  isContinuation b &&
    (if lead == 0xE0 then 0xA0 ≤ b
     else if lead == 0xED then b ≤ 0x9F
     else if lead == 0xF0 then 0x90 ≤ b
     else if lead == 0xF4 then b ≤ 0x8F
     else true)

/-- The item at the start of the byte string `lead :: rest`. -/
def firstItem (lead : UInt8) (rest : List UInt8) : Item :=
  let n := lead.toNat
  if n < 0x80 then .char (Char.ofNat n) 1
  else if n < 0xC2 then .malformed .invalidStart 1
  else if n < 0xE0 then
    match rest with
    | [] => .malformed .unexpectedEnd 1
    | b :: _ =>
      if isContinuation b then .char (Char.ofNat ((n - 0xC0) * 64 + low6 b)) 2
      else .malformed .invalidContinuation 1
  else if n < 0xF0 then
    match rest with
    | [] => .malformed .unexpectedEnd 1
    | [b] =>
      if secondOk lead b then .malformed .unexpectedEnd 2
      else .malformed .invalidContinuation 1
    | b :: b' :: _ =>
      if !secondOk lead b then .malformed .invalidContinuation 1
      else if !isContinuation b' then .malformed .invalidContinuation 2
      else .char (Char.ofNat (((n - 0xE0) * 64 + low6 b) * 64 + low6 b')) 3
  else if n < 0xF5 then
    match rest with
    | [] => .malformed .unexpectedEnd 1
    | [b] =>
      if secondOk lead b then .malformed .unexpectedEnd 2
      else .malformed .invalidContinuation 1
    | [b, b'] =>
      if !secondOk lead b then .malformed .invalidContinuation 1
      else if !isContinuation b' then .malformed .invalidContinuation 2
      else .malformed .unexpectedEnd 3
    | b :: b' :: b'' :: _ =>
      if !secondOk lead b then .malformed .invalidContinuation 1
      else if !isContinuation b' then .malformed .invalidContinuation 2
      else if !isContinuation b'' then .malformed .invalidContinuation 3
      else .char (Char.ofNat ((((n - 0xF0) * 64 + low6 b) * 64 + low6 b') * 64 + low6 b'')) 4
  else .malformed .invalidStart 1

/-- The items of a byte string. -/
def scan : List UInt8 → List Item
  | [] => []
  | lead :: rest =>
    let item := firstItem lead rest
    item :: scan (rest.drop (item.size - 1))
termination_by bytes => bytes.length

/-- The first malformed run of a byte string: where it starts, how long it is, its first byte and
what is wrong with it. -/
structure Refusal where
  /-- The number of bytes in front of the run. -/
  position : Nat
  /-- The number of bytes of the run. -/
  size : Nat
  /-- The first byte of the run. -/
  byte : UInt8
  /-- What is wrong with it. -/
  reason : Reason
deriving DecidableEq, Repr

/-- The characters of a list of items that starts at `position`, or the first malformed run. -/
def readItems (bytes : List UInt8) (position : Nat) : List Item → Except Refusal Text
  | [] => .ok []
  | .char c n :: items => (readItems bytes (position + n) items).map (c :: ·)
  | .malformed reason n :: _ => .error ⟨position, n, bytes.getD position 0, reason⟩

/-- The text that a byte string encodes. -/
def decode (bytes : List UInt8) : Except Refusal Text :=
  readItems bytes 0 (scan bytes)

/-- The text of a byte string, with U+FFFD for each malformed run. -/
def decodeLossy (bytes : List UInt8) : Text :=
  (scan bytes).map fun
    | .char c _ => c
    | .malformed _ _ => '\uFFFD'

/-- The bytes of a text. -/
def encode (s : Text) : List UInt8 :=
  s.flatMap String.utf8EncodeChar

/-! ## The text of a refusal -/

/-- What is wrong, in words. -/
def Reason.describe : Reason → Text
  | .invalidStart => "invalid start byte".toList
  | .invalidContinuation => "invalid continuation byte".toList
  | .unexpectedEnd => "unexpected end of data".toList

/-- A digit of a number in base sixteen. -/
def hexDigit (n : Nat) : Char :=
  Nat.digitChar (n % 16)

/-- What is wrong with a byte string, in words. -/
def Refusal.message (r : Refusal) : Text :=
  let place : Text :=
    if r.size = 1 then
      "byte 0x".toList ++ [hexDigit (r.byte.toNat / 16), hexDigit r.byte.toNat]
        ++ " in position ".toList ++ Text.ofNat r.position
    else
      "bytes in position ".toList ++ Text.ofNat r.position ++ ['-']
        ++ Text.ofNat (r.position + r.size - 1)
  "'utf-8' codec can't decode ".toList ++ place ++ ": ".toList ++ r.reason.describe

example : firstItem 0xE2 [0x82] = .malformed .unexpectedEnd 2 := by decide
example : firstItem 0xED [0xA0, 0x80] = .malformed .invalidContinuation 1 := by decide
example : firstItem 0xF0 [0x9F, 0x98, 0x80] = .char '😀' 4 := by decide

end Marginalia.Utf8

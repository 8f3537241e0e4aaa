import Marginalia.Value

/-!
# Positions

A host says where in a text something is to happen.  A position counts the characters in front of a
place, and it is a whole number as a rule.  A truth value counts as one or as zero.  A
floating-point number is compared like every other number, but it counts no characters; what is no
number is not even compared.

An anchor is a position that lies within a text, and that edits of the text move.  `moveRight_whole`
and `moveLeft_whole` say that anchors at whole positions move as `shiftRight` and `shiftLeft` say.
-/

namespace Marginalia

/-- A position as a host gives it. -/
inductive Position where
  /-- A whole number. -/
  | whole (n : Int)
  /-- A truth value. -/
  | truth (b : Bool)
  /-- A floating-point number. -/
  | real (x : Binary64)
  /-- Something else, which is written so. -/
  | other (written : Text)
deriving DecidableEq, Repr

namespace Position

/-- The position that a value stands for. -/
def ofValue : Value → Position
  | .integer n => .whole n
  | .boolean b => .truth b
  | .number x => .real x
  | v => .other v.display

/-- A position as it is written. -/
def toText : Position → Text
  | .whole n => Text.ofInt n
  | .truth b => (Value.boolean b).display
  | .real x => (Value.number x).display
  | .other written => written

/-- The number of characters that a position counts, if it counts any. -/
def count? : Position → Option Int
  | .whole n => some n
  | .truth b => some (if b then 1 else 0)
  | .real _ | .other _ => none

/-- The number that a position is, if it is one.  A whole number is not rounded. -/
def number? : Position → Option Binary64
  | .real x => some x
  | p => p.count?.map fun n => .finite (decide (n < 0)) n.natAbs 0

/-- Whether a position is at most another one, if they can be compared. -/
def le? : Position → Position → Option Bool
  | .whole m, .whole n => some (decide (m ≤ n))
  | p, q => do some ((← p.number?).le (← q.number?))

/-- Whether each of several positions is at most the next one.  The first two that are not decide;
it stays open if two positions in front of them cannot be compared. -/
def ascending? : List Position → Option Bool
  | p :: q :: rest => do if ← p.le? q then ascending? (q :: rest) else some false
  | _ => some true

@[simp] theorem ascending?_one (p : Position) : ascending? [p] = some true := rfl

@[simp] theorem ascending?_whole (m n : Int) (rest : List Position) :
    ascending? (.whole m :: .whole n :: rest)
      = if m ≤ n then ascending? (.whole n :: rest) else some false := by
  by_cases h : m ≤ n <;> simp [ascending?, le?, h]

end Position

/-! ## Anchors -/

/-- Where a whole position goes when `length` characters are inserted at `offset`. -/
def shiftRight (offset length position : Nat) : Nat :=
  if offset < position then position + length else position

/-- Where a whole position goes when the characters from `start` to `stop` are deleted. -/
def shiftLeft (start stop position : Nat) : Nat :=
  if stop ≤ position then position - (stop - start)
  else if start < position then start
  else position

/-- A position within a text. -/
inductive Anchor where
  /-- A whole number. -/
  | whole (n : Nat)
  /-- A truth value. -/
  | truth (b : Bool)
  /-- A floating-point number. -/
  | real (x : Binary64)
deriving DecidableEq, Repr

namespace Anchor

/-- The anchor at a position that is not negative, if it is a number. -/
def ofPosition? : Position → Option Anchor
  | .whole n => some (.whole n.toNat)
  | .truth b => some (.truth b)
  | .real x => some (.real x)
  | .other _ => none

/-- Whether an anchor lies behind so many characters. -/
def isAt (n : Nat) : Anchor → Bool
  | .whole m => m == n
  | .truth b => b.toNat == n
  | .real x => x.eqInt n

/-- Where an anchor goes when `length` characters are inserted at `offset`. -/
def moveRight (offset length : Nat) : Anchor → Anchor
  | .whole n => .whole (shiftRight offset length n)
  | .truth b => if offset < b.toNat then .whole (b.toNat + length) else .truth b
  | .real x => .real (if x.gtInt offset then x.addInt length else x)

/-- Where an anchor goes when the characters from `start` to `stop` are deleted, given the anchor at
`start`. -/
def moveLeft (landing : Anchor) (start stop : Nat) : Anchor → Anchor
  | .whole n =>
    if stop ≤ n then .whole (n - (stop - start)) else if start < n then landing else .whole n
  | .truth b =>
    if stop ≤ b.toNat then .whole (b.toNat - (stop - start))
    else if start < b.toNat then landing
    else .truth b
  | .real x =>
    if x.geInt stop then .real (x.addInt (-(stop - start : Nat)))
    else if x.gtInt start then landing
    else .real x

@[simp] theorem moveRight_whole (offset length n : Nat) :
    moveRight offset length (.whole n) = .whole (shiftRight offset length n) := rfl

@[simp] theorem moveLeft_whole (start stop n : Nat) :
    moveLeft (.whole start) start stop (.whole n) = .whole (shiftLeft start stop n) := by
  simp only [moveLeft, shiftLeft]
  split <;> try split
  all_goals rfl

end Anchor

example : shiftRight 2 3 2 = 2 ∧ shiftRight 2 3 3 = 6 := by decide
example : shiftLeft 2 5 4 = 2 ∧ shiftLeft 2 5 5 = 2 ∧ shiftLeft 2 5 7 = 4 := by decide
example : Position.ascending? [.whole 0, .truth true, .other ['x']] = none := by decide +kernel
example : Position.ascending? [.whole 0, .whole (-1), .other ['x']] = some false := by
  decide +kernel
example : (Anchor.truth true).moveRight 0 2 = .whole 3 := by decide

end Marginalia

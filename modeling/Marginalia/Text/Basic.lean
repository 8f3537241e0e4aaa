/-!
# Text

Text is a list of code points.  A position in a text is a number of code points from its start, so
cutting and joining text is cutting and joining lists, and every law about positions is a law about
`List.take` and `List.drop`.

`occursIn_iff` says that the search for a piece of text finds exactly the pieces that lie in it.
-/

namespace Marginalia

/-- A text, as the code points it is made of. -/
abbrev Text := List Char

namespace Text

/-! ## Pieces of a text -/

/-- Whether `piece` stands somewhere in the text. -/
def occursIn (piece : Text) : Text → Bool
  | [] => piece.isPrefixOf []
  | c :: s => piece.isPrefixOf (c :: s) || occursIn piece s

theorem occursIn_iff {piece s : Text} : occursIn piece s = true ↔ piece <:+: s := by
  induction s with
  | nil => simp [occursIn]
  | cons c s ih => simp [occursIn, ih, List.infix_cons_iff]

/-- The text without the longest run at its end whose characters satisfy `p`. -/
def dropEndWhile (p : Char → Bool) (s : Text) : Text :=
  (s.reverse.dropWhile p).reverse

/-- What follows `lead` in a text that starts with it. -/
def after? (lead s : Text) : Option Text :=
  if lead.isPrefixOf s then some (s.drop lead.length) else none

/-- The pieces with `sep` between each two of them. -/
def join (sep : Text) : List Text → Text
  | [] => []
  | [s] => s
  | s :: rest => s ++ sep ++ join sep rest

/-- The text with spaces in front of it until it has at least `width` characters. -/
def padLeft (width : Nat) (s : Text) : Text :=
  List.replicate (width - s.length) ' ' ++ s

/-! ## Numbers -/

/-- A number in decimal notation. -/
def ofNat (n : Nat) : Text :=
  Nat.toDigits 10 n

/-- A number in decimal notation, with a minus sign in front of a negative one. -/
def ofInt : Int → Text
  | .ofNat n => ofNat n
  | .negSucc n => '-' :: ofNat (n + 1)

/-- A number in decimal notation, with zeros in front of it until it has at least `width` digits. -/
def ofNatPadded (width n : Nat) : Text :=
  let digits := ofNat n
  List.replicate (width - digits.length) '0' ++ digits

example : ofInt (-12) = ['-', '1', '2'] := by decide
example : ofNatPadded 2 7 = ['0', '7'] := by decide
example : join [','] [['a'], [], ['b']] = "a,,b".toList := by decide

end Text

end Marginalia

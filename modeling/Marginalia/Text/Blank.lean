import Marginalia.Text.Basic

/-!
# Blank characters

Two classes of characters count as blank.  `isSpace` is the property `White_Space` of the Unicode
standard.  `isBlank` adds the four information separators U+001C to U+001F, which separate fields
and records and so stand for blanks as well.  Every character of the ASCII class is in both.
-/

namespace Marginalia.Text

/-- Whether a character has the property `White_Space`. -/
def isSpace (c : Char) : Bool :=
  let n := c.toNat
  (9 ≤ n && n ≤ 13) || n == 0x20 || n == 0x85 || n == 0xA0 || n == 0x1680
    || (0x2000 ≤ n && n ≤ 0x200A) || n == 0x2028 || n == 0x2029 || n == 0x202F || n == 0x205F
    || n == 0x3000

/-- Whether a character is white space or an information separator. -/
def isBlank (c : Char) : Bool :=
  isSpace c || (0x1C ≤ c.toNat && c.toNat ≤ 0x1F)

theorem isBlank_of_isSpace {c : Char} (h : isSpace c = true) : isBlank c = true := by
  simp [isBlank, h]

/-- Every blank of the ASCII class is a blank here. -/
theorem isBlank_of_isWhitespace {c : Char} (h : c.isWhitespace = true) : isBlank c = true := by
  have h' : ((c = ' ' ∨ c = '\t') ∨ c = '\r') ∨ c = '\n' := by
    simpa [Char.isWhitespace] using h
  rcases h' with ((rfl | rfl) | rfl) | rfl <;> decide

/-- Whether a text has no character that is not blank. -/
def allBlank (s : Text) : Bool :=
  s.all isBlank

/-- The text without the blanks at its start and at its end. -/
def strip (s : Text) : Text :=
  dropEndWhile isBlank (s.dropWhile isBlank)

/-- The text without the white space at its start and at its end. -/
def stripSpace (s : Text) : Text :=
  dropEndWhile isSpace (s.dropWhile isSpace)

/-- The words of a text, which are what stands between blanks. -/
def words (s : Text) : List Text :=
  (s.splitOnP isBlank).filter fun word => !word.isEmpty

example : strip "\u001c x \u3000".toList = ['x'] := by decide
example : words " a\tbc  d\n".toList = [['a'], ['b', 'c'], ['d']] := by decide
example : stripSpace "\u001c x \u3000".toList = "\u001c x".toList := by decide
example : strip "\u200bx".toList = "\u200bx".toList := by decide

end Marginalia.Text

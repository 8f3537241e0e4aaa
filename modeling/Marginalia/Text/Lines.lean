import Marginalia.Text.Basic

/-!
# Lines

There are two notions of a line.

* In a *source text* a line ends at U+000A alone, so its lines are the pieces of
  `List.splitOn '\n'` and a position in it means the same to every tool that counts such lines.
* In *captured output* a line ends at each of the ten characters below, and CR LF is one
  boundary.  `splitLines` cuts at them.  A boundary at the end starts no further line.

`foldNewlines` turns CR and CR LF into LF, which is how text files are read.
-/

namespace Marginalia.Text

/-- Whether a character ends a line of captured output. -/
def endsLine (c : Char) : Bool :=
  let n := c.toNat
  (0xA ≤ n && n ≤ 0xD) || (0x1C ≤ n && n ≤ 0x1E) || n == 0x85 || n == 0x2028 || n == 0x2029

/-- The lines with a character put in front of the first one. -/
def consLine (c : Char) : List Text → List Text
  | [] => [[c]]
  | line :: lines => (c :: line) :: lines

/-- The lines of captured output, without the boundaries that end them. -/
def splitLines : Text → List Text
  | [] => []
  | '\r' :: '\n' :: s => [] :: splitLines s
  | c :: s => if endsLine c then [] :: splitLines s else consLine c (splitLines s)

/-- The text with each CR LF and each CR written as LF. -/
def foldNewlines : Text → Text
  | [] => []
  | '\r' :: '\n' :: s => '\n' :: foldNewlines s
  | c :: s => (if c = '\r' then '\n' else c) :: foldNewlines s

/-- The text without the carriage returns and newlines at its end. -/
def dropLineEnd (s : Text) : Text :=
  dropEndWhile (fun c => c = '\r' || c = '\n') s

theorem foldNewlines_noReturn (s : Text) : '\r' ∉ foldNewlines s := by
  fun_induction foldNewlines s with
  | case1 => simp
  | case2 s ih => simp [ih]
  | case3 c s _ ih =>
    by_cases h : c = '\r'
    · simp [h, ih]
    · simp [h, ih, Ne.symm h]

example : splitLines "a\r\nb\rc\n\nd".toList = ["a", "b", "c", "", "d"].map String.toList := by
  decide
example : splitLines "\n".toList = [[]] := by decide
example : splitLines "a\u000bb\u001fc\u2028".toList = ["a".toList, "b\u001fc".toList] := by decide
example : foldNewlines "a\r\r\nb\r".toList = "a\n\nb\n".toList := by decide

end Marginalia.Text

import Marginalia.Text.Basic

/-!
# Lines of a document

Only a newline ends a line of a document, and a newline at the end starts no further line.  The end
of a line is the position just in front of the newline that ends it, or the end of the text.

There are three views of the lines.  `linesOf` cuts the text into lines.  `lineStarts` lists where
they start, and lines are counted and their ends are found (`countLines`, `lineEnd?`) by that list
alone.  `lineEnds` lists the ends of lines that have been cut.

The lines with an end are those from one to the number of lines: `lineEnd?_isSome_iff`.
-/

namespace Marginalia.Document

/-- The lines of a text. -/
def linesOf (text : Text) : List Text :=
  let pieces := text.splitOn '\n'
  if pieces.getLast? = some [] then pieces.dropLast else pieces

/-- The ends of lines that follow each other, the first of which starts at `start`. -/
def lineEnds (start : Nat) : List Text → List Nat
  | [] => []
  | line :: rest => (start + line.length) :: lineEnds (start + line.length + 1) rest

@[simp] theorem length_lineEnds (start : Nat) (lines : List Text) :
    (lineEnds start lines).length = lines.length := by
  induction lines generalizing start with
  | nil => rfl
  | cons line rest ih => simp [lineEnds, ih]

/-! ## Lines by their starts -/

/-- The positions behind the newlines of a text that starts at `start`. -/
def behindNewlines (start : Nat) : Text → List Nat
  | [] => []
  | c :: s =>
    if c = '\n' then (start + 1) :: behindNewlines (start + 1) s else behindNewlines (start + 1) s

/-- Where the lines of a text start: at the start of the text and behind each newline, unless the
text ends there. -/
def lineStarts (text : Text) : List Nat :=
  let starts := 0 :: behindNewlines 0 text
  if starts.getLast? = some text.length ∧ 1 < starts.length then starts.dropLast else starts

/-- The number of lines of a text. -/
def countLines (text : Text) : Nat :=
  if text.isEmpty then 0 else (lineStarts text).length

/-- The end of a line, counted from one: one in front of the start of the next line, and for the
last line the end of the text without a newline. -/
def lineEnd? (text : Text) (line : Int) : Option Nat :=
  if text.isEmpty || line < 1 || (lineStarts text).length < line then none
  else
    match (lineStarts text)[line.toNat]? with
    | some next => some (next - 1)
    | none => some (if text.getLast? = some '\n' then text.length - 1 else text.length)

theorem lineEnd?_isSome_iff {text : Text} {line : Int} :
    (lineEnd? text line).isSome ↔ 1 ≤ line ∧ line ≤ countLines text := by
  unfold lineEnd? countLines
  cases text.isEmpty with
  | true =>
    simp
    omega
  | false =>
    simp only [Bool.false_or, Bool.or_eq_true, decide_eq_true_eq]
    split
    · simp
      omega
    · split
      · simp
        omega
      · simp
        omega

example : linesOf "a\n\nb\n".toList = [['a'], [], ['b']] := by decide
example : linesOf [] = [] := by decide
example : linesOf ['\n'] = [[]] := by decide
example : lineStarts "a\n\nb\n".toList = [0, 2, 3] := by decide
example : countLines ['\n'] = 1 ∧ countLines [] = 0 := by decide
example : lineEnd? "a\n\nb\n".toList 3 = some 4 := by decide

end Marginalia.Document

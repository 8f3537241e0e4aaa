import Marginalia.Text.Basic
import Marginalia.Text.Columns.Ranges

/-!
# Columns

The number of columns that a text takes on a terminal.  A control or a mark that is drawn on the
character before it takes none, a wide character of the East Asian scripts or a symbol drawn as a
picture takes two, and every other character takes one.

A text is measured cell by cell.  A cell is a character with all that is drawn in its place: the
marks behind it, the sign that asks for a picture, and characters that are joined to it.

Tabs and rules are laid out in columns.  `cells_text` and `cuttable_text` say that the cells of a
text make up the text, and `cut_columns_le` that cells which are cut fit.
-/

namespace Marginalia.Text

/-- The number of columns of a character that stands alone. -/
def charColumns (c : Char) : Nat :=
  let n := c.toNat
  if n < 0x20 || (0x7F ≤ n && n ≤ 0x9F) then 0
  else if inRanges n zeroWidth then 0
  else if inRanges n doubleWidth then 2
  else 1

/-! ## Cells -/

/-- What is drawn in one place. -/
structure Cell where
  /-- The characters. -/
  text : Text
  /-- The columns they take. -/
  columns : Nat
deriving DecidableEq, Repr

/-- The sign that asks for the character before it to be drawn as a picture. -/
def asPicture : Char := '\uFE0F'

/-- The cells of a text that goes on behind a cell of which `seen` has been read, backward.  The
cell takes `columns` so far, and one more as a picture if it `grows`.  U+200D joins the character
behind it to the cell. -/
def cellsFrom (seen : Text) (columns : Nat) (grows : Bool) : Text → List Cell
  | [] => [⟨seen.reverse, columns⟩]
  | '\u200D' :: d :: s => cellsFrom (d :: '\u200D' :: seen) columns grows s
  | c :: s =>
    if c = asPicture && grows then cellsFrom (c :: seen) (columns + 1) false s
    else if charColumns c = 0 then cellsFrom (c :: seen) columns grows s
    else ⟨seen.reverse, columns⟩ :: cellsFrom [c] (charColumns c) (inRanges c.toNat pictures) s

/-- The cells of a text.  The first one holds what has no character to be drawn on. -/
def cells (s : Text) : List Cell :=
  cellsFrom [] 0 false s

/-- The cells of a text that is to be cut.  A U+200D at the start has nothing to join and is a cell
of its own. -/
def cuttable : Text → List Cell
  | '\u200D' :: s => cellsFrom ['\u200D'] 0 false s
  | s => cells s

theorem cellsFrom_text (seen : Text) (columns : Nat) (grows : Bool) (s : Text) :
    (cellsFrom seen columns grows s).flatMap Cell.text = seen.reverse ++ s := by
  fun_induction cellsFrom seen columns grows s <;> simp_all

theorem cells_text (s : Text) : (cells s).flatMap Cell.text = s :=
  cellsFrom_text [] 0 false s

theorem cuttable_text (s : Text) : (cuttable s).flatMap Cell.text = s := by
  unfold cuttable
  split
  · simp [cellsFrom_text]
  · exact cells_text s

/-! ## Measuring and cutting -/

/-- The number of columns of cells. -/
def columnsOf : List Cell → Nat
  | [] => 0
  | cell :: rest => cell.columns + columnsOf rest

/-- The number of columns of a text that has no tab and no newline. -/
def columns (s : Text) : Nat :=
  columnsOf (cells s)

/-- The cells that fit into `width` columns, and a space in place of a wide cell that would stand
astride the end. -/
def cut (width : Nat) : List Cell → List Cell
  | [] => []
  | cell :: rest =>
    if cell.columns ≤ width then cell :: cut (width - cell.columns) rest
    else if width = 0 then [] else [⟨[' '], 1⟩]

theorem cut_columns_le (width : Nat) (cells : List Cell) : columnsOf (cut width cells) ≤ width := by
  induction cells generalizing width with
  | nil => simp [cut, columnsOf]
  | cons cell rest ih =>
    have h := ih (width - cell.columns)
    simp only [cut]
    split
    · simp only [columnsOf] at *
      omega
    · split
      · simp [columnsOf]
      · simp [columnsOf]
        omega

/-- The text cut, or filled up with spaces, to `width` columns. -/
def fit (width : Nat) (s : Text) : Text :=
  if columns s ≤ width then s ++ List.replicate (width - columns s) ' '
  else (cut width (cuttable s)).flatMap Cell.text

example : columns "a\u0301世✅".toList = 5 := by decide +kernel
example : columns "ℹ️ ⚠ ".toList = 5 := by decide +kernel
example : columns "👩\u200D💻".toList = 2 := by decide +kernel
example : fit 2 "a世".toList = "a ".toList := by decide +kernel
example : columns "\u200Daa".toList = 1 := by decide +kernel
example : fit 1 "\u200Daaa".toList = "\u200Da".toList := by decide +kernel

end Marginalia.Text

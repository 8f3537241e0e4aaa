import Marginalia.Text.Columns

/-!
# Pieces of text

What is printed is a sequence of pieces, each piece painted in one way.  Paint is written as escape
sequences, and only where the output goes to a terminal.

Characters that would move the cursor are left out.  A tab stands for a space and as many more as
lead to the next column that is a multiple of eight; all of them are painted like the tab.  The
columns of a line are counted from tab to tab, over all pieces in between.
-/

namespace Marginalia.Console

/-- How a piece of text is painted, as the code of an escape sequence; no code for a plain piece. -/
abbrev Paint := Text

/-- A piece of text painted in one way. -/
structure Piece where
  /-- The paint. -/
  paint : Paint
  /-- The text. -/
  text : Text
deriving DecidableEq, Repr

/-- Whether a character moves the cursor or rings the bell, and is left out. -/
def isDropped (c : Char) : Bool :=
  [7, 8, 11, 12, 13].contains c.toNat

/-- The text without the characters that are left out. -/
def shown (s : Text) : Text :=
  s.filter fun c => !isDropped c

/-! ## Cutting up -/

/-- The pieces between the separators of a sequence of pieces. -/
def splitPieces (sep : Char) : List Piece → List (List Piece)
  | [] => [[]]
  | piece :: rest =>
    match (piece.text.splitOn sep).reverse, splitPieces sep rest with
    | last :: before, line :: lines =>
      (before.reverse.map fun part => [⟨piece.paint, part⟩])
        ++ (⟨piece.paint, last⟩ :: line) :: lines
    | _, lines => lines

/-! ## Tabs -/

/-- The distance between the columns at which a tab ends. -/
def tabSize : Nat := 8

/-- The first column from `column` on at which a tab may end. -/
def tabStop (column : Nat) : Nat :=
  (column + (tabSize - 1)) / tabSize * tabSize

/-- The column at which a tab ends that stands behind `part`, if `part` starts at `column`. -/
def behindTab (column : Nat) (part : Text) : Nat :=
  tabStop (column + Text.columns (part ++ [' ']))

/-- The spaces that such a tab stands for. -/
def tabSpaces (column : Nat) (part : Text) : Text :=
  let reached := column + Text.columns (part ++ [' '])
  List.replicate (tabStop reached - reached + 1) ' '

/-- Pieces with more text at the end of the last one. -/
def extendLast (more : Text) : List Piece → List Piece
  | [] => []
  | [piece] => [{ piece with text := piece.text ++ more }]
  | piece :: rest => piece :: extendLast more rest

/-- The pieces of a line that starts at `column`, given what stands between its tabs. -/
def fillTabs (column : Nat) : List (List Piece) → List Piece
  | [] => []
  | [last] => last
  | part :: rest =>
    let text := part.flatMap Piece.text
    extendLast (tabSpaces column text) part ++ fillTabs (behindTab column text) rest

/-! ## Printing -/

/-- A piece with its paint. -/
def Piece.print (ansi : Bool) (piece : Piece) : Text :=
  if piece.text.isEmpty then []
  else if ansi && !piece.paint.isEmpty then
    "\u001b[".toList ++ piece.paint ++ 'm' :: piece.text ++ "\u001b[0m".toList
  else piece.text

/-- One line of pieces, and the newline that ends it. -/
def printLine (ansi : Bool) (pieces : List Piece) : Text :=
  let pieces := pieces.map fun piece => { piece with text := shown piece.text }
  (fillTabs 0 (splitPieces '\t' pieces)).flatMap (Piece.print ansi) ++ ['\n']

/-- A sequence of pieces, and the newline that ends it. -/
def print (ansi : Bool) (pieces : List Piece) : Text :=
  (splitPieces '\n' pieces).flatMap (printLine ansi)

example : print false [⟨[], "a\tb".toList⟩] = "a       b\n".toList := by decide +kernel
example : print true [⟨"36".toList, "a\n\nb".toList⟩]
    = "\u001b[36ma\u001b[0m\n\n\u001b[36mb\u001b[0m\n".toList := by decide +kernel
example : print true [⟨[], ['a']⟩, ⟨['3'], "b\tc".toList⟩]
    = "a\u001b[3mb      \u001b[0m\u001b[3mc\u001b[0m\n".toList := by decide +kernel

end Marginalia.Console

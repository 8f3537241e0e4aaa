import Marginalia.Console.Markup

/-!
# Headings

A heading stands in the middle of a ruled line that is as wide as the terminal.  Its text is marked
up, stands on one line, and is cut so that a dash and a space are left on either side.

The line is put together from its parts and then fitted to the terminal as a whole, since a text may
take fewer columns on the line than alone.
-/

namespace Marginalia.Console

/-- The width of a terminal. -/
def width : Nat := 80

/-- A ruled line. -/
def dashes (n : Nat) : Text :=
  List.replicate n '─'

/-- A marked text on one line, cut to what fits between two dashes. -/
def onOneLine (m : Marked) : Marked :=
  let line := { m with text := m.text.map fun c => if c = '\n' then ' ' else c }
  line.expandTabs.cutTo (width - 4)

/-- A text in the middle of a ruled line. -/
def ruled (title : Marked) : Marked :=
  let used := Text.columns title.text
  let side := (width - used) / 2
  let right := min (side + 1) (width - (side - 1) - used)
  let parts := (Marked.ofText ruleFace (dashes (side - 1) ++ [' '])).append
    ((title.onto .plain).append (Marked.ofText ruleFace (' ' :: dashes right)))
  parts.fit width

/-- The pieces of a ruled line with a heading, or without one if there is no text. -/
def heading (pictured : Bool) (title : Text) : Except Markup.Refusal (List Piece) :=
  if title.isEmpty then .ok [⟨ruleFace.paint, dashes width⟩]
  else do
    let title ← markup pictured title
    .ok (ruled (onOneLine title)).pieces

end Marginalia.Console

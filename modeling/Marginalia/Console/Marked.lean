import Marginalia.Console.Face
import Marginalia.Console.Piece

/-!
# Marked texts

A marked text is a text with spans, each of which lays a face over a stretch of the text.  Spans may
overlap: of two that do, the later one in the list lies on top.

For printing a marked text is cut at both ends of every span.  `text_pieces` says that nothing is
lost by that.
-/

namespace Marginalia.Console

/-- A face laid over a stretch of a text. -/
structure Span where
  /-- The number of characters in front of the stretch. -/
  start : Nat
  /-- The number of characters up to its end. -/
  stop : Nat
  /-- The face. -/
  face : Face
deriving DecidableEq, Repr

/-- A text with faces laid over it. -/
structure Marked where
  /-- The text. -/
  text : Text
  /-- The spans, each above those in front of it. -/
  spans : List Span
deriving DecidableEq, Repr

namespace Span

/-- The span moved by a number of characters. -/
def move (shift : Nat) (s : Span) : Span :=
  { s with start := s.start + shift, stop := s.stop + shift }

/-- The part of the span in the stretch from `start` to `stop`, counted from its start, if there is
any. -/
def within? (start stop : Nat) (s : Span) : Option Span :=
  let first := max s.start start
  let last := min s.stop stop
  if first < last then some ⟨first - start, last - start, s.face⟩ else none

end Span

namespace Marked

/-- The marked text of several ones in a row. -/
def append (a b : Marked) : Marked :=
  ⟨a.text ++ b.text, a.spans ++ b.spans.map (Span.move a.text.length)⟩

/-- A text with one face laid over all of it. -/
def ofText (face : Face) (s : Text) : Marked :=
  ⟨s, [⟨0, s.length, face⟩]⟩

/-- The marked text with a face laid below all of it. -/
def onto (face : Face) (m : Marked) : Marked :=
  { m with spans := ⟨0, m.text.length, face⟩ :: m.spans }

/-- The marked text with another text, which may be shorter. -/
def withText (m : Marked) (s : Text) : Marked :=
  ⟨s, (m.spans.filter (·.start < s.length)).map fun span =>
    { span with stop := min span.stop s.length }⟩

/-! ## Tabs -/

/-- The stretch of a marked text from `start` to `stop`. -/
def stretch (m : Marked) (start stop : Nat) : Marked :=
  ⟨(m.text.take stop).drop start, m.spans.filterMap (Span.within? start stop)⟩

/-- The marked text with another text in the place of its last character.  Spans that reach the end
reach the new end. -/
def replaceLast (m : Marked) (more : Text) : Marked :=
  let s := m.text.dropLast ++ more
  ⟨s, m.spans.map fun span =>
    if span.stop = m.text.length then { span with stop := s.length } else span⟩

/-- The marked text from its `start`th character on, which stands at `column`, with spaces in the
place of its tabs, given what stands between its tabs.  The plain face lies below each part. -/
def fillFrom (m : Marked) (start column : Nat) : List Text → Marked
  | [] => ⟨[], []⟩
  | [last] => (m.stretch start (start + last.length)).onto .plain
  | part :: rest =>
    let stop := start + part.length + 1
    let filled := (m.stretch start stop).replaceLast (tabSpaces column part)
    (filled.onto .plain).append (m.fillFrom stop (behindTab column part) rest)

/-- The marked text with spaces in the place of its tabs. -/
def expandTabs (m : Marked) : Marked :=
  if m.text.contains '\t' then m.fillFrom 0 0 (m.text.splitOn '\t') else m

/-! ## Cutting and fitting -/

/-- The marked text cut to `room` columns if it has more, with three dots in the last column. -/
def cutTo (room : Nat) (m : Marked) : Marked :=
  if Text.columns m.text ≤ room then m
  else m.withText (Text.fit (room - 1) m.text ++ ['…'])

/-- The marked text cut or filled up to `width` columns. -/
def fit (width : Nat) (m : Marked) : Marked :=
  m.withText (Text.fit width m.text)

/-! ## Pieces -/

/-- The face of the stretch from `start` to `stop`, which no span ends within. -/
def faceAt (m : Marked) (start stop : Nat) : Face :=
  (m.spans.filter fun span => span.start ≤ start && stop ≤ span.stop).foldl
    (fun lower span => span.face.atop lower) .plain

/-- The positions behind `start` at which a span starts or stops, in increasing order. -/
def cuts (m : Marked) : List Nat :=
  ((m.spans.flatMap fun span => [span.start, span.stop]).mergeSort (· ≤ ·)).eraseDups

/-- The pieces of a text that goes on behind position `start`, cut at further positions. -/
def piecesFrom (m : Marked) (start : Nat) (s : Text) : List Nat → List Piece
  | [] => [⟨(m.faceAt start (start + s.length)).paint, s⟩]
  | stop :: rest =>
    ⟨(m.faceAt start stop).paint, s.take (stop - start)⟩
      :: m.piecesFrom (max start stop) (s.drop (stop - start)) rest

/-- The pieces of a marked text, each painted as its face is. -/
def pieces (m : Marked) : List Piece :=
  m.piecesFrom 0 m.text m.cuts

theorem text_piecesFrom (m : Marked) (start : Nat) (s : Text) (stops : List Nat) :
    (m.piecesFrom start s stops).flatMap Piece.text = s := by
  induction stops generalizing start s with
  | nil => simp [piecesFrom]
  | cons stop rest ih => simp [piecesFrom, ih]

theorem text_pieces (m : Marked) : m.pieces.flatMap Piece.text = m.text :=
  m.text_piecesFrom 0 m.text m.cuts

end Marked

end Marginalia.Console

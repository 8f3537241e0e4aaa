import Marginalia.Document.Lines
import Marginalia.Document.Position
import Marginalia.FileTree

/-!
# Documents

An open document is a text with decorations attached to it.  A decoration sits between two
characters and moves with them: an edit in front of it moves it, an edit behind it does not, and one
around it leaves it where the removed text began.  An insertion exactly at a decoration goes behind
it.  `insert_whole` and `delete_whole` say so of whole positions.

Each decoration has a number in its document.  A decoration that is taken off is kept under
`detached` as it was when it was taken off, since whoever holds its number may still look at it.

Whoever wants to hear about saves subscribes as a listener, and is told once for each of its
subscriptions.
-/

namespace Marginalia

/-- A note between two characters of a text. -/
structure Decoration where
  /-- Where it sits. -/
  offset : Anchor
  /-- What it shows. -/
  text : Text
  /-- How it looks. -/
  style : Text
  /-- Whether it has not been removed. -/
  active : Bool
deriving DecidableEq, Repr

/-- Who hears about the saves of a document. -/
inductive Listener where
  /-- A callback of the host, known by its name. -/
  | callback (name : Text)
  /-- A controller, known by its number. -/
  | controller (n : Nat)
deriving DecidableEq, Repr

/-- An open document. -/
structure Document where
  /-- What the document is known by. -/
  id : Text
  /-- The file it is kept in. -/
  file : Option Path
  /-- The text. -/
  text : Text
  /-- The decorations on the text, each with its number, in the order they were attached. -/
  attached : List (Nat × Decoration)
  /-- The decorations that have been taken off. -/
  detached : List (Nat × Decoration)
  /-- How many decorations have been numbered. -/
  count : Nat
  /-- Who hears about saves, in the order of subscribing. -/
  listeners : List Listener
deriving DecidableEq, Repr

namespace Document

/-! ## Opening -/

/-- What a document is known by: the given name, or else its path, or else a number. -/
def nameOf (cwd : Path) (given : Text) (file : Option Path) (untitled : Nat) : Text :=
  if !given.isEmpty then given
  else
    match file with
    | some path => (path.absolute cwd).toText
    | none => "untitled-".toList ++ Text.ofNat untitled

/-- A document without decorations. -/
def ofText (id : Text) (file : Option Path) (text : Text) : Document :=
  ⟨id, file, text, [], [], 0, []⟩

/-- The document that a file holds. -/
def ofFile (t : FileTree) (cwd : Path) (file : Path) : Except FileTree.TextRefusal Document :=
  match t.readText cwd.names file.toText with
  | .ok text => .ok (ofText (nameOf cwd [] (some file) 0) (some file) text)
  | .error r => .error r

/-! ## Refusals -/

/-- Why a document does not do what it is asked to. -/
inductive Refusal where
  /-- There is no such line. -/
  | noLine (line : Position) (count : Nat)
  /-- There is no such position. -/
  | noOffset (offset : Position)
  /-- There is no such range. -/
  | noRange (start stop : Position)
  /-- A position counts no characters. -/
  | unfit
deriving DecidableEq, Repr

/-- A refusal in words. -/
def Refusal.message : Refusal → Text
  | .noLine line count =>
    "line ".toList ++ line.toText ++ " outside document of ".toList ++ Text.ofNat count
      ++ " lines".toList
  | .noOffset offset => "offset ".toList ++ offset.toText ++ " outside document".toList
  | .noRange start stop =>
    "range ".toList ++ start.toText ++ ':' :: stop.toText ++ " outside document".toList
  | .unfit => "No whole number".toList

/-! ## Lines -/

/-- The lines of a document. -/
def lines (d : Document) : List Text :=
  linesOf d.text

/-- The number of lines. -/
def lineCount (d : Document) : Nat :=
  countLines d.text

/-- The end of a line whose number counts no lines.  Only that of the last line can be told, since
nothing has to be counted for it. -/
def lineEndBy (d : Document) (line : Position) : Except Refusal Nat :=
  let count := d.lineCount
  match line with
  | .real x =>
    if count = 0 || x.ltInt 1 || x.gtInt count then .error (.noLine line count)
    else if x.ltInt count then .error .unfit
    else
      match lineEnd? d.text count with
      | some offset => .ok offset
      | none => .error .unfit
  | _ => .error (if count = 0 then .noLine line 0 else .unfit)

/-- The end of a line, counted from one. -/
def lineEnd (d : Document) (line : Position) : Except Refusal Nat :=
  match line.count? with
  | some n =>
    match lineEnd? d.text n with
    | some offset => .ok offset
    | none => .error (.noLine line d.lineCount)
  | none => d.lineEndBy line

/-! ## Decorations -/

/-- The document with a decoration attached, and the number of the decoration. -/
def attach (d : Document) (offset : Anchor) (text style : Text) : Document × Nat :=
  ({ d with
      attached := d.attached ++ [(d.count, ⟨offset, text, style, true⟩)]
      count := d.count + 1 },
    d.count)

/-- The document with a decoration attached at a position that may lie outside of it. -/
def decorate (d : Document) (offset : Position) (text style : Text) :
    Except Refusal (Document × Nat) :=
  match Position.ascending? [.whole 0, offset, .whole d.text.length], Anchor.ofPosition? offset with
  | some true, some anchor => .ok (d.attach anchor text style)
  | some false, _ => .error (.noOffset offset)
  | _, _ => .error .unfit

/-- The decoration of a number. -/
def decoration? (d : Document) (number : Nat) : Option Decoration :=
  (d.attached ++ d.detached).lookup number

/-- The document with a decoration taken off. -/
def detach (d : Document) (number : Nat) : Document :=
  match d.attached.lookup number with
  | none => d
  | some decoration =>
    { d with
      attached := d.attached.filter fun entry => entry.1 != number
      detached := d.detached ++ [(number, { decoration with active := false })] }

/-- The document with a decoration no longer counted as active, wherever it is. -/
def deactivate (d : Document) (number : Nat) : Document :=
  { d with
    attached := d.attached.map fun entry =>
      if entry.1 = number then (entry.1, { entry.2 with active := false }) else entry }

/-- What the decorations at a position show, in the order they were attached. -/
def notesAt (d : Document) (offset : Nat) : List Text :=
  (d.attached.filter fun entry => entry.2.offset.isAt offset).map fun entry => entry.2.text

/-- Each of `lines` with what the decorations at the end of its line show, given the ends that the
lines of the document have from there on. -/
def annotatedAt (d : Document) : List Nat → List Text → Except Refusal (List (Text × List Text))
  | _, [] => .ok []
  | [], _ :: _ => .error (.noLine (.whole (d.lineCount + 1)) d.lineCount)
  | stop :: stops, line :: rest => do
    let rows ← d.annotatedAt stops rest
    .ok ((line, d.notesAt stop) :: rows)

/-- Each of `lines` with what the decorations at the end of the line of the same number show. -/
def annotated (d : Document) (lines : List Text) : Except Refusal (List (Text × List Text)) :=
  d.annotatedAt (lineEnds 0 d.lines) lines

/-! ## Edits -/

/-- The document with another text and all attached decorations moved. -/
def edited (d : Document) (text : Text) (move : Anchor → Anchor) : Document :=
  { d with
    text
    attached := d.attached.map fun entry =>
      (entry.1, { entry.2 with offset := move entry.2.offset }) }

/-- The document with a text inserted. -/
def insert (d : Document) (offset : Position) (text : Text) : Except Refusal Document :=
  match Position.ascending? [.whole 0, offset, .whole d.text.length], offset.count? with
  | some true, some n =>
    let n := n.toNat
    .ok (d.edited (d.text.take n ++ text ++ d.text.drop n) (Anchor.moveRight n text.length))
  | some false, _ => .error (.noOffset offset)
  | _, _ => .error .unfit

/-- The document without the characters from `start` to `stop`. -/
def delete (d : Document) (start stop : Position) : Except Refusal Document :=
  match Position.ascending? [.whole 0, start, stop, .whole d.text.length], start.count?,
    stop.count?, Anchor.ofPosition? start with
  | some true, some m, some n, some landing =>
    let m := m.toNat
    let n := n.toNat
    .ok (d.edited (d.text.take m ++ d.text.drop n) (landing.moveLeft m n))
  | some false, _, _, _ => .error (.noRange start stop)
  | _, _, _, _ => .error .unfit

theorem insert_whole (d : Document) (offset : Int) (text : Text) :
    d.insert (.whole offset) text
      = if 0 ≤ offset ∧ offset ≤ d.text.length then
          .ok (d.edited (d.text.take offset.toNat ++ text ++ d.text.drop offset.toNat)
            (Anchor.moveRight offset.toNat text.length))
        else .error (.noOffset (.whole offset)) := by
  by_cases h : 0 ≤ offset <;> by_cases h' : offset ≤ d.text.length <;>
    simp [insert, Position.count?, h, h']

theorem delete_whole (d : Document) (start stop : Int) :
    d.delete (.whole start) (.whole stop)
      = if 0 ≤ start ∧ start ≤ stop ∧ stop ≤ d.text.length then
          .ok (d.edited (d.text.take start.toNat ++ d.text.drop stop.toNat)
            (Anchor.moveLeft (.whole start.toNat) start.toNat stop.toNat))
        else .error (.noRange (.whole start) (.whole stop)) := by
  by_cases h : 0 ≤ start <;> by_cases h' : start ≤ stop <;>
    by_cases h'' : stop ≤ d.text.length <;>
      simp [delete, Position.count?, Anchor.ofPosition?, h, h', h'']

/-! ## Saving -/

/-- The document with one more subscription. -/
def subscribe (d : Document) (l : Listener) : Document :=
  { d with listeners := d.listeners ++ [l] }

/-- The document without the earliest subscription of a listener. -/
def unsubscribe (d : Document) (l : Listener) : Document :=
  { d with listeners := d.listeners.erase l }

/-- The tree after the document has been written to its file. -/
def write (d : Document) (t : FileTree) (cwd : Path) : Except FileTree.Refusal FileTree :=
  match d.file with
  | none => .ok t
  | some path => t.write cwd.names path.toText (Utf8.encode d.text)

end Document

end Marginalia

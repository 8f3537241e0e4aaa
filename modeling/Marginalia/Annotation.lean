import Marginalia.Diagnostic
import Marginalia.Document

/-!
# Annotations

An annotation is a diagnostic that is shown in a document: at the end of the line it speaks of
stands a decoration with its message.  A diagnostic that points past the last line is not shown.

`length_render` says that no other diagnostic is left out.
-/

namespace Marginalia

/-- How annotations look. -/
structure Style where
  /-- Whether they are in italics. -/
  italic : Bool
  /-- Their colour, if it is a text. -/
  color : Option Text
deriving DecidableEq, Repr

namespace Style

/-- How annotations look where nothing is said about it. -/
def standard : Style := ⟨true, some "yellow".toList⟩

/-- A style in words, if its colour is a text. -/
def toText? (s : Style) : Option Text :=
  s.color.map fun color => if s.italic then "italic ".toList ++ color else color

/-- The text that a value is. -/
def textOf? : Value → Option Text
  | .text s => some s
  | _ => none

/-- The names of what a table says about a style. -/
def names : List Text :=
  ["italic", "color"].map String.toList

/-- The style that a table stands for, if it says nothing else.  Every value says whether italics
are wanted. -/
def ofFields? (fields : Fields) : Option Style :=
  let italic := ((fields.get? "italic".toList).map Value.isTruthy).getD standard.italic
  let color := ((fields.get? "color".toList).map textOf?).getD standard.color
  if fields.all fun field => names.contains field.1 then some ⟨italic, color⟩ else none

end Style

/-- A decoration of one of several documents. -/
structure Mark where
  /-- The number of the document. -/
  document : Nat
  /-- The number of the decoration in it. -/
  number : Nat
deriving DecidableEq, Repr

/-- A diagnostic and the decoration that shows it. -/
structure Annotation where
  /-- The diagnostic. -/
  diagnostic : Diagnostic
  /-- The decoration. -/
  mark : Mark
deriving DecidableEq

namespace Annotation

/-- The sign in front of a message. -/
def glyph : Char := '💡'

/-- What the decoration of a diagnostic shows. -/
def note (x : Diagnostic) : Text :=
  glyph :: ' ' :: x.message

/-- The document of number `n` with the diagnostics shown in it, in their order and with the look
that `look` says in words, and the annotations. -/
def render (n : Nat) (look : Text) :
    List Diagnostic → Document → Document × List Annotation
  | [], d => (d, [])
  | x :: rest, d =>
    match Document.lineEnd? d.text x.line.val with
    | none => render n look rest d
    | some offset =>
      let (d, number) := d.attach (.whole offset) (note x) look
      let (d, annotations) := render n look rest d
      (d, ⟨x, ⟨n, number⟩⟩ :: annotations)

/-- Whether a diagnostic speaks of a line of the document. -/
def isPlaced (d : Document) (x : Diagnostic) : Bool :=
  x.line.val ≤ d.lineCount

@[simp] theorem text_attach (d : Document) (offset : Anchor) (text style : Text) :
    (d.attach offset text style).1.text = d.text := rfl

@[simp] theorem text_render (n : Nat) (look : Text) (xs : List Diagnostic) (d : Document) :
    (render n look xs d).1.text = d.text := by
  induction xs generalizing d with
  | nil => rfl
  | cons x rest ih =>
    unfold render
    split
    · exact ih d
    · simp [ih]

theorem length_render (n : Nat) (look : Text) (xs : List Diagnostic) (d : Document) :
    (render n look xs d).2.length = (xs.filter (isPlaced d)).length := by
  induction xs generalizing d with
  | nil => rfl
  | cons x rest ih =>
    have hx := @Document.lineEnd?_isSome_iff d.text x.line.val
    have hp := x.line.property
    unfold render
    split
    · next h =>
      rw [h] at hx
      have : ¬ x.line.val ≤ d.lineCount := by
        simp [Document.lineCount] at hx ⊢
        omega
      simp [isPlaced, this, ih]
    · next offset h =>
      rw [h] at hx
      have : x.line.val ≤ d.lineCount := by
        simp [Document.lineCount] at hx ⊢
        omega
      have hc : isPlaced (d.attach (.whole offset) (note x) look).1 = isPlaced d := rfl
      have hd : isPlaced d x = true := by simpa [isPlaced] using this
      simp [hd, ih, hc]

end Annotation

end Marginalia

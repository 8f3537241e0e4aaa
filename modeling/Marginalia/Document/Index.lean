import Marginalia.Annotation

/-!
# Documents with an index

A document that is asked for its lines again and again does not look for their starts each time.  It
keeps them in an index, and with them the copy of the text in which they were found.  The index is
good for as long as the document holds that very copy.  It is not compared with the text, and no
edit looks at it.

What is asked may build the index and then still be refused, so the document goes on from where a
refusal left it.  The empty text is counted without an index.
-/

namespace Marginalia

open Annotation (note)

/-! ## Copies of texts -/

/-- Texts are held as copies.  There may be many copies of one text, but a copy is never changed. -/
class Copies (κ : Type) where
  /-- The text of a copy. -/
  text : κ → Text

/-- Strings are copies.  Two that are the same object are told to be equal without being read. -/
instance : Copies String := ⟨String.toList⟩

/-- A way to get a copy of a text.  It need not be a new one. -/
def Copier (κ : Type) [Copies κ] : Type :=
  (text : Text) → { copy : κ // Copies.text copy = text }

/-! ## The index -/

namespace Document

/-- The number of lines of a text, given where they start. -/
def countFrom (starts : List Nat) (text : Text) : Nat :=
  if text.isEmpty then 0 else starts.length

/-- The end of the last line of a text. -/
def lastEnd (text : Text) : Nat :=
  if text.getLast? = some '\n' then text.length - 1 else text.length

/-- The end of a line, counted from one, given where the lines of the text start. -/
def lineEndFrom (starts : List Nat) (text : Text) (line : Position) : Except Refusal Nat :=
  let count := countFrom starts text
  match line.count?, line with
  | some n, _ =>
    if n < 1 || count < n then .error (.noLine line count)
    else
      match starts[n.toNat]? with
      | some next => .ok (next - 1)
      | none => .ok (lastEnd text)
  | none, .real x =>
    if count = 0 || x.ltInt 1 || x.gtInt count then .error (.noLine line count)
    else if x.ltInt count then .error .unfit
    else .ok (lastEnd text)
  | none, _ => .error (if count = 0 then .noLine line 0 else .unfit)

end Document

/-- An open document with an index. -/
structure Indexed (κ : Type) [Copies κ] where
  /-- The document. -/
  document : Document
  /-- The copy that it holds of its text. -/
  copy : κ
  /-- The copy is one of the text. -/
  text_copy : Copies.text copy = document.text
  /-- Where lines start, and the copy in which the starts were found. -/
  index : Option (κ × List Nat)

/-- What a document with an index is asked for. -/
abbrev Asked (κ : Type) [Copies κ] := ExceptT Document.Refusal (StateM (Indexed κ))

namespace Indexed

section
variable {κ : Type} [Copies κ]

/-- A document without decorations and without an index. -/
def ofCopy (id : Text) (file : Option Path) (copy : κ) : Indexed κ :=
  ⟨.ofText id file (Copies.text copy), copy, rfl, none⟩

/-- An open document as it is, without an index. -/
def ofDocument (d : Document) : Indexed String :=
  ⟨d, String.ofList d.text, String.toList_ofList, none⟩

/-- What there is unless it is refused. -/
def orRefuse {α : Type} (x : Except Document.Refusal α) : Asked κ α :=
  ExceptT.mk (pure x)

/-! ## Edits -/

/-- A change of the document, after which it holds another copy. -/
def edit (new : Copier κ) (change : Document → Except Document.Refusal Document) :
    Asked κ Unit := do
  let d ← get
  let document ← orRefuse (change d.document)
  let ⟨copy, text_copy⟩ := new document.text
  set { d with document, copy, text_copy }

/-- Another copy, of whatever text, in the place of the one that is held. -/
def assign (copy : κ) : Asked κ Unit :=
  modify fun d =>
    { d with document := { d.document with text := Copies.text copy }, copy, text_copy := rfl }

/-- A decoration attached, and its number. -/
def attach (offset : Anchor) (text style : Text) : Asked κ Nat := do
  let d ← get
  set { d with document := (d.document.attach offset text style).1, text_copy := d.text_copy }
  return d.document.count

/-! ## Lines -/

/-- The lines of the document, cut from the text. -/
def lines : Asked κ (List Text) := do
  return (← get).document.lines

variable [DecidableEq κ]

/-- The starts of lines that the index has for the copy that is held. -/
def current? (d : Indexed κ) : Option (List Nat) :=
  match d.index with
  | some (copy, starts) => if copy = d.copy then some starts else none
  | none => none

/-- Where the lines start. -/
def lineStarts : Asked κ (List Nat) := do
  let d ← get
  match d.current? with
  | some starts => return starts
  | none =>
    let starts := Document.lineStarts d.document.text
    set { d with index := some (d.copy, starts) }
    return starts

/-- The number of lines. -/
def lineCount : Asked κ Nat := do
  if (← get).document.text.isEmpty then return 0
  return (← lineStarts).length

/-- The end of a line, counted from one. -/
def lineEnd (line : Position) : Asked κ Nat := do
  let starts ← lineStarts
  let d ← get
  orRefuse (Document.lineEndFrom starts d.document.text line)

/-! ## Annotations -/

/-- Diagnostics shown in the document of number `n`, those of lines behind the first `count` left
out, and the annotations. -/
def renderUpTo (count n : Nat) (style : Style) : List Diagnostic → Asked κ (List Annotation)
  | [] => return []
  | x :: rest => do
    if count < x.line.val then renderUpTo count n style rest
    else
      let offset ← lineEnd (.whole x.line.val)
      match style.toText? with
      | none => throw .unfit
      | some look =>
        let number ← attach (.whole offset) (note x) look
        return ⟨x, ⟨n, number⟩⟩ :: (← renderUpTo count n style rest)

/-- Diagnostics shown in the document of number `n`, and the annotations. -/
def render (n : Nat) (style : Style) (xs : List Diagnostic) : Asked κ (List Annotation) := do
  renderUpTo (← lineCount) n style xs

/-- Each of `lines` with what the decorations at the end of its line show, the first of them being
line `number`. -/
def annotatedFrom (number : Nat) : List Text → Asked κ (List (Text × List Text))
  | [] => return []
  | line :: rest => do
    let stop ← lineEnd (.whole number)
    let notes := (← get).document.notesAt stop
    return (line, notes) :: (← annotatedFrom (number + 1) rest)

/-- Each of `lines` with what the decorations at the end of the line of the same number show. -/
def annotated (lines : List Text) : Asked κ (List (Text × List Text)) :=
  annotatedFrom 1 lines

/-- The number of lines, and each line with what the decorations at its end show. -/
def numbered : Asked κ (Nat × List (Text × List Text)) := do
  let count ← lineCount
  let rows ← annotated (← lines)
  return (count, rows)

end

/-! ## Use -/

/-- A question about the lines of a document. -/
inductive LineQuery where
  /-- How many there are. -/
  | count
  /-- Where one of them ends. -/
  | stop (line : Position)
  /-- What they are. -/
  | all
deriving DecidableEq, Repr

/-- What a document with an index is used for. -/
inductive Use (κ : Type) [Copies κ] where
  /-- More text, of which a copy is made in some way. -/
  | insert (new : Copier κ) (offset : Position) (text : Text)
  /-- Less text, of which a copy is made in some way. -/
  | delete (new : Copier κ) (start stop : Position)
  /-- Another copy in the place of the one that is held. -/
  | assign (copy : κ)
  /-- A question about the lines. -/
  | ask (q : LineQuery)
  /-- Diagnostics shown. -/
  | render (n : Nat) (style : Style) (xs : List Diagnostic)
  /-- Lines with what is shown at their ends. -/
  | annotated (lines : List Text)

/-- What comes of a use. -/
inductive Reply where
  /-- Nothing to tell. -/
  | done
  /-- A number. -/
  | number (n : Nat)
  /-- Lines. -/
  | texts (lines : List Text)
  /-- Annotations. -/
  | annotations (batch : List Annotation)
  /-- Lines and what is shown at their ends. -/
  | rows (rows : List (Text × List Text))
deriving DecidableEq

section
variable {κ : Type} [Copies κ] [DecidableEq κ]

/-- The answer to a question about the lines. -/
def LineQuery.answer : LineQuery → Asked κ Reply
  | .count => return .number (← lineCount)
  | .stop line => return .number (← lineEnd line)
  | .all => return .texts (← lines)

/-- One use. -/
def Use.make : Use κ → Asked κ Reply
  | .insert new offset text => do
    edit new fun d => d.insert offset text
    return .done
  | .delete new start stop => do
    edit new fun d => d.delete start stop
    return .done
  | .assign copy => do
    Indexed.assign copy
    return .done
  | .ask q => q.answer
  | .render n style xs => return .annotations (← Indexed.render n style xs)
  | .annotated lines => return .rows (← Indexed.annotated lines)

/-- One use after another, whether they are refused or not: what comes of each of them, and the
document in the end. -/
def makeAll : List (Use κ) → Indexed κ → List (Except Document.Refusal Reply) × Indexed κ
  | [], d => ([], d)
  | use :: rest, d =>
    let (reply, d) := use.make.run d
    let (replies, d) := makeAll rest d
    (reply :: replies, d)

end

end Indexed

end Marginalia

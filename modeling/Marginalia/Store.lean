import Marginalia.Annotation

/-!
# Annotation stores

A store keeps the annotations of each document, by the name the document is known by.  The
annotations of a document are replaced all at once: `clear` takes the old ones off before `install`
keeps the new ones.

Two documents may be known by the same name.  Then clearing one of them also ends the annotations of
the other, which stay attached where they are but are no longer active.
-/

namespace Marginalia

/-- The open documents, by number. -/
abbrev Documents := List Document

/-- The documents after document `n` has been asked to take a decoration off. -/
def Documents.remove (docs : Documents) (n : Nat) (mark : Mark) : Documents :=
  if mark.document = n then List.modify docs n (·.detach mark.number)
  else List.modify docs mark.document (·.deactivate mark.number)

/-- The decoration of a mark. -/
def Documents.decoration? (docs : Documents) (mark : Mark) : Option Decoration :=
  (docs : List Document)[mark.document]?.bind (·.decoration? mark.number)

/-- The annotations of documents. -/
structure Store where
  /-- The annotations of each document, by its name. -/
  batches : List (Text × List Annotation)
deriving DecidableEq

namespace Store

/-- The store without annotations. -/
def empty : Store := ⟨[]⟩

/-- The annotations of a document. -/
def annotations (s : Store) (id : Text) : List Annotation :=
  (s.batches.lookup id).getD []

/-- The number of all annotations. -/
def size (s : Store) : Nat :=
  (s.batches.flatMap Prod.snd).length

/-- The store without the annotations of a document. -/
def drop (s : Store) (id : Text) : Store :=
  ⟨s.batches.filter fun batch => !(batch.1 == id)⟩

/-- A document still has annotations. -/
structure NotCleared where
  /-- The name of the document. -/
  document : Text
deriving DecidableEq, Repr

/-- The refusal in words. -/
def NotCleared.message (r : NotCleared) : Text :=
  "Annotations for ".toList ++ r.document ++ " must be cleared before install".toList

/-- The store with annotations for a document that has none. -/
def install (s : Store) (id : Text) (batch : List Annotation) : Except NotCleared Store :=
  if (s.annotations id).isEmpty then .ok ⟨(id, batch) :: (s.drop id).batches⟩ else .error ⟨id⟩

/-- The documents after document `n` has been asked to take off the decorations of annotations. -/
def release (docs : Documents) (n : Nat) (batch : List Annotation) : Documents :=
  batch.foldl (fun docs a => docs.remove n a.mark) docs

/-- The store and the documents after the annotations of document `n` have been cleared. -/
def clear (s : Store) (docs : Documents) (n : Nat) : Store × Documents :=
  match (docs : List Document)[n]? with
  | none => (s, docs)
  | some d => (s.drop d.id, release docs n (s.annotations d.id))

/-- A style cannot be said in words. -/
structure NoWords where
  /-- The style. -/
  style : Style
deriving DecidableEq, Repr

/-- The documents with diagnostics shown in document `n`, and the annotations.  A style that cannot
be said in words does no harm as long as nothing is shown in it. -/
def render (docs : Documents) (n : Nat) (style : Style) (xs : List Diagnostic) :
    Except NoWords (Documents × List Annotation) :=
  match (docs : List Document)[n]? with
  | none => .ok (docs, [])
  | some d =>
    match style.toText? with
    | some look =>
      let (d, annotations) := Annotation.render n look xs d
      .ok (List.set docs n d, annotations)
    | none => if xs.any fun x => Annotation.isPlaced d x then .error ⟨style⟩ else .ok (docs, [])

end Store

end Marginalia

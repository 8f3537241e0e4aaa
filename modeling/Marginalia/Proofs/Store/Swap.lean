import Mathlib.Data.List.Forall2
import Marginalia.Proofs.Document.Views
import Marginalia.Proofs.Store.Batches

/-!
# Swapping batches

`Swapped` says what the documents are like after the batch of a document has been taken off and
diagnostics have been shown in its place: which annotations there are, how they look and where, what
is left of the decorations that were there before, and that nothing else has changed.
`swapped_render` says that clearing and showing do just that.  `Swapped.notes_eq` and
`Swapped.length_attached` are about two swaps in a row with the same diagnostics: nothing that shows
is different after the second one.
-/

namespace Marginalia

open Annotation (isPlaced mark_numbered)

/-- A diagnostic is shown by an annotation at the end of its line: a light bulb, a space and its
message. -/
def Diagnostic.ShownBy (docs : Documents) (d : Document) (look : Text) (a : Annotation)
    (x : Diagnostic) : Prop :=
  a.diagnostic = x ∧ ∃ offset, d.lineEnd (.whole x.line.val) = .ok offset ∧
    docs.decoration? a.mark = some ⟨.whole offset, '💡' :: ' ' :: x.message, look, true⟩

/-- The documents after a batch `old` of document `n` has been swapped for a batch that shows
diagnostics. -/
structure Swapped (n : Nat) (look : Text) (xs : List Diagnostic) (docs docs' : Documents)
    (d d' : Document) (old batch : List Annotation) : Prop where
  /-- Nothing but the decorations of the document has changed. -/
  redecorated : d.Redecorated d'
  /-- There is one annotation for each diagnostic of a line that the text has, in their order. -/
  shown : List.Forall₂ (Diagnostic.ShownBy docs' d' look) batch (xs.filter (isPlaced d'))
  /-- What is attached is what was attached before without the old batch, and then the new one. -/
  attached : ∃ fresh, fresh.map (fun entry => (⟨n, entry.1⟩ : Mark)) = batch.map Annotation.mark ∧
    d'.attached = (d.attached.filter fun entry =>
      !(old.map Annotation.mark).contains ⟨n, entry.1⟩) ++ fresh
  /-- The old batch has ended. -/
  retired : ∀ a ∈ old, ∃ x, docs'.decoration? a.mark = some x ∧ x.active = false
  /-- All other decorations are what they were. -/
  others : ∀ mark x, mark ∉ old.map Annotation.mark → docs.decoration? mark = some x →
    docs'.decoration? mark = some x

/-- What a batch shows and where. -/
def Documents.notes (docs : Documents) (batch : List Annotation) : List (Option (Text × Anchor)) :=
  batch.map fun a => (docs.decoration? a.mark).map fun x => (x.text, x.offset)

theorem Annotation.isPlaced_iff (d : Document) (x : Diagnostic) :
    isPlaced d x = true ↔ ∃ offset, Document.lineEnd? d.text x.line.val = some offset := by
  rw [← Option.isSome_iff_exists, Document.lineEnd?_isSome_iff]
  have hx := x.line.property
  unfold isPlaced Document.lineCount
  rw [decide_eq_true_eq]
  omega

/-- The annotations of diagnostics show them, if their decorations are the right ones. -/
theorem Annotation.shownBy_numbered {docs : Documents} {d : Document} {n : Nat} {look : Text}
    (xs : List Diagnostic) (start : Nat)
    (h : ∀ p ∈ (placed look d.text xs).zipIdx start, docs.decoration? ⟨n, p.2⟩ = some p.1.2) :
    List.Forall₂ (Diagnostic.ShownBy docs d look) (numbered n start (placed look d.text xs))
      (xs.filter (isPlaced d)) := by
  induction xs generalizing start with
  | nil => exact .nil
  | cons x rest ih =>
    unfold placed at h ih ⊢
    rw [List.filterMap_cons] at h ⊢
    cases hx : Document.lineEnd? d.text x.line.val with
    | none =>
      have hnot : ¬ isPlaced d x = true := by
        rw [isPlaced_iff, hx]
        rintro ⟨offset, hoffset⟩
        cases hoffset
      simp only [placed?, hx, Option.map_none] at h ⊢
      rw [List.filter_cons_of_neg hnot]
      exact ih start h
    | some offset =>
      have hplaced : isPlaced d x = true := (isPlaced_iff d x).mpr ⟨offset, hx⟩
      simp only [placed?, hx, Option.map_some] at h ⊢
      rw [List.filter_cons_of_pos hplaced]
      refine .cons ⟨rfl, offset, Document.lineEnd_eq_ok_iff.mpr hx, ?_⟩ (ih (start + 1) ?_)
      · exact h _ List.mem_cons_self
      · exact fun p hp => h p (List.mem_cons_of_mem _ hp)

/-- Clearing and showing swaps batches. -/
theorem swapped_render {docs : Documents} (ht : docs.Tidy) {n : Nat} {d : Document}
    (hd : (docs : List Document)[n]? = some d) {old : List Annotation}
    (hold : ∀ a ∈ old, docs.Numbered a.mark) {style : Style} {look : Text}
    (hlook : style.toText? = some look) (xs : List Diagnostic) :
    ∃ docs' batch d', Store.render (Store.release docs n old) n style xs = .ok (docs', batch) ∧
      (docs' : List Document)[n]? = some d' ∧ Swapped n look xs docs docs' d d' old batch := by
  have hd₁ : (Store.release docs n old : List Document)[n]? = some (d.released n n old) := by
    rw [Documents.getElem?_release, hd]
    rfl
  have hlt : n < (Store.release docs n old).length := (List.getElem?_eq_some_iff.mp hd₁).1
  have ht₁ : (Store.release docs n old).Tidy := (docs.evolve_release n old).tidy ht
  have hredecorated := Document.redecorated_released n n old d
  have htidy : (d.released n n old).Tidy := ht₁ _ (List.mem_of_getElem? hd₁)
  generalize hg : d.released n n old = d₁ at hd₁ hredecorated htidy
  let placed := Annotation.placed look d₁.text xs
  have hd' : (List.set (Store.release docs n old) n (d₁.attachAll (placed.map Prod.snd)))[n]?
      = some (d₁.attachAll (placed.map Prod.snd)) := List.getElem?_set_self hlt
  -- what has a number before the swap is only touched by the release
  have hsame : ∀ mark, docs.Numbered mark →
      Documents.decoration? (List.set (Store.release docs n old) n
        (d₁.attachAll (placed.map Prod.snd))) mark
        = (Store.release docs n old).decoration? mark := by
    intro mark hmark
    apply ht₁.decoration?_set_attachAll hd₁
    exact (docs.evolve_release n old).numbered hmark
  refine ⟨_, Annotation.numbered n d₁.count placed, _, ?_, hd', ?_, ?_, ?_, ?_, ?_⟩
  · unfold Store.render
    rw [hd₁]
    simp only [hlook, Annotation.render_eq]
    rfl
  · exact hredecorated.trans (Document.redecorated_attachAll _ _)
  · apply Annotation.shownBy_numbered xs d₁.count
    intro p hp
    unfold Documents.decoration?
    rw [hd']
    exact Annotation.decoration?_placed htidy hp
  · refine ⟨((placed.map Prod.snd).zipIdx d₁.count).map fun p => (p.2, p.1), ?_, ?_⟩
    · rw [mark_numbered, List.map_map, ← List.length_map Prod.snd,
        ← List.zipIdx_map_snd d₁.count, List.map_map]
      rfl
    · rw [← Document.attached_released, hg]
      rfl
  · intro a ha
    obtain ⟨x, hx⟩ := (ht.numbered_iff a.mark).mp (hold a ha)
    refine ⟨x.retired, ?_, rfl⟩
    rw [hsame _ (hold a ha), ht.decoration?_release, if_pos (List.mem_map_of_mem ha), hx]
    rfl
  · intro mark x hmark hx
    rw [hsame _ ((ht.numbered_iff mark).mpr ⟨x, hx⟩), ht.decoration?_release, if_neg hmark]
    exact hx

/-! ## Two swaps in a row -/

/-- What a batch shows and where depends on the diagnostics and on the text. -/
theorem notes_of_shownBy {docs : Documents} {d : Document} {look : Text} {batch : List Annotation}
    {xs : List Diagnostic} (h : List.Forall₂ (Diagnostic.ShownBy docs d look) batch xs) :
    docs.notes batch = xs.map fun x =>
      (d.lineEnd (.whole x.line.val)).toOption.map fun offset =>
        ('💡' :: ' ' :: x.message, .whole offset) := by
  unfold Documents.notes
  induction h with
  | nil => rfl
  | cons ha _ ih =>
    obtain ⟨-, offset, hoffset, hx⟩ := ha
    rw [List.map_cons, List.map_cons, hoffset, hx, ih]
    rfl

namespace Swapped
variable {n : Nat} {look : Text} {xs : List Diagnostic} {docs₁ docs₂ docs₃ : Documents}
  {d₁ d₂ d₃ : Document} {old batch batch' : List Annotation}

/-- There are as many annotations as diagnostics of lines that the text had and has. -/
theorem length_batch (h : Swapped n look xs docs₁ docs₂ d₁ d₂ old batch) :
    batch.length = (xs.filter (isPlaced d₁)).length := by
  have hplaced : isPlaced d₂ = isPlaced d₁ := by
    funext x
    unfold isPlaced Document.lineCount
    rw [h.redecorated.text_eq]
  rw [h.shown.length_eq, hplaced]

/-- A second swap shows the same. -/
theorem notes_eq (h : Swapped n look xs docs₁ docs₂ d₁ d₂ old batch)
    (h' : Swapped n look xs docs₂ docs₃ d₂ d₃ batch batch') :
    docs₃.notes batch' = docs₂.notes batch := by
  have htext : d₃.text = d₂.text := h'.redecorated.text_eq
  have hplaced : isPlaced d₃ = isPlaced d₂ := by
    funext x
    unfold isPlaced Document.lineCount
    rw [htext]
  have hend : ∀ line, d₃.lineEnd line = d₂.lineEnd line := by
    intro line
    unfold Document.lineEnd Document.lineEndBy Document.lineCount
    rw [htext]
  rw [notes_of_shownBy h'.shown, notes_of_shownBy h.shown, hplaced]
  apply List.map_congr_left
  intro x _
  rw [hend]

/-- What the first swap has attached is what the second one takes off. -/
theorem length_attached (h : Swapped n look xs docs₁ docs₂ d₁ d₂ old batch)
    (h' : Swapped n look xs docs₂ docs₃ d₂ d₃ batch batch') (ht : d₂.Tidy) :
    d₃.attached.length = d₂.attached.length := by
  obtain ⟨fresh, hfresh, hattached⟩ := h.attached
  obtain ⟨fresh', hfresh', hattached'⟩ := h'.attached
  have hlength : fresh'.length = fresh.length := by
    have hbatch : batch'.length = batch.length := by
      rw [h'.length_batch, h.shown.length_eq]
    have hmarks := congrArg List.length hfresh
    have hmarks' := congrArg List.length hfresh'
    simp only [List.length_map] at hmarks hmarks'
    omega
  generalize (d₁.attached.filter _) = left at hattached
  have hdisjoint : ∀ entry ∈ left, ∀ entry' ∈ fresh, entry.1 ≠ entry'.1 := by
    have hd := ht.nodup_numbers
    unfold Document.numbers at hd
    rw [hattached, List.map_append, List.nodup_append] at hd
    intro entry hentry entry' hentry'
    exact hd.2.2 _ (List.mem_map_of_mem hentry) _ (List.mem_map_of_mem hentry')
  have hleft : (d₂.attached.filter fun entry =>
      !(batch.map Annotation.mark).contains ⟨n, entry.1⟩) = left := by
    rw [hattached, List.filter_append, List.filter_eq_self.mpr, List.filter_eq_nil_iff.mpr,
      List.append_nil]
    · intro entry hentry
      have hmem : (⟨n, entry.1⟩ : Mark) ∈ batch.map Annotation.mark :=
        hfresh ▸ List.mem_map.mpr ⟨entry, hentry, rfl⟩
      simpa using hmem
    · intro entry hentry
      have hnot : (⟨n, entry.1⟩ : Mark) ∉ batch.map Annotation.mark := by
        rw [← hfresh]
        intro hmem
        obtain ⟨entry', hentry', heq⟩ := List.mem_map.mp hmem
        exact hdisjoint entry hentry entry' hentry' (Mark.mk.inj heq).2.symm
      simpa using hnot
  rw [hattached', hleft, hattached, List.length_append, List.length_append, hlength]

end Swapped

end Marginalia

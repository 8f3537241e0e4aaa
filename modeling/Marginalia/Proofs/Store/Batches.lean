import Marginalia.Proofs.Document.Numbers
import Marginalia.Store

/-!
# Batches of annotations

What a store does to the documents when it takes a batch of annotations off or puts one on.  The
documents it was not asked about keep their entries; a mark in the batch that points into one of
them only ends that decoration there.

`decoration?_release` says which decorations a batch that is taken off ends, `attached_released`
what it leaves in the document asked, and `annotations_drop` and `annotations_keep` what is then
kept.
-/

namespace Marginalia

open Annotation (mark_numbered numbered)

/-! ## One document -/

namespace Document

/-- Document `i` after document `n` has been asked to take a decoration off. -/
def removed (i n : Nat) (mark : Mark) (d : Document) : Document :=
  if mark.document = i then
    if i = n then d.detach mark.number else d.deactivate mark.number
  else d

section
variable (i n : Nat) (mark : Mark)

theorem redecorated_removed (d : Document) : Redecorated d (d.removed i n mark) := by
  unfold removed
  split
  · split
    · exact redecorated_detach d mark.number
    · exact redecorated_deactivate d mark.number
  · exact Redecorated.refl d

theorem decoration?_removed {d : Document} (h : d.Tidy) (k : Nat) :
    (d.removed i n mark).decoration? k
      = if mark = ⟨i, k⟩ then (d.decoration? k).map Decoration.retired else d.decoration? k := by
  obtain ⟨m, j⟩ := mark
  unfold removed
  by_cases hm : m = i
  · subst hm
    simp only [if_true, Mark.mk.injEq, true_and]
    split
    · rw [decoration?_detach h]
      by_cases hk : k = j
      · simp [hk]
      · simp [hk, Ne.symm hk]
    · rw [decoration?_deactivate h]
      by_cases hk : k = j
      · simp [hk]
      · simp [hk, Ne.symm hk]
  · simp [hm]

end

theorem attached_removed (n : Nat) (mark : Mark) (d : Document) :
    (d.removed n n mark).attached
      = d.attached.filter fun entry => (⟨n, entry.1⟩ : Mark) != mark := by
  obtain ⟨m, j⟩ := mark
  unfold removed
  by_cases hm : m = n
  · subst hm
    rw [if_pos rfl, if_pos rfl, attached_detach]
    apply List.filter_congr
    intro entry _
    rw [Bool.eq_iff_iff]
    simp
  · rw [if_neg hm]
    symm
    apply List.filter_eq_self.mpr
    intro entry _
    simp [Ne.symm hm]

/-- Document `i` after document `n` has been asked to take off the decorations of annotations. -/
def released (i n : Nat) (batch : List Annotation) (d : Document) : Document :=
  batch.foldl (fun d a => d.removed i n a.mark) d

section
variable (i n : Nat) (batch : List Annotation)

theorem redecorated_released (d : Document) : Redecorated d (d.released i n batch) := by
  induction batch generalizing d with
  | nil => exact Redecorated.refl d
  | cons a rest ih => exact (redecorated_removed i n a.mark d).trans (ih _)

theorem decoration?_released {d : Document} (h : d.Tidy) (k : Nat) :
    (d.released i n batch).decoration? k
      = if (⟨i, k⟩ : Mark) ∈ batch.map Annotation.mark then
          (d.decoration? k).map Decoration.retired
        else d.decoration? k := by
  induction batch generalizing d with
  | nil => simp [released]
  | cons a rest ih =>
    show ((d.removed i n a.mark).released i n rest).decoration? k = _
    rw [ih ((redecorated_removed i n a.mark d).tidy h), decoration?_removed i n a.mark h]
    simp only [List.map_cons, List.mem_cons]
    by_cases ha : a.mark = ⟨i, k⟩
    · cases d.decoration? k with
      | none => simp
      | some x => simp [ha]
    · have ha' : (⟨i, k⟩ : Mark) ≠ a.mark := Ne.symm ha
      simp [ha, ha']

end

theorem attached_released (n : Nat) (batch : List Annotation) (d : Document) :
    (d.released n n batch).attached
      = d.attached.filter fun entry => !(batch.map Annotation.mark).contains ⟨n, entry.1⟩ := by
  induction batch generalizing d with
  | nil => exact (List.filter_eq_self.mpr fun _ _ => rfl).symm
  | cons a rest ih =>
    show ((d.removed n n a.mark).released n n rest).attached = _
    rw [ih, attached_removed, List.filter_filter]
    apply List.filter_congr
    intro entry _
    rw [List.map_cons, List.contains_cons, Bool.not_or, Bool.and_comm]
    rfl

theorem numbers_released_self (n : Nat) (batch : List Annotation) (d : Document) :
    (d.released n n batch).numbers
      = d.numbers.filter fun k => !(batch.map Annotation.mark).contains ⟨n, k⟩ := by
  unfold numbers
  rw [attached_released, List.filter_map]
  rfl

/-- A document that no annotation points into stays as it is. -/
theorem released_of_forall_ne {i : Nat} {batch : List Annotation}
    (h : ∀ a ∈ batch, a.mark.document ≠ i) (n : Nat) (d : Document) :
    d.released i n batch = d := by
  induction batch with
  | nil => rfl
  | cons a rest ih =>
    show (d.removed i n a.mark).released i n rest = d
    rw [removed, if_neg (h a List.mem_cons_self)]
    exact ih fun b hb => h b (List.mem_cons_of_mem a hb)

end Document

/-! ## All documents -/

namespace Documents

/-- All documents are tidy. -/
def Tidy (docs : Documents) : Prop :=
  ∀ d ∈ (docs : List Document), d.Tidy

/-- There is such a decoration, attached or not. -/
def Numbered (docs : Documents) (mark : Mark) : Prop :=
  ∃ d, (docs : List Document)[mark.document]? = some d ∧ mark.number < d.count

/-- The decoration is on the text of its document. -/
def Attached (docs : Documents) (mark : Mark) : Prop :=
  ∃ d, (docs : List Document)[mark.document]? = some d ∧ mark.number ∈ d.numbers

/-- Each document is a later state of what it was. -/
structure Evolve (docs docs' : Documents) : Prop where
  length_eq : docs'.length = docs.length
  evolves : ∀ {i : Nat} {d d' : Document}, (docs : List Document)[i]? = some d →
    (docs' : List Document)[i]? = some d' → d.Evolves d'

section
variable {docs docs' : Documents}

theorem Tidy.numbered_iff (h : docs.Tidy) (mark : Mark) :
    docs.Numbered mark ↔ ∃ x, docs.decoration? mark = some x := by
  unfold Numbered decoration?
  cases hd : (docs : List Document)[mark.document]? with
  | none => simp
  | some d =>
    have ht : d.Tidy := h d (List.mem_of_getElem? hd)
    simp [ht.lt_count_iff]

theorem Tidy.numbered (h : docs.Tidy) {mark : Mark} (ha : docs.Attached mark) :
    docs.Numbered mark := by
  obtain ⟨d, hd, hmem⟩ := ha
  exact ⟨d, hd, (h d (List.mem_of_getElem? hd)).lt_count hmem⟩

/-- Whatever has a number and is not attached is not active. -/
theorem Tidy.not_active (h : docs.Tidy) {mark : Mark} (hn : docs.Numbered mark)
    (ha : ¬ docs.Attached mark) : ∃ x, docs.decoration? mark = some x ∧ x.active = false := by
  obtain ⟨x, hx⟩ := (h.numbered_iff mark).mp hn
  obtain ⟨d, hd, -⟩ := hn
  have hx' : d.decoration? mark.number = some x := by
    unfold decoration? at hx
    rw [hd] at hx
    exact hx
  refine ⟨x, hx, (h d (List.mem_of_getElem? hd)).not_active hx' fun hmem => ha ⟨d, hd, hmem⟩⟩

namespace Evolve

theorem refl (docs : Documents) : docs.Evolve docs := by
  refine ⟨rfl, fun {i d d'} hd hd' => ?_⟩
  cases hd.symm.trans hd'
  exact Document.Evolves.refl d

theorem exists_of (h : docs.Evolve docs') {i : Nat} {d : Document}
    (hd : (docs : List Document)[i]? = some d) :
    ∃ d', (docs' : List Document)[i]? = some d' ∧ d.Evolves d' := by
  have hlt : i < docs'.length := h.length_eq ▸ (List.getElem?_eq_some_iff.mp hd).1
  exact ⟨docs'[i], List.getElem?_eq_getElem hlt, h.evolves hd (List.getElem?_eq_getElem hlt)⟩

theorem exists_of' (h : docs.Evolve docs') {i : Nat} {d' : Document}
    (hd' : (docs' : List Document)[i]? = some d') :
    ∃ d, (docs : List Document)[i]? = some d ∧ d.Evolves d' := by
  have hlt : i < docs.length := h.length_eq ▸ (List.getElem?_eq_some_iff.mp hd').1
  exact ⟨docs[i], List.getElem?_eq_getElem hlt, h.evolves (List.getElem?_eq_getElem hlt) hd'⟩

theorem trans {docs'' : Documents} (h : docs.Evolve docs') (h' : docs'.Evolve docs'') :
    docs.Evolve docs'' := by
  refine ⟨h'.length_eq.trans h.length_eq, fun {i d d''} hd hd'' => ?_⟩
  obtain ⟨d', hd', he⟩ := h.exists_of hd
  exact he.trans (h'.evolves hd' hd'')

theorem tidy (h : docs.Evolve docs') (ht : docs.Tidy) : docs'.Tidy := by
  intro d' hmem
  obtain ⟨i, hd'⟩ := List.mem_iff_getElem?.mp hmem
  obtain ⟨d, hd, he⟩ := h.exists_of' hd'
  exact he.tidy (ht d (List.mem_of_getElem? hd))

theorem numbered (h : docs.Evolve docs') {mark : Mark} (hn : docs.Numbered mark) :
    docs'.Numbered mark := by
  obtain ⟨d, hd, hlt⟩ := hn
  obtain ⟨d', hd', he⟩ := h.exists_of hd
  exact ⟨d', hd', Nat.lt_of_lt_of_le hlt he.count_le⟩

/-- What has a number is attached later only if it is attached now. -/
theorem attached (h : docs.Evolve docs') {mark : Mark} (hn : docs.Numbered mark)
    (ha : docs'.Attached mark) : docs.Attached mark := by
  obtain ⟨d, hd, hlt⟩ := hn
  obtain ⟨d', hd', hmem⟩ := ha
  refine ⟨d, hd, ?_⟩
  rcases (h.evolves hd hd').numbers_or _ hmem with hmem | hle
  · exact hmem
  · exact absurd hlt (Nat.not_lt.mpr hle)

theorem set {i : Nat} {d d' : Document} (hd : (docs : List Document)[i]? = some d)
    (he : d.Evolves d') : Evolve docs (List.set docs i d') := by
  refine ⟨List.length_set, fun {j e e'} hj hj' => ?_⟩
  rw [List.getElem?_set] at hj'
  by_cases hij : i = j
  · subst hij
    have hlt := (List.getElem?_eq_some_iff.mp hd).1
    rw [if_pos rfl, if_pos hlt] at hj'
    cases hj'
    cases hd.symm.trans hj
    exact he
  · rw [if_neg hij] at hj'
    cases hj.symm.trans hj'
    exact Document.Evolves.refl e

/-- It is enough to know what becomes of the document of each number. -/
theorem of_map (f : Nat → Document → Document)
    (h : ∀ i, (docs' : List Document)[i]? = (docs : List Document)[i]?.map (f i))
    (he : ∀ i d, Document.Evolves d (f i d)) : docs.Evolve docs' := by
  have hnone : ∀ i, docs'.length ≤ i ↔ docs.length ≤ i := by
    intro i
    rw [← List.getElem?_eq_none_iff, ← List.getElem?_eq_none_iff, h i, Option.map_eq_none_iff]
  refine ⟨Nat.le_antisymm ?_ ?_, fun {i d d'} hd hd' => ?_⟩
  · exact (hnone _).mpr (Nat.le_refl _)
  · exact (hnone _).mp (Nat.le_refl _)
  · rw [h i, hd] at hd'
    cases hd'
    exact he i d

end Evolve
end

/-! ## Taking decorations off -/

section
variable (docs : Documents) (n : Nat)

theorem getElem?_remove (mark : Mark) (i : Nat) :
    (docs.remove n mark : List Document)[i]?
      = (docs : List Document)[i]?.map (Document.removed i n mark) := by
  unfold remove
  by_cases hn : mark.document = n
  · rw [if_pos hn, List.getElem?_modify]
    cases (docs : List Document)[i]? with
    | none => rfl
    | some d =>
      by_cases hi : n = i
      · simp [Document.removed, hn, hi]
      · simp [Document.removed, hn, hi]
  · rw [if_neg hn, List.getElem?_modify]
    cases (docs : List Document)[i]? with
    | none => rfl
    | some d =>
      by_cases hi : mark.document = i
      · have hne : i ≠ n := hi ▸ hn
        simp [Document.removed, hi, hne]
      · simp [Document.removed, hi]

theorem remove_eq_set {docs : Documents} {n : Nat} {d : Document} {mark : Mark}
    (hd : (docs : List Document)[n]? = some d) (hn : mark.document = n) :
    docs.remove n mark = List.set docs n (d.detach mark.number) := by
  unfold remove
  rw [if_pos hn]
  apply List.ext_getElem?
  intro i
  rw [List.getElem?_modify, List.getElem?_set]
  by_cases hi : n = i
  · subst hi
    rw [if_pos rfl, if_pos (List.getElem?_eq_some_iff.mp hd).1, hd]
    simp
  · rw [if_neg hi]
    cases (docs : List Document)[i]? with
    | none => rfl
    | some e => simp [hi]

theorem evolve_remove (mark : Mark) : docs.Evolve (docs.remove n mark) :=
  Evolve.of_map _ (docs.getElem?_remove n mark)
    fun i d => (Document.redecorated_removed i n mark d).toEvolves

theorem getElem?_release (batch : List Annotation) (i : Nat) :
    (Store.release docs n batch : List Document)[i]?
      = (docs : List Document)[i]?.map (Document.released i n batch) := by
  induction batch generalizing docs with
  | nil =>
    show (docs : List Document)[i]? = (docs : List Document)[i]?.map id
    rw [Option.map_id]
    rfl
  | cons a rest ih =>
    show (Store.release (docs.remove n a.mark) n rest : List Document)[i]? = _
    rw [ih, getElem?_remove, Option.map_map]
    rfl

/-- A batch whose marks all point into the document asked concerns no other one. -/
theorem release_eq_set {docs : Documents} {n : Nat} {d : Document} {batch : List Annotation}
    (hd : (docs : List Document)[n]? = some d) (h : ∀ a ∈ batch, a.mark.document = n) :
    Store.release docs n batch = List.set docs n (d.released n n batch) := by
  apply List.ext_getElem?
  intro i
  rw [getElem?_release, List.getElem?_set]
  by_cases hi : n = i
  · subst hi
    rw [if_pos rfl, if_pos (List.getElem?_eq_some_iff.mp hd).1, hd]
    rfl
  · rw [if_neg hi]
    cases (docs : List Document)[i]? with
    | none => rfl
    | some e =>
      have hne : ∀ a ∈ batch, a.mark.document ≠ i := fun a ha => h a ha ▸ hi
      exact congrArg some (Document.released_of_forall_ne hne n e)

theorem evolve_release (batch : List Annotation) : docs.Evolve (Store.release docs n batch) :=
  Evolve.of_map _ (docs.getElem?_release n batch)
    fun i d => (Document.redecorated_released i n batch d).toEvolves

/-- A batch that is taken off ends its decorations and no other ones. -/
theorem Tidy.decoration?_release {docs : Documents} (h : docs.Tidy) (n : Nat)
    (batch : List Annotation) (mark : Mark) :
    (Store.release docs n batch).decoration? mark
      = if mark ∈ batch.map Annotation.mark then
          (docs.decoration? mark).map Decoration.retired
        else docs.decoration? mark := by
  unfold decoration?
  rw [getElem?_release]
  cases hd : (docs : List Document)[mark.document]? with
  | none => simp
  | some d =>
    exact Document.decoration?_released mark.document n batch (h d (List.mem_of_getElem? hd)) _

end

/-! ## Showing diagnostics -/

/-- What has a number keeps its decoration when others are attached. -/
theorem Tidy.decoration?_set_attachAll {docs : Documents} (h : docs.Tidy) {n : Nat} {d : Document}
    (hd : (docs : List Document)[n]? = some d) (fresh : List Decoration) {mark : Mark}
    (hmark : docs.Numbered mark) :
    Documents.decoration? (List.set docs n (d.attachAll fresh)) mark = docs.decoration? mark := by
  obtain ⟨e, he, hlt⟩ := hmark
  unfold decoration?
  rw [List.getElem?_set]
  by_cases hn : n = mark.document
  · subst hn
    cases hd.symm.trans he
    rw [if_pos rfl, if_pos (List.getElem?_eq_some_iff.mp hd).1, hd]
    exact Document.decoration?_attachAll (h d (List.mem_of_getElem? hd)) hlt fresh
  · rw [if_neg hn]

/-- The documents after diagnostics have been shown in document `n`, and the annotations. -/
inductive Shows (docs : Documents) (n : Nat) : Documents → List Annotation → Prop
  /-- There was nothing to be shown. -/
  | nothing : Shows docs n docs []
  /-- Each diagnostic has its decoration. -/
  | placed {d : Document} {placed : List (Diagnostic × Decoration)} :
      (docs : List Document)[n]? = some d → (∀ p ∈ placed, p.2.active = true) →
      Shows docs n (List.set docs n (d.attachAll (placed.map Prod.snd)))
        (numbered n d.count placed)

section
variable {docs docs' : Documents} {n : Nat} {batch : List Annotation}

theorem shows_of_render {style : Style} {xs : List Diagnostic}
    (h : Store.render docs n style xs = .ok (docs', batch)) : docs.Shows n docs' batch := by
  unfold Store.render at h
  cases hd : (docs : List Document)[n]? with
  | none =>
    rw [hd] at h
    cases h
    exact .nothing
  | some d =>
    rw [hd] at h
    cases hlook : style.toText? with
    | none =>
      simp only [hlook] at h
      split at h
      · cases h
      · cases h
        exact .nothing
    | some look =>
      simp only [hlook, Annotation.render_eq] at h
      cases h
      exact .placed hd fun p hp => Annotation.active_placed hp

theorem Shows.evolve (h : docs.Shows n docs' batch) : docs.Evolve docs' := by
  cases h with
  | nothing => exact Evolve.refl docs
  | placed hd _ => exact Evolve.set hd (Document.redecorated_attachAll _ _).toEvolves

theorem Shows.numbered (h : docs.Shows n docs' batch) {a : Annotation} (ha : a ∈ batch) :
    docs'.Numbered a.mark := by
  cases h with
  | nothing => cases ha
  | @placed d placed hd _ =>
    have hmark : a.mark ∈ (numbered n d.count placed).map Annotation.mark :=
      List.mem_map_of_mem ha
    rw [mark_numbered] at hmark
    obtain ⟨k, hk, hmark⟩ := List.mem_map.mp hmark
    have hlt := (List.getElem?_eq_some_iff.mp hd).1
    refine ⟨d.attachAll (placed.map Prod.snd), ?_, ?_⟩
    · rw [← hmark]
      exact List.getElem?_set_self hlt
    · rw [← hmark]
      simpa [Document.attachAll] using (List.mem_range'_1.mp hk).2

/-- What is shown is new. -/
theorem Shows.not_numbered (h : docs.Shows n docs' batch) {mark : Mark}
    (hmark : mark ∈ batch.map Annotation.mark) : ¬ docs.Numbered mark := by
  cases h with
  | nothing => cases hmark
  | placed hd _ =>
    rw [mark_numbered] at hmark
    obtain ⟨k, hk, rfl⟩ := List.mem_map.mp hmark
    rintro ⟨d, hd', hlt⟩
    cases hd.symm.trans hd'
    exact Nat.not_lt.mpr (List.mem_range'_1.mp hk).1 hlt

end

end Documents

/-! ## What a store keeps -/

namespace Store

/-- The store with a batch in the place of what it keeps under a name. -/
def keep (s : Store) (id : Text) (batch : List Annotation) : Store :=
  ⟨(id, batch) :: (s.drop id).batches⟩

theorem drop_drop (s : Store) (id : Text) : (s.drop id).drop id = s.drop id := by
  unfold drop
  simp

theorem keep_drop (s : Store) (id : Text) (batch : List Annotation) :
    (s.drop id).keep id batch = s.keep id batch := by
  unfold keep
  rw [drop_drop]

/-- The marks of the annotations of a document. -/
def marks (s : Store) (id : Text) : List Mark :=
  (s.annotations id).map Annotation.mark

theorem annotations_drop (s : Store) (id name : Text) :
    (s.drop id).annotations name = if name = id then [] else s.annotations name := by
  unfold annotations drop
  show ((s.batches.filter fun batch => batch.1 != id).lookup name).getD [] = _
  rw [lookup_filter_ne]
  by_cases h : name = id
  · simp [h]
  · simp [h]

theorem annotations_keep (s : Store) (id : Text) (batch : List Annotation) (name : Text) :
    (s.keep id batch).annotations name = if name = id then batch else s.annotations name := by
  unfold annotations keep
  rw [List.lookup_cons]
  by_cases h : name = id
  · simp [h]
  · have hdrop := s.annotations_drop id name
    unfold annotations at hdrop
    simp only [beq_false_of_ne h, hdrop, if_neg h]

theorem install_eq (s : Store) (id : Text) (batch : List Annotation) :
    s.install id batch =
      if (s.annotations id).isEmpty then .ok (s.keep id batch) else .error ⟨id⟩ := rfl

/-- After a clear nothing is in the way of a batch. -/
theorem install_drop (s : Store) (id : Text) (batch : List Annotation) :
    (s.drop id).install id batch = .ok (s.keep id batch) := by
  rw [install_eq, annotations_drop, if_pos rfl, keep_drop]
  rfl

theorem mem_drop {s : Store} {id : Text} {entry : Text × List Annotation}
    (h : entry ∈ (s.drop id).batches) : entry ∈ s.batches :=
  (List.mem_filter.mp h).1

theorem mem_keep {s : Store} {id : Text} {batch : List Annotation}
    {entry : Text × List Annotation} (h : entry ∈ (s.keep id batch).batches) :
    entry = (id, batch) ∨ entry ∈ s.batches := by
  rcases List.mem_cons.mp h with h | h
  · exact .inl h
  · exact .inr (mem_drop h)

/-- What a store keeps under a name is one of its batches. -/
theorem mem_batches {s : Store} {id : Text} {a : Annotation} (h : a ∈ s.annotations id) :
    (id, s.annotations id) ∈ s.batches := by
  unfold annotations at h ⊢
  cases hl : s.batches.lookup id with
  | none => simp [hl] at h
  | some batch => exact mem_of_lookup hl

end Store

end Marginalia

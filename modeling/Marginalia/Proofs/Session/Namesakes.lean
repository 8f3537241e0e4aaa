import Marginalia.Proofs.Session.Orderly

/-!
# Namesakes

Two documents may be known by the same name, and the shared store then keeps one batch for both.
What is taken off for one of them is asked of that document only, so that decorations on the other
one stay where they are and are no longer active.

A desk is *faithful* if a decoration is active exactly as long as the store keeps it, what is kept
under a name is attached to a document of that name, and on a document that has its name to itself
nothing else is attached.  Every deed of orderly steps keeps it so, whatever names documents have.

The main statement is `active_while_kept`: what holds for all documents, and what more holds for a
document that has its name to itself.  `forget_strands_namesake` says that the rest fails for two
documents that are opened on the same path.
-/

namespace Marginalia

open Annotation (mark_numbered numbered)

/-! ## Single documents -/

namespace Document

/-- A document that is not asked keeps what is attached to it. -/
theorem numbers_released_of_ne {i n : Nat} (h : i ≠ n) (batch : List Annotation) (d : Document) :
    (d.released i n batch).numbers = d.numbers := by
  induction batch generalizing d with
  | nil => rfl
  | cons a rest ih =>
    show ((d.removed i n a.mark).released i n rest).numbers = _
    rw [ih]
    unfold removed
    split
    · rw [numbers_deactivate]
    · rfl

/-- What is put on is as active as it is told to be. -/
theorem active_of_attachAll {d : Document} (h : d.Tidy) {fresh : List Decoration}
    (hfresh : ∀ x ∈ fresh, x.active = true) {k : Nat} {x : Decoration} (hk : d.count ≤ k)
    (hx : (d.attachAll fresh).decoration? k = some x) : x.active = true := by
  have hold : ∀ entry ∈ d.attached ++ d.detached, entry.1 ≠ k := by
    intro entry hentry heq
    have hlt := (h.lt_count_iff k).mpr ⟨entry.2, lookup_of_mem h.nodup (heq ▸ hentry)⟩
    omega
  rcases List.mem_append.mp (mem_of_lookup hx) with hmem | hmem
  · rcases List.mem_append.mp hmem with hmem | hmem
    · exact absurd rfl (hold _ (List.mem_append_left _ hmem))
    · obtain ⟨p, hp, heq⟩ := List.mem_map.mp hmem
      cases heq
      exact hfresh p.1 (List.fst_mem_of_mem_zipIdx hp)
  · exact absurd rfl (hold _ (List.mem_append_right _ hmem))

/-- An edit moves decorations and ends none. -/
theorem active_edited (d : Document) (text : Text) (move : Anchor → Anchor) (k : Nat) :
    ((d.edited text move).decoration? k).map Decoration.active
      = (d.decoration? k).map Decoration.active := by
  let moved (_ : Nat) (x : Decoration) : Decoration := { x with offset := move x.offset }
  have hmoved : (d.edited text move).attached.lookup k = (d.attached.lookup k).map (moved k) :=
    lookup_map moved d.attached k
  unfold decoration?
  rw [List.lookup_append, List.lookup_append, hmoved]
  cases d.attached.lookup k with
  | none => rfl
  | some x => rfl

end Document

namespace Documents

/-- No other document has the name of the one of that number. -/
def Sole (docs : Documents) (n : Nat) : Prop :=
  ∀ (i : Nat) (d e : Document), (docs : List Document)[n]? = some d →
    (docs : List Document)[i]? = some e → e.id = d.id → i = n

/-- Documents keep their names. -/
theorem Evolve.sole_iff {docs docs' : Documents} {n : Nat} (h : docs.Evolve docs') :
    docs'.Sole n ↔ docs.Sole n := by
  constructor
  · intro hs i d e hd he hid
    obtain ⟨d', hd', hevolves⟩ := h.exists_of hd
    obtain ⟨e', he', hevolves'⟩ := h.exists_of he
    exact hs i d' e' hd' he' (hevolves'.id_eq.trans (hid.trans hevolves.id_eq.symm))
  · intro hs i d' e' hd' he' hid
    obtain ⟨d, hd, hevolves⟩ := h.exists_of' hd'
    obtain ⟨e, he, hevolves'⟩ := h.exists_of' he'
    exact hs i d e hd he (hevolves'.id_eq.symm.trans (hid.trans hevolves.id_eq))

/-- A change of a document that leaves its decorations on leaves all of them on. -/
theorem attached_set_iff {docs : Documents} {n : Nat} {d d' : Document}
    (hd : (docs : List Document)[n]? = some d) (hnumbers : d'.numbers = d.numbers) (mark : Mark) :
    Attached (List.set docs n d') mark ↔ docs.Attached mark := by
  unfold Attached
  by_cases hn : n = mark.document
  · subst hn
    rw [List.getElem?_set_self (List.getElem?_eq_some_iff.mp hd).1, hd]
    simp [hnumbers]
  · rw [List.getElem?_set_ne hn]

/-- A batch that is taken off leaves on what is not part of it and what lies on other documents. -/
theorem attached_release_iff (docs : Documents) (n : Nat) (batch : List Annotation) (mark : Mark) :
    (Store.release docs n batch).Attached mark
      ↔ docs.Attached mark ∧ (mark.document = n → mark ∉ batch.map Annotation.mark) := by
  obtain ⟨i, j⟩ := mark
  unfold Attached
  rw [getElem?_release]
  cases hd : (docs : List Document)[i]? with
  | none => simp
  | some d =>
    by_cases hi : i = n
    · subst hi
      simp [Document.numbers_released_self]
    · simp [Document.numbers_released_of_ne hi, hi]

section
variable {docs docs' : Documents} {n : Nat} {batch : List Annotation}

/-- The marks of a batch that is shown belong to the decorations that are put on. -/
theorem mem_mark_numbered {start count : Nat} {placed : List (Diagnostic × Decoration)}
    (hcount : placed.length = count) {mark : Mark} :
    mark ∈ (numbered n start placed).map Annotation.mark
      ↔ mark.document = n ∧ start ≤ mark.number ∧ mark.number < start + count := by
  obtain ⟨i, j⟩ := mark
  rw [mark_numbered, hcount, List.mem_map]
  simp only [List.mem_range'_1, Mark.mk.injEq]
  constructor
  · rintro ⟨k, hk, rfl, rfl⟩
    exact ⟨rfl, hk⟩
  · rintro ⟨rfl, hk⟩
    exact ⟨j, hk, rfl, rfl⟩

/-- What is shown is attached to the document it is shown in. -/
theorem Shows.attached (h : docs.Shows n docs' batch) {mark : Mark}
    (hmark : mark ∈ batch.map Annotation.mark) :
    mark.document = n ∧ docs'.Attached mark := by
  cases h with
  | nothing => cases hmark
  | @placed d placed hd _ =>
    obtain ⟨rfl, hle, hlt⟩ := (mem_mark_numbered rfl).mp hmark
    refine ⟨rfl, d.attachAll (placed.map Prod.snd), ?_, ?_⟩
    · exact List.getElem?_set_self (List.getElem?_eq_some_iff.mp hd).1
    · rw [Document.numbers_attachAll, List.length_map]
      exact List.mem_append_right _ (List.mem_range'_1.mpr ⟨hle, hlt⟩)

/-- What is attached stays so when diagnostics are shown. -/
theorem Shows.still_attached (h : docs.Shows n docs' batch) {mark : Mark}
    (hmark : docs.Attached mark) : docs'.Attached mark := by
  obtain ⟨e, he, hmem⟩ := hmark
  cases h with
  | nothing => exact ⟨e, he, hmem⟩
  | @placed d placed hd _ =>
    by_cases hn : n = mark.document
    · subst hn
      cases hd.symm.trans he
      refine ⟨e.attachAll (placed.map Prod.snd), ?_, ?_⟩
      · exact List.getElem?_set_self (List.getElem?_eq_some_iff.mp hd).1
      · rw [Document.numbers_attachAll]
        exact List.mem_append_left _ hmem
    · exact ⟨e, (List.getElem?_set_ne hn).trans he, hmem⟩

/-- What has a number keeps its decoration when diagnostics are shown. -/
theorem Shows.decoration?_eq (h : docs.Shows n docs' batch) (ht : docs.Tidy) {mark : Mark}
    (hmark : docs.Numbered mark) : docs'.decoration? mark = docs.decoration? mark := by
  cases h with
  | nothing => rfl
  | placed hd _ => exact ht.decoration?_set_attachAll hd _ hmark

/-- What gets a number when diagnostics are shown is one of theirs, and active. -/
theorem Shows.active_of_new (h : docs.Shows n docs' batch) (ht : docs.Tidy) {mark : Mark}
    (hmark : ¬ docs.Numbered mark) {x : Decoration} (hx : docs'.decoration? mark = some x) :
    mark ∈ batch.map Annotation.mark ∧ x.active = true := by
  cases h with
  | nothing => exact absurd ((ht.numbered_iff mark).mpr ⟨x, hx⟩) hmark
  | @placed d placed hd hplaced =>
    have hself := List.getElem?_set_self (a := d.attachAll (placed.map Prod.snd))
      (List.getElem?_eq_some_iff.mp hd).1
    have hfresh : ∀ x ∈ placed.map Prod.snd, x.active = true := by
      intro x hx
      obtain ⟨p, hp, rfl⟩ := List.mem_map.mp hx
      exact hplaced p hp
    have htidy := ht d (List.mem_of_getElem? hd)
    by_cases hn : mark.document = n
    · subst hn
      have hle : d.count ≤ mark.number := Nat.le_of_not_lt fun hlt => hmark ⟨d, hd, hlt⟩
      unfold decoration? at hx
      rw [hself] at hx
      have hlt := ((htidy.attachAll (placed.map Prod.snd)).lt_count_iff mark.number).mpr ⟨x, hx⟩
      have hlt : mark.number < d.count + placed.length := by
        simpa [Document.attachAll] using hlt
      exact ⟨(mem_mark_numbered rfl).mpr ⟨rfl, hle, hlt⟩,
        Document.active_of_attachAll htidy hfresh hle hx⟩
    · unfold decoration? at hx
      rw [List.getElem?_set_ne (Ne.symm hn)] at hx
      exact absurd ((ht.numbered_iff mark).mpr ⟨x, hx⟩) hmark

end

end Documents

namespace Store

theorem marks_drop (s : Store) (id name : Text) :
    (s.drop id).marks name = if name = id then [] else s.marks name := by
  unfold marks
  rw [annotations_drop]
  split
  · rfl
  · rfl

theorem marks_keep (s : Store) (id : Text) (batch : List Annotation) (name : Text) :
    (s.keep id batch).marks name
      = if name = id then batch.map Annotation.mark else s.marks name := by
  unfold marks
  rw [annotations_keep]
  split
  · rfl
  · rfl

end Store

namespace Session

/-! ## Faithful desks -/

/-- The shared store keeps an annotation that is shown by a decoration. -/
def Desk.Keeps (k : Desk) (mark : Mark) : Prop :=
  ∃ name, mark ∈ k.shared.marks name

/-- Decorations are active as long as they are kept, and kept for documents that they are on. -/
structure Faithful (k : Desk) : Prop where
  tidy : k.documents.Tidy
  kept : ∀ (name : Text) (mark : Mark), mark ∈ k.shared.marks name →
    k.documents.Attached mark ∧
      ∃ d, (k.documents : List Document)[mark.document]? = some d ∧ d.id = name
  active_iff : ∀ (mark : Mark) (x : Decoration), k.documents.decoration? mark = some x →
    (x.active = true ↔ k.Keeps mark)
  sole : ∀ mark : Mark, k.documents.Sole mark.document → k.documents.Attached mark →
    k.Keeps mark

section
variable {k : Desk} {n : Nat} {d : Document}

/-- What is kept for a document lies on documents of its name. -/
theorem Faithful.id_of_mem (h : Faithful k) {name : Text} {mark : Mark}
    (hmark : mark ∈ k.shared.marks name)
    (hd : (k.documents : List Document)[mark.document]? = some d) : d.id = name := by
  obtain ⟨-, e, he, hid⟩ := h.kept name mark hmark
  cases hd.symm.trans he
  exact hid

/-- A document may change as long as its decorations stay on and as active as they were. -/
theorem Faithful.set (h : Faithful k) (hd : (k.documents : List Document)[n]? = some d)
    {d' : Document} (he : d.Evolves d') (hnumbers : d'.numbers = d.numbers)
    (hactive : ∀ j, (d'.decoration? j).map Decoration.active
      = (d.decoration? j).map Decoration.active) :
    Faithful { k with documents := List.set k.documents n d' } := by
  have hevolve := Documents.Evolve.set hd he
  have hself := List.getElem?_set_self (a := d') (List.getElem?_eq_some_iff.mp hd).1
  have hattached := Documents.attached_set_iff hd hnumbers
  refine ⟨hevolve.tidy h.tidy, fun name mark hmark => ?_, fun mark x hx => ?_,
    fun mark hsole hmark => ?_⟩
  · obtain ⟨hon, e, he, hid⟩ := h.kept name mark hmark
    obtain ⟨e', he', hevolves⟩ := hevolve.exists_of he
    exact ⟨(hattached mark).mpr hon, e', he', hevolves.id_eq.trans hid⟩
  · have hsame : (Documents.decoration? (List.set k.documents n d') mark).map Decoration.active
        = (k.documents.decoration? mark).map Decoration.active := by
      unfold Documents.decoration?
      by_cases hn : n = mark.document
      · subst hn
        rw [hself, hd]
        exact hactive mark.number
      · rw [List.getElem?_set_ne hn]
    rw [hx] at hsame
    obtain ⟨y, hy, hactive'⟩ := Option.map_eq_some_iff.mp hsame.symm
    rw [← hactive']
    exact h.active_iff mark y hy
  · exact h.sole mark (hevolve.sole_iff.mp hsole) ((hattached mark).mp hmark)

/-! ## Batches taken off -/

/-- What is kept after a batch has been taken off. -/
theorem Faithful.keeps_clear_iff (h : Faithful k) {st : Store} (hst : k.stores[0]? = some st)
    (docs : Documents) (id : Text) (mark : Mark) :
    Desk.Keeps { k with documents := docs, stores := k.stores.set 0 (st.drop id) } mark
      ↔ k.Keeps mark ∧ mark ∉ k.shared.marks id := by
  unfold Desk.Keeps
  simp only [Desk.shared_set hst, Store.marks_drop, ← Desk.shared_eq hst]
  constructor
  · rintro ⟨name, hmark⟩
    split at hmark
    · cases hmark
    · next hname =>
      refine ⟨⟨name, hmark⟩, fun hmark' => hname ?_⟩
      obtain ⟨-, e, he, rfl⟩ := h.kept name mark hmark
      exact h.id_of_mem hmark' he
  · rintro ⟨⟨name, hmark⟩, hnot⟩
    refine ⟨name, ?_⟩
    rw [if_neg fun hname : name = id => hnot (hname ▸ hmark)]
    exact hmark

theorem Faithful.clear (h : Faithful k) (hd : (k.documents : List Document)[n]? = some d)
    {st : Store} (hst : k.stores[0]? = some st) :
    Faithful { k with
      documents := Store.release k.documents n (st.annotations d.id)
      stores := k.stores.set 0 (st.drop d.id) } := by
  have hbatch : (st.annotations d.id).map Annotation.mark = k.shared.marks d.id := by
    rw [Desk.shared_eq hst]
    rfl
  have hevolve := k.documents.evolve_release n (st.annotations d.id)
  have hattached := k.documents.attached_release_iff n (st.annotations d.id)
  have hkeeps := h.keeps_clear_iff hst (Store.release k.documents n (st.annotations d.id)) d.id
  rw [hbatch] at hattached
  refine ⟨hevolve.tidy h.tidy, fun name mark hmark => ?_, fun mark x hx => ?_,
    fun mark hsole hmark => ?_⟩
  · obtain ⟨-, hnot⟩ := (hkeeps mark).mp ⟨name, hmark⟩
    rw [Desk.shared_set hst, Store.marks_drop, ← Desk.shared_eq hst] at hmark
    split at hmark
    · cases hmark
    · obtain ⟨hon, e, he, hid⟩ := h.kept name mark hmark
      obtain ⟨e', he', hevolves⟩ := hevolve.exists_of he
      exact ⟨(hattached mark).mpr ⟨hon, fun _ => hnot⟩, e', he', hevolves.id_eq.trans hid⟩
  · rw [hkeeps mark]
    have hx : (Store.release k.documents n (st.annotations d.id)).decoration? mark = some x := hx
    rw [h.tidy.decoration?_release, hbatch] at hx
    split at hx
    · next hmem =>
      obtain ⟨y, -, rfl⟩ := Option.map_eq_some_iff.mp hx
      exact ⟨(fun hactive => nomatch hactive), fun hkept => absurd hmem hkept.2⟩
    · next hmem =>
      rw [h.active_iff mark x hx]
      exact ⟨fun hkept => ⟨hkept, hmem⟩, And.left⟩
  · rw [hkeeps mark]
    have hsole := hevolve.sole_iff.mp hsole
    obtain ⟨hon, hnot⟩ := (hattached mark).mp hmark
    refine ⟨h.sole mark hsole hon, fun hkept => hnot ?_ hkept⟩
    -- the batch lies on documents of that name, and there is but one
    obtain ⟨-, e, he, hid⟩ := h.kept d.id mark hkept
    exact (hsole n e d he hd hid.symm).symm

/-! ## Batches put on -/

/-- What is kept after a batch has been put on where nothing was kept. -/
theorem keeps_keep_iff {st : Store} (hst : k.stores[0]? = some st) {id : Text}
    (hnone : k.shared.marks id = []) (docs : Documents) (batch : List Annotation) (mark : Mark) :
    Desk.Keeps { k with documents := docs, stores := k.stores.set 0 (st.keep id batch) } mark
      ↔ k.Keeps mark ∨ mark ∈ batch.map Annotation.mark := by
  unfold Desk.Keeps
  simp only [Desk.shared_set hst, Store.marks_keep, ← Desk.shared_eq hst]
  constructor
  · rintro ⟨name, hmark⟩
    split at hmark
    · exact .inr hmark
    · exact .inl ⟨name, hmark⟩
  · rintro (⟨name, hmark⟩ | hmark)
    · refine ⟨name, ?_⟩
      rw [if_neg ?_]
      · exact hmark
      · rintro rfl
        rw [hnone] at hmark
        cases hmark
    · exact ⟨id, by rwa [if_pos rfl]⟩

theorem Faithful.keep (h : Faithful k) (hd : (k.documents : List Document)[n]? = some d)
    {st : Store} (hst : k.stores[0]? = some st) (hnone : k.shared.marks d.id = [])
    {docs : Documents} {batch : List Annotation} (hshows : k.documents.Shows n docs batch) :
    Faithful { k with documents := docs, stores := k.stores.set 0 (st.keep d.id batch) } := by
  have hevolve := hshows.evolve
  have hkeeps := keeps_keep_iff hst hnone docs batch
  refine ⟨hevolve.tidy h.tidy, fun name mark hmark => ?_, fun mark x hx => ?_,
    fun mark hsole hmark => ?_⟩
  · rw [Desk.shared_set hst, Store.marks_keep, ← Desk.shared_eq hst] at hmark
    split at hmark
    · next hname =>
      obtain ⟨hn, hon⟩ := hshows.attached hmark
      obtain ⟨d', hd', hevolves⟩ := hevolve.exists_of hd
      exact ⟨hon, d', hn ▸ hd', hevolves.id_eq.trans hname.symm⟩
    · obtain ⟨hon, e, he, hid⟩ := h.kept name mark hmark
      obtain ⟨e', he', hevolves⟩ := hevolve.exists_of he
      exact ⟨hshows.still_attached hon, e', he', hevolves.id_eq.trans hid⟩
  · rw [hkeeps mark]
    have hx : docs.decoration? mark = some x := hx
    by_cases hnumbered : k.documents.Numbered mark
    · have hnot : mark ∉ batch.map Annotation.mark := fun hmem =>
        hshows.not_numbered hmem hnumbered
      rw [hshows.decoration?_eq h.tidy hnumbered] at hx
      rw [h.active_iff mark x hx]
      exact ⟨.inl, fun hkept => hkept.resolve_right hnot⟩
    · obtain ⟨hmem, hactive⟩ := hshows.active_of_new h.tidy hnumbered hx
      exact ⟨fun _ => .inr hmem, fun _ => hactive⟩
  · rw [hkeeps mark]
    by_cases hnumbered : k.documents.Numbered mark
    · exact .inl (h.sole mark (hevolve.sole_iff.mp hsole) (hevolve.attached hnumbered hmark))
    · obtain ⟨x, hx⟩ := ((hevolve.tidy h.tidy).numbered_iff mark).mp
        ((hevolve.tidy h.tidy).numbered hmark)
      exact .inr (hshows.active_of_new h.tidy hnumbered hx).1

/-! ## Orderly deeds -/

theorem Faithful.replace (h : Faithful k) (hd : (k.documents : List Document)[n]? = some d)
    {st : Store} (hst : k.stores[0]? = some st) {docs : Documents} {batch : List Annotation}
    (hshows : (Store.release k.documents n (st.annotations d.id)).Shows n docs batch) :
    Faithful { k with documents := docs, stores := k.stores.set 0 (st.keep d.id batch) } := by
  have hcleared := h.clear hd hst
  have hget := k.documents.getElem?_release n (st.annotations d.id) n
  rw [hd] at hget
  have hid := (Document.redecorated_released n n (st.annotations d.id) d).id_eq
  have hlt := (List.getElem?_eq_some_iff.mp hst).1
  have hkept := hcleared.keep hget (List.getElem?_set_self hlt) ?_ hshows
  · simp only [hid, List.set_set, Store.keep_drop] at hkept
    exact hkept
  · rw [hid, Desk.shared_set hst, Store.marks_drop, if_pos rfl]

end

/-- Every orderly deed keeps a desk faithful. -/
theorem Does.faithful {on : Nat → Prop} {a : Deed} {k k' : Desk} (hdoes : Does a k k')
    (ha : a.Within on) (h : Faithful k) : Faithful k' := by
  cases hdoes with
  | aside => exact h
  | listen listeners hd =>
    exact h.set hd (Document.evolves_listeners _ listeners) rfl fun _ => rfl
  | edit text move file hd =>
    exact h.set hd (Document.evolves_edited _ text move file)
      (Document.numbers_edited _ text move) (Document.active_edited _ text move)
  | clear hst hd =>
    obtain ⟨rfl, -⟩ := ha
    exact h.clear hd hst
  | replace hst hd hshows =>
    obtain ⟨rfl, -⟩ := ha
    exact h.replace hd hst hshows
  | decorate => exact ha.elim
  | remove => exact ha.elim
  | render => exact ha.elim
  | install => exact ha.elim

/-! ## Sessions -/

/-- The sessions of a host that makes orderly steps only, over documents of any names and
controllers that share one store. -/
inductive Joint : World → Prop
  /-- A session with documents that have just been opened. -/
  | start (host : Host) (terminal : Bool) {documents : List Document} {plans : List Plan} :
      (∀ d ∈ documents, d.IsFresh) → (∀ p ∈ plans, p.own = false) →
      (∀ p ∈ plans, ∀ run ∈ p.script, ∀ s ∈ run.during, s.request.isOrderly) →
      Joint (World.start host terminal documents plans)
  /-- One more step. -/
  | step {w : World} {s : Step} : Joint w → s.request.isOrderly → Joint (advance s w).2

/-- What holds between two steps of a joint session. -/
structure Joint.State (w : World) : Prop where
  fits : ∃ roster hshared, Fits (Rules.orderly roster hshared fun _ => True) w
  faithful : Faithful w.desk
  store : ∃ st, w.stores[0]? = some st

theorem faithful_start (host : Host) (terminal : Bool) {documents : List Document}
    (plans : List Plan) (hfresh : ∀ d ∈ documents, d.IsFresh) :
    Faithful (World.start host terminal documents plans).desk := by
  have hnone : ∀ (n : Nat) (d : Document), (documents : List Document)[n]? = some d →
      d.attached = [] ∧ d.detached = [] := by
    intro n d hd
    have hd := hfresh d (List.mem_of_getElem? hd)
    rw [hd]
    exact ⟨rfl, rfl⟩
  refine ⟨fun d hd => (hfresh d hd).tidy, (fun _ _ h => nomatch h), fun mark x hx => ?_,
    fun mark _ hmark => ?_⟩
  · obtain ⟨d, hd, hx⟩ := Option.bind_eq_some_iff.mp hx
    obtain ⟨hattached, hdetached⟩ := hnone mark.document d hd
    unfold Document.decoration? at hx
    rw [hattached, hdetached] at hx
    cases hx
  · obtain ⟨d, hd, hmem⟩ := hmark
    unfold Document.numbers at hmem
    rw [(hnone mark.document d hd).1] at hmem
    cases hmem

theorem Joint.state {w : World} (h : Joint w) : Joint.State w := by
  induction h with
  | @start host terminal documents plans hfresh hown hscripts =>
    refine ⟨⟨rosterOf plans, shared_of_mem_rosterOf hown, fits_start host terminal hfresh rfl ?_⟩,
      faithful_start host terminal plans hfresh, .empty, rfl⟩
    exact fun p hp run hrun s hs => orderly_anywhere (hscripts p hp run hrun s hs)
  | @step w s _ hs ih =>
    obtain ⟨roster, hshared, hfits⟩ := ih.fits
    have hcourse := course_advance hfits (orderly_anywhere hs)
    have hkept := hcourse.invariant
      (I := fun k => Faithful k ∧ k.stores.length = w.desk.stores.length)
      (fun ha hdoes hk => ⟨hdoes.faithful ha hk.1, hdoes.length_stores.trans hk.2⟩)
      ⟨ih.faithful, rfl⟩
    obtain ⟨st, hst⟩ := ih.store
    have hlt : 0 < (advance s w).2.stores.length := by
      have hlength : (advance s w).2.stores.length = w.stores.length := hkept.2
      rw [hlength]
      exact (List.getElem?_eq_some_iff.mp hst).1
    exact ⟨⟨roster, hshared, hcourse.fits hfits⟩, hkept.1, _, List.getElem?_eq_getElem hlt⟩

/-! ## Steps that take annotations off -/

/-- A step that takes the annotations of document `n` off: the host clears or forgets it, or ends
the mode of a controller of it. -/
def TakesOff (w : World) (n : Nat) (s : Step) : Prop :=
  match s.request with
  | .clear | .forget => s.document = n
  | .disable => ∃ c, w.controllers[s.controller]? = some c ∧ c.document = n
  | _ => False

theorem isOrderly_of_takesOff {w : World} {n : Nat} {s : Step} (hs : TakesOff w n s) :
    s.request.isOrderly := by
  unfold TakesOff at hs
  split at hs
  · next hq => rw [hq]; rfl
  · next hq => rw [hq]; rfl
  · next hq => rw [hq]; rfl
  · exact hs.elim

/-- The annotations of document `n` have been taken off and are kept no more. -/
structure Cleared (n : Nat) (d : Document) (st : Store) (w w' : World) : Prop where
  documents : ∃ docs : Documents, (∀ mark, docs.Attached mark ↔ w.documents.Attached mark) ∧
    w'.documents = Store.release docs n (st.annotations d.id)
  stores : w'.stores = w.stores.set 0 (st.drop d.id)

section
variable {w : World} {n : Nat} {d : Document} {st : Store}

/-- Taking annotations off, with the listeners of documents changed at most before that. -/
theorem cleared_clearStore {v : World} {e : Document}
    (hattached : ∀ mark, v.documents.Attached mark ↔ w.documents.Attached mark)
    (hstores : v.stores = w.stores) (hd : (v.documents : List Document)[n]? = some e)
    (hid : e.id = d.id) (hst : w.stores[0]? = some st) :
    ∃ w', (clearStore 0 n).run v = (.ok (), w') ∧ Cleared n d st w w' := by
  refine ⟨_, run_clearStore (hstores ▸ hst) hd, ⟨v.documents, hattached, ?_⟩, ?_⟩
  · rw [hid]
  · rw [hid, hstores]

theorem run_disable {m : Nat} {c : Controller} (hc : w.controllers[m]? = some c)
    (hstore : c.store = 0) (hd : (w.documents : List Document)[c.document]? = some d)
    (hst : w.stores[0]? = some st) :
    ∃ w', (disable m).run w = (.ok (), w') ∧ Cleared c.document d st w w' := by
  unfold disable
  rw [controller_bind_some hc, hstore]
  cases c.subscribed with
  | false =>
    exact cleared_clearStore (v := w.after (changeController m _)) (fun _ => .rfl) rfl hd rfl hst
  | true =>
    have hd' := List.getElem?_set_self (a := d.unsubscribe (.controller m))
      (List.getElem?_eq_some_iff.mp hd).1
    simp only [if_true, document_bind_some hd]
    exact cleared_clearStore
      (v := (w.after (setDocument c.document (d.unsubscribe (.controller m)))).after
        (changeController m _)) (Documents.attached_set_iff hd rfl) rfl hd' rfl hst

/-- Such a step goes through. -/
theorem advance_takesOff (hstore : ∀ c ∈ w.controllers, c.store = 0)
    (hd : (w.documents : List Document)[n]? = some d) (hst : w.stores[0]? = some st) {s : Step}
    (hs : TakesOff w n s) :
    (advance s w).1.answer = .ok .done ∧ Cleared n d st w (advance s w).2 := by
  obtain ⟨w', hrun, hcleared⟩ : ∃ w', (step deepest s).run w.resumed = (.ok .done, w') ∧
      Cleared n d st w.resumed w' := by
    obtain ⟨i, m, request⟩ := s
    unfold TakesOff at hs
    have hclear := cleared_clearStore (w := w.resumed) (fun _ => .rfl) rfl hd rfl hst
    cases request with
    | clear =>
      obtain ⟨w', hrun, hcleared⟩ := hclear
      cases hs
      exact ⟨w', run_bind_ok hrun _, hcleared⟩
    | forget =>
      obtain ⟨w', hrun, hcleared⟩ := hclear
      cases hs
      exact ⟨w', run_bind_ok hrun _, hcleared⟩
    | disable =>
      obtain ⟨c, hc, rfl⟩ := hs
      obtain ⟨w', hrun, hcleared⟩ := run_disable (w := w.resumed) hc
        (hstore c (List.mem_of_getElem? hc)) hd hst
      exact ⟨w', run_bind_ok hrun _, hcleared⟩
    | _ => exact hs.elim
  obtain ⟨hanswer, more, hafter⟩ := advance_eq s w
  unfold World.after at hafter
  rw [hrun] at hanswer hafter
  rw [hafter]
  exact ⟨hanswer, hcleared.documents, hcleared.stores⟩

end

/-! ## The main statement -/

section
variable {k : Desk} {n : Nat} {d : Document}

/-- What is kept is on its document, and nothing else is active. -/
theorem Faithful.active_iff_kept (h : Faithful k) {mark : Mark} {x : Decoration}
    (hx : k.documents.decoration? mark = some x) :
    x.active = true ↔ k.documents.Attached mark ∧
      ∃ d, (k.documents : List Document)[mark.document]? = some d ∧
        mark ∈ k.shared.marks d.id := by
  rw [h.active_iff mark x hx]
  constructor
  · rintro ⟨name, hmark⟩
    obtain ⟨hon, d, hd, rfl⟩ := h.kept name mark hmark
    exact ⟨hon, d, hd, hmark⟩
  · rintro ⟨-, d, -, hmark⟩
    exact ⟨d.id, hmark⟩

/-- What is left on a document for which nothing is kept. -/
theorem Faithful.not_active (h : Faithful k) (hd : (k.documents : List Document)[n]? = some d)
    (hnone : k.shared.marks d.id = []) : ∀ entry ∈ d.attached, entry.2.active = false := by
  intro entry hentry
  have hdecoration := (h.tidy d (List.mem_of_getElem? hd)).decoration?_of_attached hentry
  have hx : k.documents.decoration? ⟨n, entry.1⟩ = some entry.2 := by
    unfold Documents.decoration?
    rw [hd]
    exact hdecoration
  rw [← Bool.not_eq_true, h.active_iff_kept hx]
  rintro ⟨-, e, he, hmark⟩
  cases hd.symm.trans he
  rw [hnone] at hmark
  cases hmark

theorem Faithful.attached_eq_nil (h : Faithful k)
    (hd : (k.documents : List Document)[n]? = some d) (hsole : k.documents.Sole n)
    (hnone : k.shared.marks d.id = []) : d.attached = [] := by
  apply List.eq_nil_iff_forall_not_mem.mpr
  intro entry hentry
  obtain ⟨name, hmark⟩ := h.sole ⟨n, entry.1⟩ hsole ⟨d, hd, List.mem_map_of_mem hentry⟩
  rw [← h.id_of_mem hmark hd, hnone] at hmark
  cases hmark

end

/-- A step that takes annotations off goes through, and takes them off the document it is about. -/
theorem Joint.takesOff {w : World} (h : Joint w) {n : Nat} {d : Document} {s : Step}
    (hd : (w.documents : List Document)[n]? = some d) (hs : TakesOff w n s) :
    let w' := (advance s w).2
    (advance s w).1.answer = .ok .done ∧ w'.desk.shared.annotations d.id = [] ∧
      (∀ mark ∈ w.desk.shared.marks d.id, w'.documents.Attached mark ↔ mark.document ≠ n) ∧
      w.documents.Evolve w'.documents := by
  obtain ⟨⟨roster, hroster, hfits⟩, hfaithful, st, hst⟩ := h.state
  have hstore : ∀ c ∈ w.controllers, c.store = 0 := by
    intro c hc
    obtain ⟨m, hc⟩ := List.mem_iff_getElem?.mp hc
    exact hroster _ (List.mem_of_getElem? (hfits.roster_of hc))
  have hcourse := course_advance hfits (orderly_anywhere (isOrderly_of_takesOff hs))
  obtain ⟨hanswer, ⟨docs, hsame, hdocs⟩, hstores⟩ := advance_takesOff hstore hd hst hs
  refine ⟨hanswer, ?_, fun mark hmark => ?_, hcourse.evolve⟩
  · have hlt := (List.getElem?_eq_some_iff.mp hst).1
    have hst' : (advance s w).2.desk.stores[0]? = some (st.drop d.id) := by
      show (advance s w).2.stores[0]? = _
      rw [hstores]
      exact List.getElem?_set_self hlt
    rw [Desk.shared_eq hst', Store.annotations_drop, if_pos rfl]
  · have hon := (hfaithful.kept d.id mark hmark).1
    have hbatch : mark ∈ (st.annotations d.id).map Annotation.mark := by
      rw [Desk.shared_eq hst] at hmark
      exact hmark
    rw [hdocs, Documents.attached_release_iff, hsame]
    exact ⟨fun hleft hn => hleft.2 hn hbatch, fun hn => ⟨hon, fun heq => absurd heq hn⟩⟩

/-- Whatever orderly steps a host has made over documents of any names, what the store keeps is
attached and active, and nothing else is active.  So a document that has its name to itself shares
no annotations with others.  Of two namesakes the one that is not asked when a batch is taken off
keeps its part of it, which is not active any more. -/
theorem active_while_kept {w : World} (h : Joint w) :
    -- a decoration is active as long as it is on its document and kept for it
    (∀ mark x, w.documents.decoration? mark = some x →
      (x.active = true ↔ w.documents.Attached mark ∧
        ∃ d, (w.documents : List Document)[mark.document]? = some d ∧
          mark ∈ w.desk.shared.marks d.id)) ∧
    -- what is kept under a name is on a document of that name
    (∀ name, ∀ mark ∈ w.desk.shared.marks name, w.documents.Attached mark ∧
      ∃ d, (w.documents : List Document)[mark.document]? = some d ∧ d.id = name) ∧
    -- a step that takes annotations off goes through, and leaves nothing active or kept
    (∀ n d s, (w.documents : List Document)[n]? = some d → TakesOff w n s →
      let w' := (advance s w).2
      (advance s w).1.answer = .ok .done ∧ w'.desk.shared.annotations d.id = [] ∧
        (∀ mark ∈ w.desk.shared.marks d.id, w'.documents.Attached mark ↔ mark.document ≠ n) ∧
        ∃ d', (w'.documents : List Document)[n]? = some d' ∧
          ∀ entry ∈ d'.attached, entry.2.active = false) ∧
    -- a document that has its name to itself
    (∀ n d, (w.documents : List Document)[n]? = some d → w.documents.Sole n →
      (∀ mark x, mark.document = n → w.documents.decoration? mark = some x →
        (x.active = true ↔ w.documents.Attached mark)) ∧
      (∀ a ∈ w.desk.shared.annotations d.id, a.mark.document = n) ∧
      ∀ s, TakesOff w n s → ∃ d', ((advance s w).2.documents : List Document)[n]? = some d' ∧
        d'.attached = []) := by
  have hfaithful := h.state.faithful
  have hleft : ∀ n d s, (w.documents : List Document)[n]? = some d → TakesOff w n s →
      ∃ d', ((advance s w).2.documents : List Document)[n]? = some d' ∧
        Faithful (advance s w).2.desk ∧ (advance s w).2.desk.shared.marks d'.id = [] := by
    intro n d s hd hs
    obtain ⟨-, hnone, -, hevolve⟩ := h.takesOff hd hs
    obtain ⟨d', hd', hevolves⟩ := hevolve.exists_of hd
    refine ⟨d', hd', (h.step (isOrderly_of_takesOff hs)).state.faithful, ?_⟩
    rw [hevolves.id_eq, Store.marks, hnone]
    rfl
  refine ⟨fun mark x hx => hfaithful.active_iff_kept hx, hfaithful.kept, ?_, ?_⟩
  · intro n d s hd hs
    obtain ⟨hanswer, hnone, hattached, -⟩ := h.takesOff hd hs
    obtain ⟨d', hd', hfaithful', hnone'⟩ := hleft n d s hd hs
    exact ⟨hanswer, hnone, hattached, d', hd', hfaithful'.not_active hd' hnone'⟩
  · intro n d hd hsole
    refine ⟨fun mark x hn hx => ?_, fun a ha => ?_, fun s hs => ?_⟩
    · subst hn
      rw [hfaithful.active_iff mark x hx]
      refine ⟨?_, hfaithful.sole mark hsole⟩
      rintro ⟨name, hmark⟩
      exact (hfaithful.kept name mark hmark).1
    · obtain ⟨-, e, he, hid⟩ := hfaithful.kept d.id a.mark (List.mem_map_of_mem ha)
      exact hsole _ d e hd he hid
    · obtain ⟨d', hd', hfaithful', hnone⟩ := hleft n d s hd hs
      have hsole' := (h.takesOff hd hs).2.2.2.sole_iff.mpr hsole
      exact ⟨d', hd', hfaithful'.attached_eq_nil hd' hsole' hnone⟩

theorem active_while_kept_of_twoLines :
    let w := (advance ⟨0, 0, .run⟩ twoLines).2
    let w' := (advance ⟨0, 0, .disable⟩ w).2
    w.documents.Attached ⟨0, 0⟩ ∧
      (∃ x, w.documents.decoration? ⟨0, 0⟩ = some x ∧ x.active = true) ∧
      ∃ d, (w'.documents : List Document)[0]? = some d ∧ d.attached = [] := by
  intro w w'
  have hstart : Joint twoLines := by
    apply Joint.start
    · intro d hd
      cases List.mem_singleton.mp hd
      rfl
    · decide
    · decide
  have hjoint : Joint w := hstart.step (s := ⟨0, 0, .run⟩) rfl
  have hon : w.documents.Attached ⟨0, 0⟩ := ⟨_, rfl, by decide +kernel⟩
  have hsole : w.documents.Sole 0 := by
    intro i d e _ he _
    have hlt := (List.getElem?_eq_some_iff.mp he).1
    have hlength : w.documents.length = 1 := by decide +kernel
    omega
  obtain ⟨-, -, -, hown⟩ := active_while_kept hjoint
  obtain ⟨hactive, -, hoff⟩ := hown 0 _ rfl hsole
  refine ⟨hon, ⟨_, rfl, (hactive ⟨0, 0⟩ _ rfl rfl).mpr hon⟩, ?_⟩
  exact hoff ⟨0, 0, .disable⟩ ⟨_, rfl, rfl⟩

/-- A host with a file that two documents are opened on. -/
def sharedFile : Host :=
  ⟨⟨[([['w']], .directory),
      ([['w'], "a.go".toList], .file ⟨Utf8.encode "a\nb\n".toList, .plain, none⟩)]⟩,
    ⟨.top, [['w']]⟩, []⟩

/-- A session with two documents of one name, the first of which has a controller that finds the
same in every run. -/
def namesakes : World :=
  let path := "/w/a.go".toList
  let d := Document.ofText path (some (Path.ofText path)) "a\nb\n".toList
  .start sharedFile false [d, d] [⟨0, false, .standard, .standard, some .recorded,
    [⟨[("diagnostics".toList, .list [.table
      [("source_file".toList, .text "./a.go".toList), ("line".toList, .integer 2),
        ("column".toList, .integer 14), ("message".toList, .text "moved".toList)]])], [], none⟩]⟩]

/-- Two documents that are opened on one path share the annotations of the first one.  To forget the
second leaves them on the first, where they are not active any more and stay even when that one is
forgotten. -/
theorem forget_strands_namesake :
    let w₁ := (advance ⟨0, 0, .run⟩ namesakes).2
    let w₂ := (advance ⟨1, 0, .forget⟩ w₁).2
    let w₃ := (advance ⟨0, 0, .forget⟩ w₂).2
    openAll sharedFile 0 [.file "/w/a.go".toList, .file "/w/a.go".toList]
        = .ok namesakes.documents ∧
      Joint w₃ ∧
      (w₁.documents[1]?.map fun d => w₁.desk.shared.marks d.id) = some [⟨0, 0⟩] ∧
      w₂.documents.Attached ⟨0, 0⟩ ∧
      (w₂.documents.decoration? ⟨0, 0⟩).map Decoration.active = some false ∧
      w₃.documents.Attached ⟨0, 0⟩ := by
  intro w₁ w₂ w₃
  have hstart : Joint namesakes := by
    apply Joint.start
    · intro d hd
      rcases List.mem_cons.mp hd with rfl | hd
      · rfl
      · cases List.mem_singleton.mp hd
        rfl
    · decide
    · decide
  refine ⟨by decide +kernel, ?_, by decide +kernel, ⟨_, rfl, by decide +kernel⟩,
    by decide +kernel, ⟨_, rfl, by decide +kernel⟩⟩
  exact ((hstart.step (s := ⟨0, 0, .run⟩) rfl).step (s := ⟨1, 0, .forget⟩) rfl).step
    (s := ⟨0, 0, .forget⟩) rfl

end Session

end Marginalia

import Mathlib.Data.List.Nodup
import Marginalia.Proofs.Session.Sound

/-!
# Orderly sessions

A step is *orderly* if it leaves the making and removing of decorations to the store: it may run,
save, edit, clear and replace, but it neither decorates nor takes single decorations off, and it
does not show diagnostics that the store does not keep.

A desk is *coherent* with the decorations that a host owns if what is attached to a document is what
the host owns there and what the shared store keeps for it, each once and active.  Every deed of
orderly steps keeps it so, and a deed that is aimed at one document spares the others.
-/

namespace Marginalia

open Annotation (mark_numbered numbered)

/-- The marks that point into document `n`. -/
def marksOn (n : Nat) (marks : List Mark) : List Mark :=
  marks.filter fun mark => mark.document = n

theorem mem_marksOn {n : Nat} {marks : List Mark} {mark : Mark} :
    mark ∈ marksOn n marks ↔ mark ∈ marks ∧ mark.document = n := by
  unfold marksOn
  rw [List.mem_filter, decide_eq_true_eq]

theorem marksOn_filter (n : Nat) (p : Mark → Bool) (marks : List Mark) :
    marksOn n (marks.filter p) = (marksOn n marks).filter p := by
  unfold marksOn
  rw [List.filter_filter, List.filter_filter]
  exact List.filter_congr fun _ _ => Bool.and_comm _ _

theorem map_mark_filter_ne (n k : Nat) (numbers : List Nat) :
    (numbers.filter fun j => j != k).map (Mark.mk n)
      = (numbers.map (Mark.mk n)).filter fun mark => mark != ⟨n, k⟩ := by
  rw [List.filter_map]
  congr 1
  apply List.filter_congr
  intro j _
  rw [Bool.eq_iff_iff]
  simp

theorem filter_notMem_perm {l left right : List Mark} (h : l.Perm (left ++ right))
    (hl : l.Nodup) : (l.filter fun mark => !right.contains mark).Perm left := by
  have hd : (left ++ right).Nodup := h.nodup_iff.mp hl
  rw [List.nodup_append] at hd
  refine (h.filter _).trans ?_
  rw [List.filter_append, List.filter_eq_self.mpr, List.filter_eq_nil_iff.mpr, List.append_nil]
  · intro mark hmark
    simpa using hmark
  · intro mark hmark
    have hnot : mark ∉ right := fun hr => hd.2.2 mark hmark mark hr rfl
    simpa using hnot

namespace Session

/-! ## The shared store -/

/-- The store that controllers share. -/
def Desk.shared (k : Desk) : Store :=
  k.stores.headD .empty

theorem Desk.shared_eq {k : Desk} {st : Store} (h : k.stores[0]? = some st) : k.shared = st := by
  unfold shared
  cases hs : k.stores with
  | nil =>
    rw [hs] at h
    cases h
  | cons first rest =>
    rw [hs] at h
    cases h
    rfl

theorem Desk.shared_set {k : Desk} {st : Store} (h : k.stores[0]? = some st) (docs : Documents)
    (st' : Store) (slots : List (Text × List Annotation)) :
    Desk.shared ⟨docs, k.stores.set 0 st', slots⟩ = st' := by
  apply shared_eq
  exact List.getElem?_set_self (List.getElem?_eq_some_iff.mp h).1

/-! ## Coherence -/

/-- What is attached to a document is what the host owns there and what the shared store keeps for
it. -/
structure Coherent (own : List Mark) (k : Desk) : Prop where
  ids : (k.documents.map Document.id).Nodup
  tidy : k.documents.Tidy
  names_nodup : (k.shared.batches.map Prod.fst).Nodup
  names : ∀ name ∈ k.shared.batches.map Prod.fst, name ∈ k.documents.map Document.id
  attached : ∀ (n : Nat) (d : Document), (k.documents : List Document)[n]? = some d →
    (d.numbers.map (Mark.mk n)).Perm (marksOn n own ++ k.shared.marks d.id)
  active : ∀ d ∈ (k.documents : List Document), ∀ entry ∈ d.attached, entry.2.active = true
  own_lt : ∀ mark ∈ own, mark.document < k.documents.length

/-- A change of one document and of what the shared store keeps for it. -/
structure Update (n : Nat) (d d' : Document) (k k' : Desk) : Prop where
  before : (k.documents : List Document)[n]? = some d
  documents : k'.documents = List.set k.documents n d'
  id_eq : d'.id = d.id
  tidy : d'.Tidy
  active : ∀ entry ∈ d'.attached, entry.2.active = true
  others : ∀ name, name ≠ d.id → k'.shared.annotations name = k.shared.annotations name
  names_nodup : (k.shared.batches.map Prod.fst).Nodup → (k'.shared.batches.map Prod.fst).Nodup
  names : ∀ name ∈ k'.shared.batches.map Prod.fst,
    name = d.id ∨ name ∈ k.shared.batches.map Prod.fst

section
variable {own own' : List Mark} {n : Nat} {d d' : Document} {k k' : Desk}

theorem Coherent.nodup_marks (h : Coherent own k)
    (hd : (k.documents : List Document)[n]? = some d) : (d.numbers.map (Mark.mk n)).Nodup := by
  apply List.Nodup.map
  · exact fun i j hij => (Mark.mk.inj hij).2
  · exact (h.tidy d (List.mem_of_getElem? hd)).nodup_numbers

/-- The store keeps for a document only what points into it. -/
theorem Coherent.mark_document (h : Coherent own k)
    (hd : (k.documents : List Document)[n]? = some d) {a : Annotation}
    (ha : a ∈ k.shared.annotations d.id) : a.mark.document = n := by
  have hmem : a.mark ∈ d.numbers.map (Mark.mk n) :=
    (h.attached n d hd).mem_iff.mpr (List.mem_append_right _ (List.mem_map_of_mem ha))
  obtain ⟨j, -, hj⟩ := List.mem_map.mp hmem
  rw [← hj]

/-- Documents of different numbers have different names. -/
theorem Coherent.id_ne (h : Coherent own k) {i : Nat} {e : Document}
    (hd : (k.documents : List Document)[n]? = some d)
    (he : (k.documents : List Document)[i]? = some e) (hne : i ≠ n) : e.id ≠ d.id := by
  intro heq
  apply hne
  have hi : (k.documents.map Document.id)[i]? = some e.id := by rw [List.getElem?_map, he]; rfl
  have hn : (k.documents.map Document.id)[n]? = some e.id := by
    rw [List.getElem?_map, hd, heq]
    rfl
  obtain ⟨hlt, -⟩ := List.getElem?_eq_some_iff.mp hi
  exact (List.getElem?_inj hlt h.ids).mp (hi.trans hn.symm)

theorem Update.getElem? (u : Update n d d' k k') (i : Nat) :
    (k'.documents : List Document)[i]? =
      if i = n then some d' else (k.documents : List Document)[i]? := by
  have hlt : n < k.documents.length := (List.getElem?_eq_some_iff.mp u.before).1
  rw [u.documents]
  by_cases hi : i = n
  · subst hi
    rw [if_pos rfl]
    exact List.getElem?_set_self hlt
  · rw [if_neg hi]
    exact List.getElem?_set_ne (Ne.symm hi)

theorem Update.eq_or_mem (u : Update n d d' k k') {e : Document}
    (he : e ∈ (k'.documents : List Document)) : e = d' ∨ e ∈ (k.documents : List Document) := by
  rw [u.documents] at he
  exact (List.mem_or_eq_of_mem_set he).symm

/-- Documents keep their names. -/
theorem Update.ids_eq (u : Update n d d' k k') :
    k'.documents.map Document.id = k.documents.map Document.id := by
  apply List.ext_getElem?
  intro i
  rw [List.getElem?_map, List.getElem?_map, u.getElem?]
  by_cases hi : i = n
  · subst hi
    rw [if_pos rfl, u.before, Option.map_some, Option.map_some, u.id_eq]
  · rw [if_neg hi]

/-- A change of one document leaves the desk coherent if what is attached there is right. -/
theorem Update.coherent (u : Update n d d' k k') (h : Coherent own k)
    (hattached : (d'.numbers.map (Mark.mk n)).Perm (marksOn n own' ++ k'.shared.marks d.id))
    (hown : ∀ mark ∈ own', mark.document = n ∨ mark ∈ own)
    (hothers : ∀ i, i ≠ n → marksOn i own' = marksOn i own) : Coherent own' k' := by
  refine ⟨u.ids_eq ▸ h.ids, fun e he => ?_, u.names_nodup h.names_nodup, fun name hname => ?_,
    fun i e he => ?_, fun e he => ?_, fun mark hmark => ?_⟩
  · rcases u.eq_or_mem he with rfl | he
    · exact u.tidy
    · exact h.tidy e he
  · rw [u.ids_eq]
    rcases u.names name hname with rfl | hname
    · exact List.mem_map_of_mem (List.mem_of_getElem? u.before)
    · exact h.names name hname
  · rw [u.getElem?] at he
    by_cases hi : i = n
    · subst hi
      rw [if_pos rfl] at he
      cases he
      rw [u.id_eq]
      exact hattached
    · rw [if_neg hi] at he
      have hmarks : k'.shared.marks e.id = k.shared.marks e.id := by
        unfold Store.marks
        rw [u.others e.id (h.id_ne u.before he hi)]
      rw [hmarks, hothers i hi]
      exact h.attached i e he
  · rcases u.eq_or_mem he with rfl | he
    · exact u.active
    · exact h.active e he
  · rw [u.documents, List.length_set]
    rcases hown mark hmark with rfl | hmark
    · exact (List.getElem?_eq_some_iff.mp u.before).1
    · exact h.own_lt mark hmark

/-- A change of one document leaves the others and what is kept for them alone. -/
theorem Update.spares (u : Update n d d' k k') (h : Coherent own k) {i : Nat} {e : Document}
    (he : (k.documents : List Document)[i]? = some e) (hne : i ≠ n) :
    (k'.documents : List Document)[i]? = some e ∧
      k'.shared.annotations e.id = k.shared.annotations e.id := by
  refine ⟨?_, u.others e.id (h.id_ne u.before he hne)⟩
  rw [u.getElem?, if_neg hne]
  exact he

/-! ## Single changes -/

/-- A change of a document only. -/
theorem update_set (h : Coherent own k) (hd : (k.documents : List Document)[n]? = some d)
    (he : d.Evolves d') (hactive : ∀ entry ∈ d'.attached, entry.2.active = true) :
    Update n d d' k { k with documents := List.set k.documents n d' } :=
  ⟨hd, rfl, he.id_eq, he.tidy (h.tidy d (List.mem_of_getElem? hd)), hactive, fun _ _ => rfl, id,
    fun _ hname => .inr hname⟩

theorem names_nodup_drop {st : Store} (h : (st.batches.map Prod.fst).Nodup) (id : Text) :
    ((st.drop id).batches.map Prod.fst).Nodup :=
  h.sublist (List.filter_sublist.map Prod.fst)

theorem name_ne_of_mem_drop {st : Store} {id name : Text}
    (h : name ∈ (st.drop id).batches.map Prod.fst) :
    name ≠ id ∧ name ∈ st.batches.map Prod.fst := by
  obtain ⟨entry, hentry, rfl⟩ := List.mem_map.mp h
  refine ⟨?_, List.mem_map_of_mem (Store.mem_drop hentry)⟩
  simpa using (List.mem_filter.mp hentry).2

theorem names_nodup_keep {st : Store} (h : (st.batches.map Prod.fst).Nodup) (id : Text)
    (batch : List Annotation) : ((st.keep id batch).batches.map Prod.fst).Nodup := by
  show (id :: (st.drop id).batches.map Prod.fst).Nodup
  rw [List.nodup_cons]
  exact ⟨fun hmem => (name_ne_of_mem_drop hmem).1 rfl, names_nodup_drop h id⟩

/-- What is left of a document whose batch has been taken off. -/
theorem Coherent.released (h : Coherent own k) (hd : (k.documents : List Document)[n]? = some d) :
    ((d.released n n (k.shared.annotations d.id)).numbers.map (Mark.mk n)).Perm
        (marksOn n own) ∧
      ∀ entry ∈ (d.released n n (k.shared.annotations d.id)).attached, entry.2.active = true := by
  refine ⟨?_, fun entry hentry => ?_⟩
  · rw [Document.numbers_released_self]
    have hfilter := filter_notMem_perm (h.attached n d hd) (h.nodup_marks hd)
    rw [List.filter_map] at hfilter
    exact hfilter
  · rw [Document.attached_released] at hentry
    exact h.active d (List.mem_of_getElem? hd) entry (List.mem_filter.mp hentry).1

theorem Coherent.update_clear (h : Coherent own k)
    (hd : (k.documents : List Document)[n]? = some d) {st : Store} (hst : k.stores[0]? = some st) :
    Update n d (d.released n n (st.annotations d.id)) k
      { k with
        documents := Store.release k.documents n (st.annotations d.id)
        stores := k.stores.set 0 (st.drop d.id) } := by
  have hshared : k.shared = st := Desk.shared_eq hst
  have hdocs := Documents.release_eq_set hd fun a ha => h.mark_document hd (hshared ▸ ha)
  have hredecorated := Document.redecorated_released n n (st.annotations d.id) d
  refine ⟨hd, hdocs, hredecorated.id_eq, hredecorated.tidy (h.tidy d (List.mem_of_getElem? hd)),
    hshared ▸ (h.released hd).2, fun name hname => ?_, fun hnodup => ?_, fun name hname => ?_⟩
  · rw [Desk.shared_set hst, Store.annotations_drop, if_neg hname, hshared]
  · rw [Desk.shared_set hst]
    exact names_nodup_drop (hshared ▸ hnodup) d.id
  · rw [Desk.shared_set hst] at hname
    rw [hshared]
    exact .inr (name_ne_of_mem_drop hname).2

theorem Coherent.clear (h : Coherent own k) (hd : (k.documents : List Document)[n]? = some d)
    {st : Store} (hst : k.stores[0]? = some st) :
    Coherent own { k with
      documents := Store.release k.documents n (st.annotations d.id)
      stores := k.stores.set 0 (st.drop d.id) } := by
  refine (h.update_clear hd hst).coherent h ?_ (fun _ hmark => .inr hmark) (fun _ _ => rfl)
  rw [Desk.shared_set hst, Store.marks, Store.annotations_drop, if_pos rfl, List.map_nil,
    List.append_nil, ← Desk.shared_eq hst]
  exact (h.released hd).1

/-- A change of a document and a batch that is kept for it from then on. -/
theorem Coherent.update_keep (h : Coherent own k)
    (hd : (k.documents : List Document)[n]? = some d) {st : Store} (hst : k.stores[0]? = some st)
    (he : d.Evolves d') (hactive : ∀ entry ∈ d'.attached, entry.2.active = true)
    (batch : List Annotation) :
    Update n d d' k { k with
      documents := List.set k.documents n d'
      stores := k.stores.set 0 (st.keep d.id batch) } := by
  have hshared : k.shared = st := Desk.shared_eq hst
  refine ⟨hd, rfl, he.id_eq, he.tidy (h.tidy d (List.mem_of_getElem? hd)), hactive,
    fun name hname => ?_, fun hnodup => ?_, fun name hname => ?_⟩
  · rw [Desk.shared_set hst, Store.annotations_keep, if_neg hname, hshared]
  · rw [Desk.shared_set hst]
    exact names_nodup_keep (hshared ▸ hnodup) d.id batch
  · rw [Desk.shared_set hst] at hname
    rw [hshared]
    rcases List.mem_cons.mp hname with hname | hname
    · exact .inl hname
    · exact .inr (name_ne_of_mem_drop hname).2

theorem Coherent.replace (h : Coherent own k) (hd : (k.documents : List Document)[n]? = some d)
    {st : Store} (hst : k.stores[0]? = some st) {docs : Documents} {batch : List Annotation}
    (hshows : (Store.release k.documents n (st.annotations d.id)).Shows n docs batch) :
    ∃ d', Update n d d' k { k with
        documents := docs
        stores := k.stores.set 0 (st.keep d.id batch) } ∧
      Coherent own { k with
        documents := docs
        stores := k.stores.set 0 (st.keep d.id batch) } := by
  have hshared : k.shared = st := Desk.shared_eq hst
  have hredecorated := Document.redecorated_released n n (st.annotations d.id) d
  have hlt : n < k.documents.length := (List.getElem?_eq_some_iff.mp hd).1
  -- the clear leaves what the host owns, so the new batch only adds to it
  obtain ⟨hnumbers, hactive⟩ := h.released hd
  rw [hshared] at hnumbers hactive
  rw [Documents.release_eq_set hd fun a ha => h.mark_document hd (hshared ▸ ha)] at hshows
  generalize d.released n n (st.annotations d.id) = d₁ at hredecorated hnumbers hactive hshows
  have hmarks : ∀ docs : Documents, Store.marks (Desk.shared { k with
      documents := docs
      stores := k.stores.set 0 (st.keep d.id batch) }) d.id = batch.map Annotation.mark := by
    intro docs
    rw [Desk.shared_set hst, Store.marks, Store.annotations_keep, if_pos rfl]
  cases hshows with
  | nothing =>
    have hupdate := h.update_keep hd hst hredecorated.toEvolves hactive []
    refine ⟨d₁, hupdate, hupdate.coherent h ?_ (fun _ hmark => .inr hmark) (fun _ _ => rfl)⟩
    rw [hmarks, List.map_nil, List.append_nil]
    exact hnumbers
  | @placed d₂ placed hd₂ hplaced =>
    rw [List.getElem?_set_self hlt] at hd₂
    cases hd₂
    rw [List.set_set]
    have hfresh : ∀ x ∈ placed.map Prod.snd, x.active = true := by
      intro x hx
      obtain ⟨p, hp, rfl⟩ := List.mem_map.mp hx
      exact hplaced p hp
    have hupdate := h.update_keep hd hst
      (hredecorated.trans (Document.redecorated_attachAll d₁ (placed.map Prod.snd))).toEvolves
      (Document.active_attachAll hactive hfresh) (numbered n d₁.count placed)
    refine ⟨_, hupdate, hupdate.coherent h ?_ (fun _ hmark => .inr hmark) (fun _ _ => rfl)⟩
    rw [hmarks, Document.numbers_attachAll, List.map_append, mark_numbered,
      List.length_map]
    exact hnumbers.append_right _

/-! ## Orderly deeds -/

end

/-- A request that leaves the making and removing of decorations to the store. -/
def Request.isOrderly : Request → Bool
  | .decorate .. | .remove _ | .subscribe .. | .unsubscribe _ | .render .. | .install _
  | .replace _ _ (some _) => false
  | _ => true

/-- A deed of orderly steps that touches no other documents than those of some numbers. -/
def Deed.Within (on : Nat → Prop) : Deed → Prop
  | .aside | .listen => True
  | .edit n => on n
  | .clear s n | .replace s n => s = 0 ∧ on n
  | .decorate _ | .remove | .render _ | .install _ _ => False

/-- Documents of other numbers are decorated as before, and the same is kept for them. -/
def Spares (on : Nat → Prop) (k k' : Desk) : Prop :=
  ∀ (i : Nat) (e : Document), ¬ on i → (k.documents : List Document)[i]? = some e →
    ∃ e', (k'.documents : List Document)[i]? = some e' ∧ e'.id = e.id ∧
      e'.attached = e.attached ∧ e'.detached = e.detached ∧
      k'.shared.annotations e.id = k.shared.annotations e.id

theorem Spares.refl (on : Nat → Prop) (k : Desk) : Spares on k k :=
  fun _ e _ he => ⟨e, he, rfl, rfl, rfl, rfl⟩

theorem Spares.trans {on : Nat → Prop} {k₁ k₂ k₃ : Desk} (h : Spares on k₁ k₂)
    (h' : Spares on k₂ k₃) : Spares on k₁ k₃ := by
  intro i e hi he
  obtain ⟨e', he', hid, hattached, hdetached, hkept⟩ := h i e hi he
  obtain ⟨e'', he'', hid', hattached', hdetached', hkept'⟩ := h' i e' hi he'
  rw [hid] at hkept'
  exact ⟨e'', he'', hid'.trans hid, hattached'.trans hattached, hdetached'.trans hdetached,
    hkept'.trans hkept⟩

theorem Update.toSpares {own : List Mark} {n : Nat} {d d' : Document} {k k' : Desk}
    (u : Update n d d' k k') (h : Coherent own k) {on : Nat → Prop} (hn : on n) :
    Spares on k k' := by
  intro i e hi he
  have hne : i ≠ n := fun heq => hi (heq ▸ hn)
  obtain ⟨he', hkept⟩ := u.spares h he hne
  exact ⟨e, he', rfl, rfl, rfl, hkept⟩

/-- Orderly deeds keep a desk coherent and spare the documents they are not aimed at. -/
theorem Does.orderly {own : List Mark} {on : Nat → Prop} {a : Deed} {k k' : Desk}
    (hdoes : Does a k k') (ha : a.Within on) (h : Coherent own k) :
    Coherent own k' ∧ Spares on k k' := by
  cases hdoes with
  | aside => exact ⟨h, .refl on k⟩
  | @listen _ n d listeners hd =>
    have hactive := h.active d (List.mem_of_getElem? hd)
    have hupdate := update_set h hd (Document.evolves_listeners d listeners) hactive
    refine ⟨hupdate.coherent h (h.attached n d hd) (fun _ hmark => .inr hmark) fun _ _ => rfl, ?_⟩
    intro i e _ he
    by_cases hi : i = n
    · subst hi
      cases hd.symm.trans he
      have hlt := (List.getElem?_eq_some_iff.mp hd).1
      exact ⟨_, List.getElem?_set_self hlt, rfl, rfl, rfl, rfl⟩
    · obtain ⟨he', hkept⟩ := hupdate.spares h he hi
      exact ⟨e, he', rfl, rfl, rfl, hkept⟩
  | @edit _ n d text move file hd =>
    have hactive : ∀ entry ∈ (d.edited text move).attached, entry.2.active = true := by
      intro entry hentry
      obtain ⟨before, hbefore, rfl⟩ := List.mem_map.mp hentry
      exact h.active d (List.mem_of_getElem? hd) before hbefore
    have hupdate := update_set h hd (Document.evolves_edited d text move file) hactive
    refine ⟨hupdate.coherent h ?_ (fun _ hmark => .inr hmark) fun _ _ => rfl,
      hupdate.toSpares h ha⟩
    show ((d.edited text move).numbers.map (Mark.mk n)).Perm _
    rw [Document.numbers_edited]
    exact h.attached n d hd
  | decorate => exact ha.elim
  | remove => exact ha.elim
  | render => exact ha.elim
  | install => exact ha.elim
  | clear hst hd =>
    obtain ⟨rfl, hn⟩ := ha
    exact ⟨h.clear hd hst, (h.update_clear hd hst).toSpares h hn⟩
  | replace hst hd hshows =>
    obtain ⟨rfl, hn⟩ := ha
    obtain ⟨d', hupdate, hcoherent⟩ := h.replace hd hst hshows
    exact ⟨hcoherent, hupdate.toSpares h hn⟩

/-- What the shared store keeps under a name is what it has kept there, or nothing of it is as old
as that. -/
def Renews (k k' : Desk) : Prop :=
  ∀ name, k'.shared.marks name = k.shared.marks name ∨
    ∀ mark ∈ k'.shared.marks name, ¬ k.documents.Numbered mark

theorem Renews.refl (k : Desk) : Renews k k :=
  fun _ => .inl rfl

theorem Renews.trans {k₁ k₂ k₃ : Desk} (h : Renews k₁ k₂)
    (he : k₁.documents.Evolve k₂.documents) (h' : Renews k₂ k₃) : Renews k₁ k₃ := by
  intro name
  rcases h' name with hsame | hnew
  · rw [hsame]
    exact h name
  · exact .inr fun mark hmark hnumbered => hnew mark hmark (he.numbered hnumbered)

theorem Does.renews {on : Nat → Prop} {a : Deed} {k k' : Desk} (hdoes : Does a k k')
    (ha : a.Within on) : Renews k k' := by
  cases hdoes with
  | decorate => exact ha.elim
  | remove => exact ha.elim
  | render => exact ha.elim
  | install => exact ha.elim
  | clear hst _ =>
    obtain ⟨rfl, -⟩ := ha
    intro name
    rw [Desk.shared_set hst, Store.marks, Store.annotations_drop]
    split
    · exact .inr fun _ hmark => nomatch hmark
    · rw [← Desk.shared_eq hst]
      exact .inl rfl
  | replace hst _ hshows =>
    obtain ⟨rfl, -⟩ := ha
    intro name
    rw [Desk.shared_set hst, Store.marks, Store.annotations_keep]
    split
    · refine .inr fun mark hmark hnumbered => hshows.not_numbered hmark ?_
      exact (Documents.evolve_release _ _ _).numbered hnumbered
    · rw [← Desk.shared_eq hst]
      exact .inl rfl
  | _ => exact .refl k

/-! ## Orderly steps -/

/-- An orderly step that is about documents of some numbers only, directly or through its
controller. -/
def Orderly (roster : List (Nat × Nat)) (on : Nat → Prop) (s : Step) : Prop :=
  s.request.isOrderly ∧
    if s.request.isMode then ∀ e, roster[s.controller]? = some e → on e.1 else on s.document

theorem orderly_anywhere {roster : List (Nat × Nat)} {s : Step} (hs : s.request.isOrderly) :
    Orderly roster (fun _ => True) s := by
  refine ⟨hs, ?_⟩
  split
  · exact fun _ _ => trivial
  · trivial

/-- The rules of orderly steps that are about documents of some numbers only. -/
def Rules.orderly (roster : List (Nat × Nat)) (hshared : ∀ e ∈ roster, e.2 = 0)
    (on : Nat → Prop) : Rules where
  roster
  deed a := a.Within on
  step := Orderly roster on
  callback _ := False
  mode m := ∀ e, roster[m]? = some e → on e.1
  aside := trivial
  listen := trivial
  deed_of_step := by
    intro s a hs ha
    obtain ⟨horderly, hon⟩ := hs
    cases hq : s.request with
    | insert | delete | setText | setFile =>
      rw [hq] at ha hon
      cases List.mem_singleton.mp ha
      exact hon
    | clear | forget =>
      rw [hq] at ha hon
      cases List.mem_singleton.mp ha
      exact ⟨rfl, hon⟩
    | replace tables style failure =>
      rw [hq] at ha hon horderly
      cases failure with
      | some message => cases horderly
      | none =>
        rcases List.mem_cons.mp ha with rfl | ha
        · exact ⟨rfl, hon⟩
        · cases List.mem_singleton.mp ha
          exact ⟨rfl, hon⟩
    | decorate | remove | render | install =>
      rw [hq] at horderly
      cases horderly
    | _ =>
      rw [hq] at ha
      cases ha
  callback_of_step := by
    intro s name actions hs hq
    have horderly := hs.1
    rw [hq] at horderly
    cases horderly
  step_of_callback := False.elim
  mode_of_step := by
    intro s hs hmode
    have hon := hs.2
    rw [if_pos hmode] at hon
    exact hon
  mode_of_save := by
    intro s m e hs hsave he hdoc e' he'
    have hon := hs.2
    rw [hsave] at hon
    cases he.symm.trans he'
    rw [hdoc]
    exact hon
  deed_of_mode := by
    intro m e hm he
    have hstore := hshared e (List.mem_of_getElem? he)
    exact ⟨⟨hstore, hm e he⟩, ⟨hstore, hm e he⟩⟩

/-- Orderly courses keep a desk coherent and spare the documents they are not about. -/
theorem Course.orderly {roster : List (Nat × Nat)} {hshared : ∀ e ∈ roster, e.2 = 0}
    {on : Nat → Prop} {w w' : World} (h : Course (Rules.orderly roster hshared on) w w')
    {own : List Mark} (hw : Coherent own w.desk) :
    Coherent own w'.desk ∧ Spares on w.desk w'.desk := by
  apply h.invariant (I := fun k => Coherent own k ∧ Spares on w.desk k)
  · rintro a k k' ha hdoes ⟨hk, hspares⟩
    obtain ⟨hk', hspares'⟩ := hdoes.orderly ha hk
    exact ⟨hk', hspares.trans hspares'⟩
  · exact ⟨hw, .refl on w.desk⟩

/-- What the shared store keeps in an orderly course is kept on or replaced as a whole. -/
theorem Course.renews {roster : List (Nat × Nat)} {hshared : ∀ e ∈ roster, e.2 = 0}
    {on : Nat → Prop} {w w' : World} (h : Course (Rules.orderly roster hshared on) w w') :
    Renews w.desk w'.desk := by
  refine (h.invariant (I := fun k => w.documents.Evolve k.documents ∧ Renews w.desk k) ?_ ?_).2
  · rintro a k k' ha hdoes ⟨he, hk⟩
    exact ⟨he.trans hdoes.evolve, hk.trans he (hdoes.renews ha)⟩
  · exact ⟨.refl _, .refl _⟩

end Session

end Marginalia

import Marginalia.Proofs.Session.Orderly

/-!
# Ledgers

A host makes orderly steps, and besides decorates documents and takes its own decorations off.
The *ledger* of such a session is what the host has seen of it: the decorations it has made, those
of them that it has not taken off, and the annotations that the shared store has kept after one of
its steps.

`Played.agrees` says that a ledger is right: after any such steps, failed ones included, the desk is
coherent with what is live in the ledger, and what the store has ever kept is not the host's.
-/

namespace Marginalia.Session

/-! ## Ledgers -/

/-- What a host has seen of a session. -/
structure Ledger where
  /-- The decorations it has made. -/
  made : List Mark
  /-- Those of them that it has not taken off. -/
  live : List Mark
  /-- The batches that the shared store has kept after a step, each by its decorations. -/
  shown : List (List Mark)

/-- The batches that the shared store keeps, each by its decorations. -/
def Desk.kept (k : Desk) : List (List Mark) :=
  k.shared.batches.map fun entry => entry.2.map Annotation.mark

/-- The ledger with a decoration that a host has made. -/
def Ledger.add (l : Ledger) (marks : List Mark) : Ledger :=
  { l with made := l.made ++ marks, live := l.live ++ marks }

/-- The ledger after a step, as far as the decorations of the host go. -/
def Ledger.own (l : Ledger) (w : World) (s : Step) : Ledger :=
  match s.request, (advance s w).1.answer with
  | .decorate .., .ok (.number h) => l.add (advance s w).2.handles[h]?.toList
  | .remove h, .ok _ => { l with live := l.live.filter fun mark => w.handles[h]? != some mark }
  | _, _ => l

/-- The ledger after a step. -/
def Ledger.next (l : Ledger) (w : World) (s : Step) : Ledger :=
  { l.own w s with shown := l.shown ++ (advance s w).2.desk.kept }

section
variable (l : Ledger) (w : World)

@[simp] theorem Ledger.made_next (s : Step) : (l.next w s).made = (l.own w s).made := rfl

@[simp] theorem Ledger.live_next (s : Step) : (l.next w s).live = (l.own w s).live := rfl

theorem Ledger.own_of_orderly {s : Step} (hs : s.request.isOrderly) : l.own w s = l := by
  unfold own
  split
  · next hq _ =>
    rw [hq] at hs
    cases hs
  · next hq _ =>
    rw [hq] at hs
    cases hs
  · rfl

theorem Ledger.own_of_error {s : Step} {fault : Fault}
    (hs : (advance s w).1.answer = .error fault) : l.own w s = l := by
  unfold own
  rw [hs]
  split
  · next h => cases h
  · next h => cases h
  · rfl

theorem Ledger.own_decorate {n m k : Nat} {offset : Position} {text style : Text} {mark : Mark}
    (hs : (advance ⟨n, m, .decorate offset text style⟩ w).1.answer = .ok (.number k))
    (hk : (advance ⟨n, m, .decorate offset text style⟩ w).2.handles[k]? = some mark) :
    l.own w ⟨n, m, .decorate offset text style⟩ = l.add [mark] := by
  unfold own
  rw [hs]
  simp only
  rw [hk]
  rfl

theorem Ledger.own_remove {n m k : Nat} {mark : Mark} {answer : Answer}
    (hs : (advance ⟨n, m, .remove k⟩ w).1.answer = .ok answer) (hk : w.handles[k]? = some mark) :
    l.own w ⟨n, m, .remove k⟩ = { l with live := l.live.filter fun m => m != mark } := by
  unfold own
  rw [hs]
  simp only [hk, Ledger.mk.injEq, true_and, and_true]
  apply List.filter_congr
  intro m _
  rw [Bool.eq_iff_iff, bne_iff_ne, bne_iff_ne, ne_eq, Option.some.injEq]
  exact not_congr eq_comm

end

/-- Whether a host that goes by a ledger may make a step: one that is orderly, one that decorates a
document, or one that asks a document to take off a decoration that the host has made there. -/
def Ledger.Allows (l : Ledger) (w : World) (s : Step) : Prop :=
  match s.request with
  | .decorate .. => True
  | .remove h => ∀ mark, w.handles[h]? = some mark → mark ∈ l.made ∧ mark.document = s.document
  | request => request.isOrderly

/-- The sessions of such a host, over documents of different names and controllers that share one
store. -/
inductive Played : World → Ledger → Prop
  | start (host : Host) (terminal : Bool) {documents : List Document} {plans : List Plan} :
      (∀ d ∈ documents, d.IsFresh) → (documents.map Document.id).Nodup →
      (∀ p ∈ plans, p.own = false) →
      (∀ p ∈ plans, ∀ run ∈ p.script, ∀ s ∈ run.during, s.request.isOrderly) →
      Played (World.start host terminal documents plans) ⟨[], [], []⟩
  | step {w : World} {l : Ledger} {s : Step} : Played w l → l.Allows w s →
      Played (advance s w).2 (l.next w s)

/-! ## Decorations of the host -/

/-- What comes of a step that decorates a document. -/
theorem advance_decorate (w : World) (n m : Nat) (offset : Position) (text style : Text) :
    let s : Step := ⟨n, m, .decorate offset text style⟩
    (∃ fault, (advance s w).1.answer = .error fault ∧ Alike w (advance s w).2) ∨
      ∃ d x h, (w.documents : List Document)[n]? = some d ∧ x.active = true ∧
        (advance s w).1.answer = .ok (.number h) ∧
        (advance s w).2.handles[h]? = some ⟨n, d.count⟩ ∧
        Alike { w with documents := List.set w.documents n (d.attachAll [x]) } (advance s w).2 := by
  intro s
  obtain ⟨hanswer, more, hafter⟩ := advance_eq s w
  have hstep : (step deepest s).run w.resumed =
      (aboutDecorations n (.decorate offset text style)).run w.resumed := rfl
  unfold World.after at hafter
  rw [hanswer, hafter, hstep]
  unfold aboutDecorations
  rw [document_bind]
  cases hd : (w.resumed.documents : List Document)[n]? with
  | none => exact .inl ⟨_, rfl, rfl, rfl, rfl, rfl, rfl, rfl⟩
  | some d =>
    simp only [orFault_bind]
    cases hdecorate : d.decorate offset text style with
    | error e => exact .inl ⟨_, rfl, rfl, rfl, rfl, rfl, rfl, rfl⟩
    | ok result =>
      obtain ⟨d', number⟩ := result
      obtain ⟨x, hx, rfl, rfl⟩ := Document.decorate_ok hdecorate
      simp only [setDocument_bind]
      obtain ⟨h, others, hhandle, hget⟩ := run_handle ⟨n, d.count⟩
        { w.resumed with documents := List.set w.resumed.documents n (d.attachAll [x]) }
      rw [run_bind_ok hhandle]
      refine .inr ⟨d, x, h, hd, hx, rfl, ?_, rfl, rfl, rfl, rfl, rfl, rfl⟩
      exact List.getElem?_append_left (List.getElem?_eq_some_iff.mp hget).1 ▸ hget

/-- What comes of a step that takes a decoration off. -/
theorem advance_remove (w : World) (n m h : Nat) :
    let s : Step := ⟨n, m, .remove h⟩
    (∃ fault, (advance s w).1.answer = .error fault ∧ Alike w (advance s w).2) ∨
      ∃ mark, w.handles[h]? = some mark ∧ (advance s w).1.answer = .ok .done ∧
        Alike { w with documents := w.documents.remove n mark } (advance s w).2 := by
  intro s
  obtain ⟨hanswer, more, hafter⟩ := advance_eq s w
  have hstep : (step deepest s).run w.resumed =
      (aboutDecorations n (.remove h)).run w.resumed := rfl
  unfold World.after at hafter
  rw [hanswer, hafter, hstep]
  unfold aboutDecorations
  rw [get_bind, orNothing_bind]
  cases hmark : w.resumed.handles[h]? with
  | none => exact .inl ⟨_, rfl, rfl, rfl, rfl, rfl, rfl, rfl⟩
  | some mark => exact .inr ⟨mark, hmark, rfl, rfl, rfl, rfl, rfl, rfl, rfl⟩

/-! ## What a host does to a coherent desk -/

section
variable {own : List Mark} {n : Nat} {d : Document} {k : Desk}

/-- A store that keeps a batch keeps it under the name of a document. -/
theorem Coherent.exists_of_mem_kept (h : Coherent own k) {batch : List Mark}
    (hbatch : batch ∈ k.kept) :
    ∃ d ∈ (k.documents : List Document), k.shared.marks d.id = batch := by
  obtain ⟨entry, hentry, rfl⟩ := List.mem_map.mp hbatch
  obtain ⟨d, hd, hname⟩ := List.mem_map.mp (h.names entry.1 (List.mem_map_of_mem hentry))
  refine ⟨d, hd, ?_⟩
  unfold Store.marks Store.annotations
  rw [hname, lookup_of_mem h.names_nodup hentry]
  rfl

/-- What is kept under a name is the batch of a document. -/
theorem Coherent.exists_of_mem_marks (h : Coherent own k) {name : Text} {mark : Mark}
    (hmark : mark ∈ k.shared.marks name) :
    k.shared.marks name ∈ k.kept ∧
      ∃ d, (k.documents : List Document)[mark.document]? = some d ∧ d.id = name := by
  obtain ⟨a, ha, rfl⟩ := List.mem_map.mp hmark
  have hentry := Store.mem_batches ha
  refine ⟨List.mem_map.mpr ⟨_, hentry, rfl⟩, ?_⟩
  obtain ⟨d, hd, hid⟩ := List.mem_map.mp (h.names name (List.mem_map.mpr ⟨_, hentry, rfl⟩))
  obtain ⟨n, hd⟩ := List.mem_iff_getElem?.mp hd
  have hn : a.mark.document = n := h.mark_document hd (hid ▸ ha)
  exact ⟨d, hn ▸ hd, hid⟩

/-- What the store keeps is attached and not the host's. -/
theorem Coherent.kept (h : Coherent own k) {batch : List Mark} (hbatch : batch ∈ k.kept)
    {mark : Mark} (hmark : mark ∈ batch) : k.documents.Attached mark ∧ mark ∉ own := by
  obtain ⟨d, hd, rfl⟩ := h.exists_of_mem_kept hbatch
  obtain ⟨n, hd⟩ := List.mem_iff_getElem?.mp hd
  have hperm := h.attached n d hd
  have hattached := hperm.mem_iff.mpr (List.mem_append_right _ hmark)
  obtain ⟨j, hj, rfl⟩ := List.mem_map.mp hattached
  refine ⟨⟨d, hd, hj⟩, fun hown => ?_⟩
  have hnodup := hperm.nodup_iff.mp (h.nodup_marks hd)
  rw [List.nodup_append] at hnodup
  exact hnodup.2.2 _ (mem_marksOn.mpr ⟨hown, rfl⟩) _ hmark rfl

/-- A decoration that is attached is the host's or kept. -/
theorem Coherent.own_or_kept (h : Coherent own k) {mark : Mark}
    (ha : k.documents.Attached mark) : mark ∈ own ∨ ∃ batch ∈ k.kept, mark ∈ batch := by
  obtain ⟨d, hd, hmem⟩ := ha
  have hmark : mark ∈ d.numbers.map (Mark.mk mark.document) := List.mem_map.mpr ⟨_, hmem, rfl⟩
  rw [(h.attached _ d hd).mem_iff, List.mem_append] at hmark
  rcases hmark with hmark | hmark
  · exact .inl (mem_marksOn.mp hmark).1
  · exact .inr ⟨_, (h.exists_of_mem_marks hmark).1, hmark⟩

/-- A batch shares nothing with what is kept under another name. -/
theorem Coherent.eq_or_disjoint (h : Coherent own k) {batch : List Mark} (hbatch : batch ∈ k.kept)
    (name : Text) : batch = k.shared.marks name ∨ batch.Disjoint (k.shared.marks name) := by
  obtain ⟨d, hd, rfl⟩ := h.exists_of_mem_kept hbatch
  by_cases hname : d.id = name
  · subst hname
    exact .inl rfl
  · refine .inr fun mark hmark hmark' => hname ?_
    obtain ⟨-, e, he, hid⟩ := h.exists_of_mem_marks hmark
    obtain ⟨-, e', he', rfl⟩ := h.exists_of_mem_marks hmark'
    cases he.symm.trans he'
    exact hid.symm

theorem Coherent.update_decorate (h : Coherent own k)
    (hd : (k.documents : List Document)[n]? = some d) {x : Decoration} (hx : x.active = true) :
    Update n d (d.attachAll [x]) k
      { k with documents := List.set k.documents n (d.attachAll [x]) } := by
  apply update_set h hd (Document.redecorated_attachAll d [x]).toEvolves
  apply Document.active_attachAll (h.active d (List.mem_of_getElem? hd))
  simpa using hx

/-- A host may decorate a document. -/
theorem Coherent.decorate (h : Coherent own k) (hd : (k.documents : List Document)[n]? = some d)
    {x : Decoration} (hx : x.active = true) :
    Coherent (own ++ [⟨n, d.count⟩])
      { k with documents := List.set k.documents n (d.attachAll [x]) } := by
  have hon : marksOn n (own ++ [⟨n, d.count⟩]) = marksOn n own ++ [⟨n, d.count⟩] := by
    unfold marksOn
    simp
  refine (h.update_decorate hd hx).coherent h ?_ (fun mark hmark => ?_) (fun i hi => ?_)
  · rw [Document.numbers_attachAll, List.map_append, hon]
    refine ((h.attached n d hd).append_right _).trans ?_
    rw [List.append_assoc, List.append_assoc]
    exact List.perm_append_comm.append_left _
  · rcases List.mem_append.mp hmark with hmark | hmark
    · exact .inr hmark
    · cases List.mem_singleton.mp hmark
      exact .inl rfl
  · unfold marksOn
    simp [Ne.symm hi]

/-- What is the host's or not attached is not kept. -/
theorem Coherent.notMem_marks (h : Coherent own k) {mark : Mark}
    (hmark : mark ∈ own ∨ ¬ k.documents.Attached mark) (name : Text) :
    mark ∉ k.shared.marks name := by
  intro hkept
  obtain ⟨hbatch, -⟩ := h.exists_of_mem_marks hkept
  obtain ⟨hattached, hown⟩ := h.kept hbatch hkept
  rcases hmark with hmark | hmark
  · exact hown hmark
  · exact hmark hattached

/-- A host may take off what it has made. -/
theorem Coherent.remove (h : Coherent own k) {mark : Mark} (hn : mark.document = n)
    (hnumbered : k.documents.Numbered mark) (hmark : mark ∈ own ∨ ¬ k.documents.Attached mark) :
    ∃ d d', Update n d d' k { k with documents := k.documents.remove n mark } ∧
      Coherent (own.filter fun m => m != mark)
        { k with documents := k.documents.remove n mark } ∧
      ¬ (k.documents.remove n mark).Attached mark := by
  obtain ⟨d, hd, -⟩ := hnumbered
  rw [hn] at hd
  have hactive : ∀ entry ∈ (d.detach mark.number).attached, entry.2.active = true := by
    intro entry hentry
    rw [Document.attached_detach] at hentry
    exact h.active d (List.mem_of_getElem? hd) entry (List.mem_filter.mp hentry).1
  have hupdate := update_set h hd (Document.redecorated_detach d mark.number).toEvolves hactive
  have hlt := (List.getElem?_eq_some_iff.mp hd).1
  have hnot := h.notMem_marks hmark d.id
  rw [Documents.remove_eq_set hd hn]
  refine ⟨d, d.detach mark.number, hupdate, hupdate.coherent h ?_ ?_ ?_, ?_⟩
  · obtain ⟨i, j⟩ := mark
    cases hn
    -- the decoration is not kept, so taking it off both sides only touches what is owned
    have hmarks : ((k.shared.marks d.id).filter fun m => m != ⟨i, j⟩) = k.shared.marks d.id := by
      apply List.filter_eq_self.mpr
      intro m hm
      have hne : m ≠ ⟨i, j⟩ := fun heq => hnot (heq ▸ hm)
      simpa using hne
    show ((d.detach j).numbers.map (Mark.mk i)).Perm
      (marksOn i (own.filter fun m => m != ⟨i, j⟩) ++ k.shared.marks d.id)
    rw [Document.numbers_detach, map_mark_filter_ne, marksOn_filter, ← hmarks,
      ← List.filter_append]
    exact (h.attached i d hd).filter _
  · exact fun m hm => .inr (List.mem_filter.mp hm).1
  · intro i hi
    rw [marksOn_filter]
    apply List.filter_eq_self.mpr
    intro m hm
    have hne : m ≠ mark := by
      rintro rfl
      exact hi ((mem_marksOn.mp hm).2.symm.trans hn)
    simpa using hne
  · rintro ⟨e, he, hmem⟩
    rw [hn] at he
    cases (List.getElem?_set_self hlt).symm.trans he
    rw [Document.numbers_detach] at hmem
    simp at hmem

end

/-! ## What a ledger knows -/

/-- A ledger tells the decorations of the host from those of the store. -/
structure Agrees (w : World) (l : Ledger) : Prop where
  fits : ∃ roster hshared, Fits (Rules.orderly roster hshared fun _ => True) w
  coherent : Coherent l.live w.desk
  made_numbered : ∀ mark ∈ l.made, w.documents.Numbered mark
  made_or : ∀ mark ∈ l.made, mark ∈ l.live ∨ ¬ w.documents.Attached mark
  shown_numbered : ∀ batch ∈ l.shown, ∀ mark ∈ batch, w.documents.Numbered mark
  shown_not_live : ∀ batch ∈ l.shown, ∀ mark ∈ batch, mark ∉ l.live
  shown_whole : ∀ batch ∈ l.shown, ∀ name, batch = w.desk.shared.marks name ∨
    batch.Disjoint (w.desk.shared.marks name)

/-- What is to be shown of a step: that the desk is coherent with what is live then, and what has
become of the decorations of the host. -/
theorem Agrees.next {w w' : World} {l l' : Ledger} (h : Agrees w l)
    (hfits : ∃ roster hshared, Fits (Rules.orderly roster hshared fun _ => True) w')
    (he : w.documents.Evolve w'.documents) (hrenews : Renews w.desk w'.desk)
    (hcoherent : Coherent l'.live w'.desk)
    (hmade : ∀ mark ∈ l'.made, mark ∈ l.made ∧
        (mark ∈ l.live → mark ∈ l'.live ∨ ¬ w'.documents.Attached mark) ∨
      w'.documents.Numbered mark ∧ mark ∈ l'.live)
    (hlive : ∀ mark ∈ l'.live, mark ∈ l.live ∨ ¬ w.documents.Numbered mark)
    (hshown : l'.shown = l.shown ++ w'.desk.kept) : Agrees w' l' := by
  have hkept : ∀ batch ∈ l'.shown, batch ∈ l.shown ∨ batch ∈ w'.desk.kept := by
    intro batch hbatch
    rw [hshown] at hbatch
    exact List.mem_append.mp hbatch
  refine ⟨hfits, hcoherent, fun mark hmark => ?_, fun mark hmark => ?_,
    fun batch hbatch mark hmark => ?_, fun batch hbatch mark hmark => ?_,
    fun batch hbatch name => ?_⟩
  · rcases hmade mark hmark with ⟨hmark, -⟩ | ⟨hnumbered, -⟩
    · exact he.numbered (h.made_numbered mark hmark)
    · exact hnumbered
  · rcases hmade mark hmark with ⟨hmark, hkeeps⟩ | ⟨-, hmark⟩
    · rcases h.made_or mark hmark with hon | hoff
      · exact hkeeps hon
      · exact .inr fun ha => hoff (he.attached (h.made_numbered mark hmark) ha)
    · exact .inl hmark
  · rcases hkept batch hbatch with hbatch | hbatch
    · exact he.numbered (h.shown_numbered batch hbatch mark hmark)
    · exact hcoherent.tidy.numbered (hcoherent.kept hbatch hmark).1
  · rcases hkept batch hbatch with hbatch | hbatch
    · intro hon
      rcases hlive mark hon with hon | hnew
      · exact h.shown_not_live batch hbatch mark hmark hon
      · exact hnew (h.shown_numbered batch hbatch mark hmark)
    · exact (hcoherent.kept hbatch hmark).2
  · rcases hkept batch hbatch with hbatch | hbatch
    · -- a batch that was kept before is older than whatever has taken its place
      rcases hrenews name with hsame | hnew
      · rw [hsame]
        exact h.shown_whole batch hbatch name
      · refine .inr fun mark hmark hmark' => hnew mark hmark' ?_
        exact h.shown_numbered batch hbatch mark hmark
    · exact hcoherent.eq_or_disjoint hbatch name

theorem Agrees.orderly {w : World} {l : Ledger} (h : Agrees w l) {s : Step}
    (hs : s.request.isOrderly) : Agrees (advance s w).2 (l.next w s) := by
  obtain ⟨roster, hshared, hfits⟩ := h.fits
  have hcourse := course_advance hfits (orderly_anywhere hs)
  have hown := l.own_of_orderly w hs
  refine h.next ⟨roster, hshared, hcourse.fits hfits⟩ hcourse.evolve hcourse.renews ?_ ?_ ?_ rfl
  · rw [l.live_next, hown]
    exact (hcourse.orderly h.coherent).1
  · rw [l.made_next, l.live_next, hown]
    exact fun mark hmark => .inl ⟨hmark, .inl⟩
  · rw [l.live_next, hown]
    exact fun mark hmark => .inl hmark

/-- A step that fails and changes nothing. -/
theorem Agrees.failed {w : World} {l : Ledger} (h : Agrees w l) {s : Step} {fault : Fault}
    (hs : (advance s w).1.answer = .error fault) (hsame : Alike w (advance s w).2) :
    Agrees (advance s w).2 (l.next w s) := by
  obtain ⟨roster, hshared, hfits⟩ := h.fits
  have hown := l.own_of_error w hs
  refine h.next ⟨roster, hshared, hsame.fits hfits⟩ ?_ ?_ ?_ ?_ ?_ rfl
  · rw [hsame.documents]
    exact .refl _
  · rw [hsame.desk]
    exact .refl w.desk
  · rw [l.live_next, hown, hsame.desk]
    exact h.coherent
  · rw [l.made_next, l.live_next, hown]
    exact fun mark hmark => .inl ⟨hmark, .inl⟩
  · rw [l.live_next, hown]
    exact fun mark hmark => .inl hmark

theorem Agrees.decorate {w : World} {l : Ledger} (h : Agrees w l) (n m : Nat) (offset : Position)
    (text style : Text) :
    Agrees (advance ⟨n, m, .decorate offset text style⟩ w).2
      (l.next w ⟨n, m, .decorate offset text style⟩) := by
  rcases advance_decorate w n m offset text style with
    ⟨fault, hanswer, hsame⟩ | ⟨d, x, k, hd, hx, hanswer, hhandle, hsame⟩
  · exact h.failed hanswer hsame
  · have hown := l.own_decorate w hanswer hhandle
    obtain ⟨roster, hshared, hfits⟩ := h.fits
    have hevolve := Documents.Evolve.set hd (Document.redecorated_attachAll d [x]).toEvolves
    have hdocs : (advance ⟨n, m, .decorate offset text style⟩ w).2.documents
        = List.set w.documents n (d.attachAll [x]) := hsame.documents
    have hlt := (List.getElem?_eq_some_iff.mp hd).1
    have hnew : ¬ w.documents.Numbered ⟨n, d.count⟩ := by
      rintro ⟨d', hd', hcount⟩
      cases hd.symm.trans hd'
      exact Nat.lt_irrefl _ hcount
    have hthen : (advance ⟨n, m, .decorate offset text style⟩ w).2.documents.Numbered
        ⟨n, d.count⟩ := by
      rw [hdocs]
      exact ⟨d.attachAll [x], List.getElem?_set_self hlt, Nat.lt_succ_self _⟩
    refine h.next ⟨roster, hshared, hsame.fits (hfits.set hd fun _ => .inl)⟩ (hdocs ▸ hevolve)
      ?_ ?_ ?_ ?_ rfl
    · rw [hsame.desk]
      exact .refl w.desk
    · rw [l.live_next, hown, hsame.desk]
      exact h.coherent.decorate hd hx
    · rw [l.made_next, l.live_next, hown]
      intro mark hmark
      rcases List.mem_append.mp hmark with hmark | hmark
      · exact .inl ⟨hmark, fun hon => .inl (List.mem_append_left _ hon)⟩
      · refine .inr ⟨?_, List.mem_append_right _ hmark⟩
        cases List.mem_singleton.mp hmark
        exact hthen
    · rw [l.live_next, hown]
      intro mark hmark
      rcases List.mem_append.mp hmark with hmark | hmark
      · exact .inl hmark
      · cases List.mem_singleton.mp hmark
        exact .inr hnew

theorem Agrees.remove {w : World} {l : Ledger} (h : Agrees w l) (n m k : Nat)
    (hallowed : ∀ mark, w.handles[k]? = some mark → mark ∈ l.made ∧ mark.document = n) :
    Agrees (advance ⟨n, m, .remove k⟩ w).2 (l.next w ⟨n, m, .remove k⟩) := by
  rcases advance_remove w n m k with ⟨fault, hanswer, hsame⟩ | ⟨mark, hmark, hanswer, hsame⟩
  · exact h.failed hanswer hsame
  · have hown := l.own_remove w hanswer hmark
    obtain ⟨hmade, hn⟩ := hallowed mark hmark
    obtain ⟨-, -, -, hcoherent, hoff⟩ :=
      h.coherent.remove hn (h.made_numbered mark hmade) (h.made_or mark hmade)
    obtain ⟨roster, hshared, hfits⟩ := h.fits
    have hfits' : Fits (Rules.orderly roster hshared fun _ => True)
        { w with documents := w.documents.remove n mark } := by
      refine ⟨hfits.roster, hfits.stores, hfits.scripts, hfits.callbacks, fun i j e' he' hj => ?_⟩
      obtain ⟨e, he, hsub⟩ := NoneNew.remove w.documents n mark i e' he'
      exact hfits.listeners i j e he (hsub hj)
    have hdocs : (advance ⟨n, m, .remove k⟩ w).2.documents = w.documents.remove n mark :=
      hsame.documents
    refine h.next ⟨roster, hshared, hsame.fits hfits'⟩
      (hdocs ▸ w.documents.evolve_remove n mark) ?_ ?_ ?_ ?_ rfl
    · rw [hsame.desk]
      exact .refl w.desk
    · rw [l.live_next, hown, hsame.desk]
      exact hcoherent
    · rw [l.made_next, l.live_next, hown]
      intro other hother
      refine .inl ⟨hother, fun hon => ?_⟩
      by_cases heq : other = mark
      · subst heq
        rw [hdocs]
        exact .inr hoff
      · exact .inl (List.mem_filter.mpr ⟨hon, by simpa using heq⟩)
    · rw [l.live_next, hown]
      exact fun other hother => .inl (List.mem_filter.mp hother).1

theorem coherent_start (host : Host) (terminal : Bool) {documents : List Document}
    (plans : List Plan) (hfresh : ∀ d ∈ documents, d.IsFresh)
    (hids : (documents.map Document.id).Nodup) :
    Coherent [] (World.start host terminal documents plans).desk := by
  have hnumbers : ∀ d ∈ documents, d.attached = [] := by
    intro d hd
    have hd := hfresh d hd
    rw [hd]
    rfl
  refine ⟨hids, fun d hd => (hfresh d hd).tidy, List.nodup_nil, (fun _ h => nomatch h),
    fun n d hd => ?_, fun d hd entry hentry => ?_, (fun _ h => nomatch h)⟩
  · have hd := hnumbers d (List.mem_of_getElem? hd)
    unfold Document.numbers
    rw [hd]
    exact List.Perm.refl []
  · rw [hnumbers d hd] at hentry
    cases hentry

/-- Every ledger tells the decorations of the host from those of the store. -/
theorem Played.agrees {w : World} {l : Ledger} (h : Played w l) : Agrees w l := by
  induction h with
  | @start host terminal documents plans hfresh hids hown hscripts =>
    refine ⟨⟨rosterOf plans, shared_of_mem_rosterOf hown, fits_start host terminal hfresh rfl ?_⟩,
      coherent_start host terminal plans hfresh hids, ?_, ?_, ?_, ?_, ?_⟩
    · exact fun p hp run hrun s hs => orderly_anywhere (hscripts p hp run hrun s hs)
    all_goals exact fun _ h => nomatch h
  | @step w l s _ hallows ih =>
    obtain ⟨n, m, request⟩ := s
    unfold Ledger.Allows at hallows
    cases request with
    | decorate offset text style => exact ih.decorate n m offset text style
    | remove k => exact ih.remove n m k hallows
    | _ => exact ih.orderly hallows

end Marginalia.Session

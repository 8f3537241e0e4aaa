import Marginalia.Proofs.Session.Modes
import Marginalia.Proofs.Session.Namesakes
import Marginalia.Proofs.Session.Turns

/-!
# Switching off

A controller that is switched off takes off what its store keeps for its document.  `Tracks` follows
what stores come to keep afterwards: what is still attached of all that was ever placed is what is
kept now, and nothing is kept for a document from when it is switched off until something is placed
for it again.  `precept_tracks` says that whatever happens keeps to this.

A run that is in progress places its batch whether the mode is on or not.  The main statement is
`off_after_disable`: a controller that has been switched off stays off, and its document stays bare
unless a run of its store and document was in progress at that time or has begun since, or the host
places something itself.  `batch_placed_after_disable` is a run that is in progress and places its
batch on a document whose mode is off.
-/

namespace Marginalia.Session

/-! ## Batches -/

/-- What a store keeps for a document. -/
def World.batch (w : World) (s i : Nat) : List Annotation :=
  ((w.documents : List Document)[i]?.bind fun d =>
    w.stores[s]?.map fun st => st.annotations d.id).getD []

section
variable {w w' : World} {s i s' i' : Nat} {st st' : Store} {d : Document}

theorem batch_eq (hs : w.stores[s]? = some st) (hd : (w.documents : List Document)[i]? = some d) :
    w.batch s i = st.annotations d.id := by
  simp [World.batch, hs, hd]

theorem batch_of_no_document (hd : (w.documents : List Document)[i]? = none) :
    w.batch s i = [] := by
  simp [World.batch, hd]

theorem batch_of_no_store (hs : w.stores[s]? = none) : w.batch s i = [] := by
  simp [World.batch, hs]

/-- Where a store stays as it is, so does what it keeps for documents. -/
theorem batch_of_evolve (hs : w'.stores[s]? = w.stores[s]?)
    (he : w.documents.Evolve w'.documents) (i : Nat) : w'.batch s i = w.batch s i := by
  cases hd' : (w'.documents : List Document)[i]? with
  | none =>
    have hd : (w.documents : List Document)[i]? = none := by
      rw [List.getElem?_eq_none_iff] at hd' ⊢
      rw [← he.length_eq]
      exact hd'
    rw [batch_of_no_document hd', batch_of_no_document hd]
  | some d' =>
    obtain ⟨d, hd, hevolves⟩ := he.exists_of' hd'
    simp [World.batch, hs, hd, hd', hevolves.id_eq]

/-- A store that changes under the name of one document changes nothing for the others. -/
theorem batch_of_set (hs : w.stores[s]? = some st)
    (hd : (w.documents : List Document)[i]? = some d) (hs' : w'.stores = w.stores.set s st')
    (he : w.documents.Evolve w'.documents)
    (hothers : ∀ name, name ≠ d.id → st'.annotations name = st.annotations name)
    (hsole : w.documents.Sole i') (hne : ¬ (s' = s ∧ i' = i)) :
    w'.batch s' i' = w.batch s' i' := by
  by_cases hss : s' = s
  · subst hss
    have hst' : w'.stores[s']? = some st' := by
      rw [hs']
      exact List.getElem?_set_self (List.getElem?_eq_some_iff.mp hs).1
    cases hd'' : (w'.documents : List Document)[i']? with
    | none =>
      have hd' : (w.documents : List Document)[i']? = none := by
        rw [List.getElem?_eq_none_iff] at hd'' ⊢
        rw [← he.length_eq]
        exact hd''
      rw [batch_of_no_document hd'', batch_of_no_document hd']
    | some d'' =>
      obtain ⟨d', hd', hevolves⟩ := he.exists_of' hd''
      rw [batch_eq hst' hd'', batch_eq hs hd', hevolves.id_eq]
      -- the name is another one, since the document has it to itself
      refine hothers _ fun hid => hne ⟨rfl, ?_⟩
      exact (hsole i d' d hd' hd hid.symm).symm
  · refine batch_of_evolve ?_ he i'
    rw [hs', List.getElem?_set_ne (Ne.symm hss)]

end

/-! ## What is tracked -/

/-- What a note makes of the documents for which a store keeps nothing since they were switched
off. -/
def Note.emptied (roster : List (Nat × Nat)) (gone : List (Nat × Nat)) : Note → List (Nat × Nat)
  | .event (.switched n false) => roster[n]?.toList ++ gone
  | .placed _ s i _ => gone.filter fun e => e ≠ (i, s)
  | _ => gone

/-- What is known of a world after notes have been made, in a session whose controllers are bound to
given documents and stores. -/
structure Tracks (roster : List (Nat × Nat)) (past : List Note) (w : World) : Prop where
  bound : w.controllers.map (fun c => (c.document, c.store)) = roster
  sound : w.desk.Sound
  runner : ∀ n s i batch, .placed (some n) s i batch ∈ past → roster[n]? = some (i, s)
  numbered : ∀ runner s i batch, .placed runner s i batch ∈ past → ∀ a ∈ batch,
    w.documents.Numbered a.mark
  kept : ∀ runner s i batch, .placed runner s i batch ∈ past → w.documents.Sole i →
    ∀ a ∈ batch, a.mark.document = i → w.documents.Attached a.mark → a ∈ w.batch s i
  gone : ∀ s i, (i, s) ∈ past.foldl (Note.emptied roster) [] → w.documents.Sole i →
    w.batch s i = []

/-- A note that is about neither a batch nor a mode that is switched off. -/
def Note.isIdle : Note → Bool
  | .event (.switched _ false) => false
  | .placed .. => false
  | _ => true

theorem Note.emptied_of_isIdle {note : Note} (h : note.isIdle) (roster gone : List (Nat × Nat)) :
    note.emptied roster gone = gone := by
  cases note with
  | placed runner s i batch => cases h
  | event e =>
    cases e with
    | switched n on =>
      cases on with
      | false => cases h
      | true => rfl
    | _ => rfl

namespace Tracks
variable {roster : List (Nat × Nat)} {past : List Note} {w w' : World} {s i n : Nat} {st : Store}
  {d : Document} {batch : List Annotation}

theorem roster_of (h : Tracks roster past w) {c : Controller} (hc : w.controllers[n]? = some c) :
    roster[n]? = some (c.document, c.store) := by
  rw [← h.bound, List.getElem?_map, hc]
  rfl

/-- Controllers stay bound to their documents and stores. -/
theorem modified (h : Tracks roster past w) {change : Controller → Controller}
    (hc : w'.controllers = w.controllers.modify n change)
    (hchange : ∀ c, (change c).document = c.document ∧ (change c).store = c.store) :
    w'.controllers.map (fun c => (c.document, c.store)) = roster := by
  rw [← h.bound, hc]
  apply List.ext_getElem?
  intro m
  rw [List.getElem?_map, List.getElem?_map, List.getElem?_modify]
  cases w.controllers[m]? with
  | none => rfl
  | some c =>
    by_cases hm : n = m
    · simp [hm, hchange]
    · simp [hm]

/-- Stores stay as they are, and nothing is put on again that has been taken off. -/
theorem of_evolve (h : Tracks roster past w)
    (hbound : w'.controllers.map (fun c => (c.document, c.store)) = roster)
    (hstores : w'.stores = w.stores) (he : w.documents.Evolve w'.documents)
    (hsound : w'.desk.Sound) : Tracks roster past w' := by
  have hbatch : ∀ s i, w'.batch s i = w.batch s i := fun s => batch_of_evolve (by rw [hstores]) he
  refine ⟨hbound, hsound, h.runner, ?_, ?_, ?_⟩
  · exact fun runner s i batch hp a ha => he.numbered (h.numbered runner s i batch hp a ha)
  · intro runner s i batch hp hsole a ha hi hattached
    rw [hbatch]
    refine h.kept runner s i batch hp (he.sole_iff.mp hsole) a ha hi ?_
    exact he.attached (h.numbered runner s i batch hp a ha) hattached
  · intro s i hgone hsole
    rw [hbatch]
    exact h.gone s i hgone (he.sole_iff.mp hsole)

theorem of_quiet (h : Tracks roster past w) (hq : Quiet w w') : Tracks roster past w' :=
  h.of_evolve (by rw [hq.controllers]; exact h.bound) hq.stores hq.evolve (hq.sound h.sound)

/-- Documents change in who listens to them only. -/
theorem listen (h : Tracks roster past w)
    (hbound : w'.controllers.map (fun c => (c.document, c.store)) = roster)
    (hstores : w'.stores = w.stores) (hslots : w'.slots = w.slots)
    (he : w.documents.Evolve w'.documents) : Tracks roster past w' := by
  refine h.of_evolve hbound hstores he ?_
  have hdesk : w'.desk = { w.desk with documents := w'.documents } := by
    show Desk.mk _ _ _ = Desk.mk _ _ _
    rw [hstores, hslots]
    rfl
  rw [hdesk]
  exact h.sound.of_evolve he

theorem idle (h : Tracks roster past w) {note : Note} (hnote : note.isIdle) :
    Tracks roster (past ++ [note]) w := by
  have hplaced : ∀ runner s i batch, .placed runner s i batch ∈ past ++ [note] →
      .placed runner s i batch ∈ past := by
    intro runner s i batch hp
    rcases List.mem_append.mp hp with hp | hp
    · exact hp
    · cases List.mem_singleton.mp hp
      cases hnote
  refine ⟨h.bound, h.sound, fun n s i batch hp => h.runner n s i batch (hplaced _ _ _ _ hp),
    fun runner s i batch hp => h.numbered runner s i batch (hplaced _ _ _ _ hp),
    fun runner s i batch hp => h.kept runner s i batch (hplaced _ _ _ _ hp), ?_⟩
  intro s i hgone
  rw [List.foldl_append, List.foldl_cons, List.foldl_nil, Note.emptied_of_isIdle hnote] at hgone
  exact h.gone s i hgone

/-- A store changes what it keeps for one document: nothing of it is left on that document but what
is kept then, and what is noted is what is kept then. -/
theorem of_set (h : Tracks roster past w) (hs : w.stores[s]? = some st)
    (hd : (w.documents : List Document)[i]? = some d) {st' : Store} {docs : Documents}
    {notes : List Note} (he : w.documents.Evolve docs)
    (hsound : Desk.Sound { w.desk with documents := docs, stores := w.stores.set s st' })
    (hothers : ∀ name, name ≠ d.id → st'.annotations name = st.annotations name)
    (hself : ∀ a ∈ st.annotations d.id, a.mark.document = i → docs.Attached a.mark →
      a ∈ st'.annotations d.id)
    (hnotes : ∀ runner s' i' batch, .placed runner s' i' batch ∈ notes →
      (s' = s ∧ i' = i ∧ batch = st'.annotations d.id) ∧
      (∀ n, runner = some n → roster[n]? = some (i, s)) ∧ ∀ a ∈ batch, docs.Numbered a.mark)
    (hgone : ∀ e ∈ (past ++ notes).foldl (Note.emptied roster) [],
      e ∈ past.foldl (Note.emptied roster) [] ∧ (e = (i, s) → st'.annotations d.id = [])) :
    Tracks roster (past ++ notes) { w with documents := docs, stores := w.stores.set s st' } := by
  let w' : World := { w with documents := docs, stores := w.stores.set s st' }
  have hself' : w'.batch s i = st'.annotations d.id := by
    obtain ⟨d', hd', hevolves⟩ := he.exists_of hd
    have hst' : w'.stores[s]? = some st' :=
      List.getElem?_set_self (List.getElem?_eq_some_iff.mp hs).1
    rw [batch_eq hst' hd', hevolves.id_eq]
  have hbatch : ∀ s' i', w.documents.Sole i' → ¬ (s' = s ∧ i' = i) →
      w'.batch s' i' = w.batch s' i' := fun s' i' hsole hne =>
    batch_of_set hs hd rfl he hothers hsole hne
  refine ⟨h.bound, hsound, ?_, ?_, ?_, ?_⟩
  · intro n s' i' batch hp
    rcases List.mem_append.mp hp with hp | hp
    · exact h.runner n s' i' batch hp
    · obtain ⟨⟨rfl, rfl, -⟩, hrunner, -⟩ := hnotes _ _ _ _ hp
      exact hrunner n rfl
  · intro runner s' i' batch hp a ha
    rcases List.mem_append.mp hp with hp | hp
    · exact he.numbered (h.numbered runner s' i' batch hp a ha)
    · exact (hnotes _ _ _ _ hp).2.2 a ha
  · intro runner s' i' batch hp hsole' a ha hi hattached
    have hsole := he.sole_iff.mp hsole'
    show a ∈ w'.batch s' i'
    rcases List.mem_append.mp hp with hp | hp
    · have hattached' := he.attached (h.numbered runner s' i' batch hp a ha) hattached
      have hkept := h.kept runner s' i' batch hp hsole a ha hi hattached'
      by_cases hsi : s' = s ∧ i' = i
      · obtain ⟨rfl, rfl⟩ := hsi
        rw [batch_eq hs hd] at hkept
        rw [hself']
        exact hself a hkept hi hattached
      · rw [hbatch s' i' hsole hsi]
        exact hkept
    · obtain ⟨⟨rfl, rfl, rfl⟩, -, -⟩ := hnotes _ _ _ _ hp
      rw [hself']
      exact ha
  · intro s' i' hmem hsole'
    have hsole := he.sole_iff.mp hsole'
    obtain ⟨hmem, hnone⟩ := hgone _ hmem
    show w'.batch s' i' = []
    by_cases hsi : s' = s ∧ i' = i
    · obtain ⟨rfl, rfl⟩ := hsi
      rw [hself', hnone rfl]
    · rw [hbatch s' i' hsole hsi]
      exact h.gone s' i' hmem hsole

/-- What a store keeps for a document is taken off. -/
theorem clear (h : Tracks roster past w) (s i : Nat) :
    Tracks roster past (w.after (clearStore s i)) ∧
      (w.after (clearStore s i)).batch s i = [] := by
  cases hd : (w.documents : List Document)[i]? with
  | none =>
    have halike := alike_clearStore (s := s) hd
    refine ⟨h.of_quiet (.of_alike halike), batch_of_no_document ?_⟩
    rw [halike.documents, hd]
  | some d =>
    cases hs : w.stores[s]? with
    | none =>
      rw [World.after, clearStore, store_bind, hs]
      exact ⟨h, batch_of_no_store hs⟩
    | some st =>
      have hnone : (st.drop d.id).annotations d.id = [] := by
        rw [Store.annotations_drop, if_pos rfl]
      have he := w.documents.evolve_release i (st.annotations d.id)
      rw [World.after, run_clearStore hs hd]
      refine ⟨?_, ?_⟩
      · rw [← List.append_nil past]
        refine h.of_set hs hd he ((Does.clear hs hd).sound h.sound) ?_ ?_ ?_ ?_
        · intro name hname
          rw [Store.annotations_drop, if_neg hname]
        · intro a ha hi hattached
          have hoff := w.documents.attached_release_iff i (st.annotations d.id) a.mark
          exact absurd (List.mem_map_of_mem ha) ((hoff.mp hattached).2 hi)
        · exact fun _ _ _ _ hp => absurd hp List.not_mem_nil
        · intro e hmem
          rw [List.append_nil] at hmem
          exact ⟨hmem, fun _ => hnone⟩
      · obtain ⟨d', hd', hevolves⟩ := he.exists_of hd
        have hst' := List.getElem?_set_self (a := st.drop d.id) (List.getElem?_eq_some_iff.mp hs).1
        rw [batch_eq hst' hd', hevolves.id_eq, hnone]

/-- A batch is placed where nothing was kept. -/
theorem place (h : Tracks roster past w) (hs : w.stores[s]? = some st)
    (hd : (w.documents : List Document)[i]? = some d) (hnone : st.annotations d.id = [])
    (hbatch : ∀ a ∈ batch, w.documents.Numbered a.mark) {runner : Option Nat}
    (hrunner : ∀ n, runner = some n → roster[n]? = some (i, s)) :
    Tracks roster (past ++ [.placed runner s i batch])
      { w with stores := w.stores.set s (st.keep d.id batch) } := by
  have hkeep : (st.keep d.id batch).annotations d.id = batch := by
    rw [Store.annotations_keep, if_pos rfl]
  refine h.of_set hs hd (.refl _) ?_ ?_ ?_ ?_ ?_
  · refine h.sound.of_set (.refl _) fun entry hentry a ha => ?_
    rcases Store.mem_keep hentry with rfl | hentry
    · exact hbatch a ha
    · exact h.sound.stores st (List.mem_of_getElem? hs) entry hentry a ha
  · intro name hname
    rw [Store.annotations_keep, if_neg hname]
  · intro a ha
    simp [hnone] at ha
  · intro runner' s' i' batch' hp
    cases List.mem_singleton.mp hp
    exact ⟨⟨rfl, rfl, hkeep.symm⟩, hrunner, hbatch⟩
  · intro e hmem
    rw [List.foldl_append, List.foldl_cons, List.foldl_nil, Note.emptied, List.mem_filter] at hmem
    refine ⟨hmem.1, fun heq => ?_⟩
    simp [heq] at hmem

/-- A mode has been switched off, and nothing is kept for the document. -/
theorem off (h : Tracks roster past w)
    (hnone : ∀ i s, roster[n]? = some (i, s) → w.batch s i = []) :
    Tracks roster (past ++ [.event (.switched n false)]) w := by
  have hplaced : ∀ runner s i batch,
      .placed runner s i batch ∈ past ++ [.event (.switched n false)] →
      .placed runner s i batch ∈ past := by
    simp
  refine ⟨h.bound, h.sound, fun n s i batch hp => h.runner n s i batch (hplaced _ _ _ _ hp),
    fun runner s i batch hp => h.numbered runner s i batch (hplaced _ _ _ _ hp),
    fun runner s i batch hp => h.kept runner s i batch (hplaced _ _ _ _ hp), ?_⟩
  intro s i hgone hsole
  rw [List.foldl_append, List.foldl_cons, List.foldl_nil, Note.emptied, List.mem_append] at hgone
  rcases hgone with hgone | hgone
  · exact hnone i s (Option.mem_toList.mp hgone)
  · exact h.gone s i hgone hsole

end Tracks

/-! ## Whatever happens -/

/-- A document that others listen to is a later state of what it was. -/
theorem evolve_modify_listeners (docs : Documents) (i : Nat) {f : Document → Document}
    (hf : ∀ d, ∃ listeners, f d = { d with listeners }) :
    docs.Evolve (List.modify docs i f) := by
  refine Documents.Evolve.of_map (fun j d => if i = j then f d else d) (fun j => ?_) fun j d => ?_
  · rw [List.getElem?_modify]
    rfl
  · by_cases hj : i = j
    · obtain ⟨listeners, hd⟩ := hf d
      simp only [if_pos hj, hd]
      exact Document.evolves_listeners d listeners
    · simp only [if_neg hj]
      exact .refl d

theorem evolve_switchedOff (w : World) (n : Nat) (c : Controller) :
    w.documents.Evolve (w.switchedOff n c).documents := by
  unfold World.switchedOff
  cases c.subscribed with
  | false => exact .refl _
  | true => exact evolve_modify_listeners _ _ fun d => ⟨_, rfl⟩

/-- Whatever happens, what is tracked stays tracked. -/
theorem precept_tracks (roster : List (Nat × Nat)) :
    Precept fun w w' notes => ∀ past, Tracks roster past w → Tracks roster (past ++ notes) w' where
  quiet h past hw := by
    rw [List.append_nil]
    exact hw.of_quiet h
  trans h h' past hw := by
    rw [← List.append_assoc]
    exact h' _ (h past hw)
  adjust h past hw := by
    rw [List.append_nil]
    exact hw.listen (hw.modified rfl fun c => ⟨(h c).document, (h c).store⟩) rfl rfl (.refl _)
  dropped _ _ past hw := hw.idle rfl
  run := by
    intro w w' n c notes answered _ _ h past hw
    have hbusy : Tracks roster past (w.busy n) :=
      hw.listen (hw.modified rfl fun _ => ⟨rfl, rfl⟩) rfl rfl (.refl _)
    have hbegan : Tracks roster (past ++ [.event (.began n)]) (w.busy n) := hbusy.idle rfl
    have hinner := h _ hbegan
    have hidle : Tracks roster (past ++ [.event (.began n)] ++ notes) (w'.idle n) :=
      hinner.listen (hinner.modified rfl fun _ => ⟨rfl, rfl⟩) rfl rfl (.refl _)
    have hended : Tracks roster
        (past ++ [.event (.began n)] ++ notes ++ [.event (.ended n answered)]) (w'.idle n) :=
      hidle.idle rfl
    simpa using hended
  switchedOn := by
    intro w n c _ _ past hw
    refine Tracks.idle ?_ rfl
    refine hw.listen (hw.modified rfl fun _ => ⟨rfl, rfl⟩) rfl rfl ?_
    exact evolve_modify_listeners _ _ fun d => ⟨_, rfl⟩
  switchedOff := by
    intro w n c hc past hw
    have hoff : Tracks roster past (w.switchedOff n c) :=
      hw.listen (hw.modified rfl fun _ => ⟨rfl, rfl⟩) rfl rfl (evolve_switchedOff w n c)
    obtain ⟨hcleared, hnone⟩ := hoff.clear c.store c.document
    refine hcleared.off fun i s hrow => ?_
    cases (hw.roster_of hc).symm.trans hrow
    exact hnone
  joined := by
    intro w i d name callbacks hd past hw
    refine Tracks.idle ?_ rfl
    exact hw.listen hw.bound rfl rfl (.set hd (Document.evolves_listeners _ _))
  left := by
    intro w k i l d _ hd past hw
    refine Tracks.idle ?_ rfl
    exact hw.listen hw.bound rfl rfl (.set hd (Document.evolves_listeners _ _))
  cleared w s i past hw := by
    rw [List.append_nil]
    exact (hw.clear s i).1
  placed := by
    intro w runner s i st d batch hs hd hnone hbatch hrunner past hw
    refine hw.place hs hd hnone (hbatch hw.sound) fun n hn => ?_
    obtain ⟨c, hc, -, rfl, rfl⟩ := hrunner n hn
    exact hw.roster_of hc

/-! ## Modes -/

/-- Whatever happens, modes stay in tune with the events. -/
theorem precept_inTune : Precept fun w w' notes =>
    ∀ order, w.InTune order → w'.InTune ((eventsOf notes).foldl Event.update order) :=
  law_inTune.precept fun h order hw => hw.of_eq (seats_modify fun c => by
    simp [Controller.seat, (h c).document, (h c).on, (h c).subscribed]) rfl rfl

/-- Whoever is not among those that are on is off and listens to nothing. -/
theorem World.InTune.off {w : World} {order : List Nat} (h : w.InTune order) {n : Nat}
    {c : Controller} (hc : w.controllers[n]? = some c) (hn : n ∉ order) :
    c.on = false ∧ c.subscribed = false ∧
      ∀ (i : Nat) d, (w.documents : List Document)[i]? = some d → .controller n ∉ d.listeners := by
  have hseat := seats_of hc
  have hon : c.on = false := Bool.eq_false_iff.mpr fun hon => hn ((h.tuned.mem_iff hseat).mpr hon)
  refine ⟨hon, ?_, fun i d hd hlistens => hn ?_⟩
  · rw [← hon]
    exact h.tuned.subscribed _ (List.mem_of_getElem? hseat)
  · have hheard : controllersOf d.listeners = order.filter (sitsAt w.seats i) :=
      h.tuned.heard i d.listeners (by simp [World.audience, hd])
    have hmem : n ∈ controllersOf d.listeners := by
      rw [← List.count_pos_iff, count_controllersOf, List.count_pos_iff]
      exact hlistens
    rw [hheard] at hmem
    exact (List.mem_filter.mp hmem).1

theorem nodup_foldl_update {order : List Nat} (h : order.Nodup) (es : List Event) :
    (es.foldl Event.update order).Nodup := by
  induction es generalizing order with
  | nil => exact h
  | cons e rest ih =>
    refine ih ?_
    cases e with
    | switched n on =>
      cases on with
      | false => exact h.erase n
      | true =>
        refine List.nodup_append.mpr ⟨h.erase n, by simp, fun m hm m' hm' => ?_⟩
        cases List.mem_singleton.mp hm'
        exact (h.mem_erase_iff.mp hm).1
    | _ => exact h

/-- Whoever is not switched on stays off. -/
theorem notMem_foldl_update {n : Nat} {order : List Nat} {es : List Event} (h : n ∉ order)
    (hes : .switched n true ∉ es) : n ∉ es.foldl Event.update order := by
  induction es generalizing order with
  | nil => exact h
  | cons e rest ih =>
    rw [List.mem_cons, not_or] at hes
    refine ih ?_ hes.2
    cases e with
    | switched m on =>
      cases on with
      | false => exact fun hn => h (List.mem_of_mem_erase hn)
      | true =>
        intro hn
        rcases List.mem_append.mp hn with hn | hn
        · exact h (List.mem_of_mem_erase hn)
        · cases List.mem_singleton.mp hn
          exact hes.1 rfl
    | _ => exact h

/-- Whoever has been switched off last is off. -/
theorem notMem_lastOn {n : Nat} {before after : List Event} (h : .switched n true ∉ after) :
    n ∉ lastOn (before ++ .switched n false :: after) := by
  rw [lastOn, List.foldl_append, List.foldl_cons]
  refine notMem_foldl_update (fun hn => ?_) h
  exact ((nodup_foldl_update List.nodup_nil before).mem_erase_iff.mp hn).1 rfl

theorem mem_of_mem_eventsOf {e : Event} {notes : List Note} (h : e ∈ eventsOf notes) :
    .event e ∈ notes := by
  obtain ⟨note, hnote, he⟩ := List.mem_filterMap.mp h
  cases note with
  | event e' =>
    cases he
    exact hnote
  | placed runner s i batch => cases he

/-! ## Documents -/

theorem evolve_clearStore (w : World) (s i : Nat) :
    w.documents.Evolve (w.after (clearStore s i)).documents := by
  cases hd : (w.documents : List Document)[i]? with
  | none =>
    rw [(alike_clearStore hd).documents]
    exact .refl _
  | some d =>
    cases hs : w.stores[s]? with
    | none =>
      rw [World.after, clearStore, store_bind, hs]
      exact .refl _
    | some st =>
      rw [World.after, run_clearStore hs hd]
      exact w.documents.evolve_release i _

/-- Whatever happens, documents are later states of what they were. -/
theorem precept_evolve : Precept fun w w' _ => w.documents.Evolve w'.documents where
  quiet h := h.evolve
  trans := .trans
  adjust _ := .refl _
  dropped _ _ := .refl _
  run _ _ h := h
  switchedOn _ _ := evolve_modify_listeners _ _ fun _ => ⟨_, rfl⟩
  switchedOff _ := (evolve_switchedOff _ _ _).trans (evolve_clearStore _ _ _)
  joined _ hd := .set hd (Document.evolves_listeners _ _)
  left _ hd := .set hd (Document.evolves_listeners _ _)
  cleared := evolve_clearStore
  placed _ _ _ _ _ := .refl _

/-! ## Sessions -/

theorem tracks_start (host : Host) (terminal : Bool) {documents : List Document}
    (plans : List Plan) (hdocs : ∀ d ∈ documents, d.IsFresh) :
    Tracks (rosterOf plans) [] (World.start host terminal documents plans) := by
  refine ⟨?_, sound_start host terminal plans hdocs, ?_, ?_, ?_, ?_⟩
  · unfold World.start rosterOf
    rw [List.map_map]
    rfl
  · exact fun _ _ _ _ hp => nomatch hp
  · exact fun _ _ _ _ hp => nomatch hp
  · exact fun _ _ _ _ hp => nomatch hp
  · exact fun _ _ hgone => nomatch hgone

/-- A store keeps nothing for a document, and nothing that it has ever come to keep for it is left
there. -/
structure World.Bare (w : World) (notes : List Note) (s i : Nat) : Prop where
  kept : w.batch s i = []
  attached : ∀ runner batch, .placed runner s i batch ∈ notes → ∀ a ∈ batch,
    a.mark.document = i → ¬ w.documents.Attached a.mark

/-- A document for which nothing is kept stays so until something is placed. -/
theorem mem_foldl_emptied {roster gone : List (Nat × Nat)} {s i : Nat} {notes : List Note}
    (h : (i, s) ∈ gone) (hnotes : ∀ runner batch, .placed runner s i batch ∉ notes) :
    (i, s) ∈ notes.foldl (Note.emptied roster) gone := by
  induction notes generalizing gone with
  | nil => exact h
  | cons note rest ih =>
    refine ih ?_ fun runner batch hp => hnotes runner batch (List.mem_cons_of_mem note hp)
    cases note with
    | placed runner s' i' batch =>
      refine List.mem_filter.mpr ⟨h, ?_⟩
      rw [decide_eq_true_eq]
      intro heq
      cases heq
      exact hnotes runner batch (by simp)
    | event e =>
      cases e with
      | switched m on =>
        cases on with
        | false => exact List.mem_append_right _ h
        | true => exact h
      | _ => exact h

/-- A document that has its name to itself is bare if it has been switched off and nothing has been
placed since. -/
theorem Tracks.bare {roster : List (Nat × Nat)} {before after : List Note} {w : World}
    {n s i : Nat}
    (h : Tracks roster (before ++ .event (.switched n false) :: after) w)
    (hn : roster[n]? = some (i, s)) (hsole : w.documents.Sole i)
    (hafter : ∀ runner batch, .placed runner s i batch ∉ after) :
    w.Bare (before ++ .event (.switched n false) :: after) s i := by
  have hnone : w.batch s i = [] := by
    refine h.gone s i ?_ hsole
    rw [List.foldl_append, List.foldl_cons]
    refine mem_foldl_emptied ?_ hafter
    exact List.mem_append_left _ (Option.mem_toList.mpr hn)
  refine ⟨hnone, fun runner batch hp a ha hi hattached => ?_⟩
  have hkept := h.kept runner s i batch hp hsole a ha hi hattached
  rw [hnone] at hkept
  cases hkept

/-- A run that places something after a controller has been switched off was in progress at that
time or has begun since. -/
theorem in_progress_or_began (host : Host) (terminal : Bool) (documents : List Document)
    (plans : List Plan) (conduct : Conduct) (steps : List Step) {before after : List Note}
    {n m s i : Nat} {batch : List Annotation}
    (hnotes : (hearAll conduct steps (World.start host terminal documents plans)).2
      = before ++ .event (.switched n false) :: after)
    (hplaced : .placed (some m) s i batch ∈ after) :
    m ∈ inProgress before ∨ .event (.began m) ∈ after := by
  obtain ⟨between, rest, rfl⟩ := List.append_of_mem hplaced
  rw [← List.cons_append, ← List.append_assoc] at hnotes
  obtain ⟨-, hm⟩ := admitted_at host terminal documents plans conduct steps hnotes
  rcases mem_inProgress_append hm with hm | hm
  · exact .inl hm
  · rcases List.mem_cons.mp hm with hm | hm
    · cases hm
    · exact .inr (List.mem_append_left _ hm)

/-- A controller that has been switched off and not on again is off and listens to nothing. -/
theorem off_since (host : Host) (terminal : Bool) {documents : List Document}
    {plans : List Plan} (hdocs : ∀ d ∈ documents, d.IsFresh)
    (hplans : ∀ p ∈ plans, p.document < documents.length) (conduct : Conduct) (steps : List Step)
    {before after : List Note} {n : Nat} {c : Controller}
    (hnotes : (hearAll conduct steps (World.start host terminal documents plans)).2
      = before ++ .event (.switched n false) :: after)
    (hon : .event (.switched n true) ∉ after)
    (hc : (hearAll conduct steps
      (World.start host terminal documents plans)).1.controllers[n]? = some c) :
    c.on = false ∧ c.subscribed = false ∧ ∀ (i : Nat) d,
      ((hearAll conduct steps (World.start host terminal documents plans)).1.documents
        : List Document)[i]? = some d → .controller n ∉ d.listeners := by
  let start := World.start host terminal documents plans
  have htune : (hearAll conduct steps start).1.InTune
      (lastOn (eventsOf (hearAll conduct steps start).2)) :=
    precept_inTune.hearAll conduct steps start [] (inTune_start hdocs hplans)
  refine htune.off hc ?_
  rw [hnotes, eventsOf_append, eventsOf_event]
  exact notMem_lastOn fun hmem => hon (mem_of_mem_eventsOf hmem)

/-- A controller that has been switched off and not on again is off, whichever runs are in progress
meanwhile.  Its document is bare unless something is placed there afterwards, and a run places
something only if it was in progress at that time or has begun since. -/
theorem off_after_disable (host : Host) (terminal : Bool) {documents : List Document}
    {plans : List Plan} (hdocs : ∀ d ∈ documents, d.IsFresh)
    (hplans : ∀ p ∈ plans, p.document < documents.length) (conduct : Conduct) (steps : List Step)
    {n : Nat} {p : Plan} (hp : plans[n]? = some p) {before after : List Note}
    (hnotes : (hearAll conduct steps (World.start host terminal documents plans)).2
      = before ++ .event (.switched n false) :: after)
    (hon : .event (.switched n true) ∉ after) :
    let w := (hearAll conduct steps (World.start host terminal documents plans)).1
    let notes := (hearAll conduct steps (World.start host terminal documents plans)).2
    let s := if p.own then n + 1 else 0
    -- the controller is off, holds no subscription and listens to nothing
    (∃ c, w.controllers[n]? = some c ∧ c.on = false ∧ c.subscribed = false) ∧
    (∀ (i : Nat) d, (w.documents : List Document)[i]? = some d → .controller n ∉ d.listeners) ∧
    -- a run that places something afterwards was in progress then or has begun since
    (∀ m batch, .placed (some m) s p.document batch ∈ after →
      (rosterOf plans)[m]? = some (p.document, s) ∧
      (m ∈ inProgress before ∨ .event (.began m) ∈ after)) ∧
    -- if nothing is placed afterwards, the document is bare
    (Documents.Sole documents p.document →
      (∀ runner batch, .placed runner s p.document batch ∉ after) →
      w.Bare notes s p.document) ∧
    -- so it is if no run of its store was in progress, none has begun and the host places nothing
    (Documents.Sole documents p.document →
      (∀ m, (rosterOf plans)[m]? = some (p.document, s) →
        m ∉ inProgress before ∧ .event (.began m) ∉ after) →
      (∀ batch, .placed none s p.document batch ∉ after) →
      w.Bare notes s p.document) := by
  intro w notes s
  have htracks : Tracks (rosterOf plans) notes w :=
    (precept_tracks (rosterOf plans)).hearAll conduct steps _ []
      (tracks_start host terminal plans hdocs)
  have hnotes' : notes = before ++ .event (.switched n false) :: after := hnotes
  have hrow : (rosterOf plans)[n]? = some (p.document, s) := by
    simp [rosterOf, List.getElem?_zipIdx, hp, s]
  have hplaced : ∀ m batch, .placed (some m) s p.document batch ∈ after →
      (rosterOf plans)[m]? = some (p.document, s) ∧
      (m ∈ inProgress before ∨ .event (.began m) ∈ after) := by
    intro m batch hmem
    have hall : .placed (some m) s p.document batch ∈ notes := by
      rw [hnotes']
      exact List.mem_append_right _ (List.mem_cons_of_mem _ hmem)
    refine ⟨htracks.runner m s p.document batch hall, ?_⟩
    exact in_progress_or_began host terminal documents plans conduct steps hnotes hmem
  have hbare : Documents.Sole documents p.document →
      (∀ runner batch, .placed runner s p.document batch ∉ after) → w.Bare notes s p.document := by
    intro hsole hafter
    have he := precept_evolve.hearAll conduct steps (World.start host terminal documents plans)
    rw [hnotes'] at htracks ⊢
    exact htracks.bare hrow (he.sole_iff.mpr hsole) hafter
  obtain ⟨c, hc⟩ : ∃ c, w.controllers[n]? = some c := by
    have hbound := htracks.bound ▸ hrow
    rw [List.getElem?_map] at hbound
    obtain ⟨c, hc, -⟩ := Option.map_eq_some_iff.mp hbound
    exact ⟨c, hc⟩
  obtain ⟨hoff, hsubscribed, hlistens⟩ :=
    off_since host terminal hdocs hplans conduct steps hnotes hon hc
  refine ⟨⟨c, hc, hoff, hsubscribed⟩, hlistens, hplaced, hbare, ?_⟩
  intro hsole hruns hhost
  refine hbare hsole fun runner batch hmem => ?_
  cases runner with
  | none => exact hhost batch hmem
  | some m =>
    obtain ⟨hm, hprogress⟩ := hplaced m batch hmem
    obtain ⟨hnot, hbegan⟩ := hruns m hm
    exact hprogress.elim hnot hbegan

/-- A host that switches a controller off as soon as that tells it what has been found. -/
def callOff : Conduct :=
  ⟨fun _ n m => if m.1 = .ok then [⟨0, n, .disable⟩] else [], fun _ _ => false⟩

theorem off_after_disable_of_callOff :
    let r := hearAll callOff [⟨0, 0, .enable⟩] twoLines
    0 ∈ inProgress (r.2.take 3) ∧ r.1.Bare r.2 0 0 ∧
      ∃ c, r.1.controllers[0]? = some c ∧ c.on = false ∧ c.subscribed = false := by
  rw [twoLines]
  intro r
  have hfresh : ∀ d ∈ [Document.ofText ['d'] (some (Path.ofText "/w/a.go".toList))
      "a\nb\n".toList], d.IsFresh := by
    intro d hd
    cases List.mem_singleton.mp hd
    rfl
  -- the batch is placed while the run is in progress, and is cleared by what its message triggers
  have hafter : r.2.drop 4 = [.event (.ended 0 true)] := by decide +kernel
  have hsplit : r.2 = r.2.take 3 ++ .event (.switched 0 false) :: r.2.drop 4 := by decide +kernel
  obtain ⟨hoff, -, -, hbare, -⟩ := off_after_disable _ _ hfresh (by simp) callOff [⟨0, 0, .enable⟩]
    (n := 0) rfl hsplit (by simp [hafter])
  refine ⟨by decide +kernel, hbare ?_ ?_, hoff⟩
  · intro i d e _ he _
    have hlt := (List.getElem?_eq_some_iff.mp he).1
    rw [List.length_singleton] at hlt
    exact Nat.lt_one_iff.mp hlt
  · simp [hafter]

/-- A session with a document of two lines, whose controller is switched off while its runner
works. -/
def interrupted : World :=
  .start ⟨.empty, Path.ofText "/w".toList, []⟩ false
    [.ofText ['d'] (some (Path.ofText "/w/a.go".toList)) "a\nb\n".toList]
    [⟨0, false, .standard, .standard, some .recorded,
      [⟨[("diagnostics".toList, .list [.table
        [("source_file".toList, .text "./a.go".toList), ("line".toList, .integer 2),
          ("column".toList, .integer 14), ("message".toList, .text "moved".toList)]])],
        [⟨0, 0, .disable⟩], none⟩]⟩]

/-- The run that is in progress places its batch after the mode has been switched off and the
document cleared. -/
theorem batch_placed_after_disable :
    let w := interrupted.afterAll [⟨0, 0, .enable⟩]
    history [⟨0, 0, .enable⟩] interrupted
      = [.switched 0 true, .began 0, .switched 0 false, .ended 0 true] ∧
    w.controllers.map Controller.on = [false] ∧
    w.controllers.map Controller.subscribed = [false] ∧
    w.controllers.map Controller.running = [false] ∧
    (w.batch 0 0).length = 1 ∧ w.documents.Attached ⟨0, 0⟩ := by
  intro w
  have hnumbers : (w.documents : List Document)[0]?.map Document.numbers = some [0] := by
    decide +kernel
  obtain ⟨d, hd, hzero⟩ := Option.map_eq_some_iff.mp hnumbers
  have hattached : w.documents.Attached ⟨0, 0⟩ := by
    refine ⟨d, hd, ?_⟩
    rw [hzero]
    exact List.mem_singleton_self 0
  refine ⟨?_, ?_, ?_, ?_, ?_, hattached⟩ <;> decide +kernel

end Marginalia.Session

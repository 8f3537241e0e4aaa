import Marginalia.Proofs.Session.Deed

/-!
# The course of a step

Every action of a session keeps the rules that allow its deeds.  Most actions touch nothing that
the rules are about; those that do are taken one by one, and `keeps_replaceIn` is where a batch
takes the place of another one.  `keeps_step` puts them together: by induction on the depth,
whatever steps are made within a step keep the rules, so the step itself does.  `course_advance`
says so of a step of the host.
-/

namespace Marginalia.Session

/-! ## Actions that touch nothing -/

/-- Two worlds that agree in all that rules are about. -/
structure Alike (w w' : World) : Prop where
  documents : w'.documents = w.documents
  stores : w'.stores = w.stores
  slots : w'.slots = w.slots
  controllers : w'.controllers = w.controllers
  callbacks : w'.callbacks = w.callbacks
  subscriptions : w'.subscriptions = w.subscriptions

theorem Alike.refl (w : World) : Alike w w := ⟨rfl, rfl, rfl, rfl, rfl, rfl⟩

theorem Alike.trans {w₁ w₂ w₃ : World} (h : Alike w₁ w₂) (h' : Alike w₂ w₃) : Alike w₁ w₃ :=
  ⟨h'.documents.trans h.documents, h'.stores.trans h.stores, h'.slots.trans h.slots,
    h'.controllers.trans h.controllers, h'.callbacks.trans h.callbacks,
    h'.subscriptions.trans h.subscriptions⟩

theorem Alike.fits {r : Rules} {w w' : World} (h : Alike w w') (hw : Fits r w) : Fits r w' :=
  hw.of_eq h.controllers h.stores h.callbacks h.documents

theorem Alike.desk {w w' : World} (h : Alike w w') : w'.desk = w.desk := by
  unfold World.desk
  rw [h.documents, h.stores, h.slots]

theorem Alike.course {r : Rules} {w w' : World} (h : Alike w w') (hw : Fits r w) :
    Course r w w' := by
  refine .tail (.refl w) r.aside ?_ ?_ (h.fits hw)
  · rw [h.desk]
    exact .aside _
  · exact congrArg (List.map Controller.running) h.controllers

/-- An action that touches nothing that rules are about. -/
def Aside {α : Type} (act : Action α) : Prop :=
  ∀ w, Alike w (w.after act)

section
variable {α β : Type}

theorem after_bind (act : Action α) (k : α → Action β) (w : World) :
    w.after (act >>= k) =
      match act.run w with
      | (.ok a, w') => w'.after (k a)
      | (.error _, w') => w' := by
  unfold World.after
  rw [run_bind]
  cases act.run w with
  | mk result w' =>
    cases result with
    | ok a => rfl
    | error fault => rfl

/-- What holds after an action, and still holds after whatever comes next, holds after both. -/
theorem after_bind_of {P : World → Prop} {act : Action α} {k : α → Action β} {w : World}
    (hfirst : P (w.after act)) (hrest : ∀ a, P ((w.after act).after (k a))) :
    P (w.after (act >>= k)) := by
  rw [after_bind]
  rw [World.after] at hfirst hrest
  cases hrun : act.run w with
  | mk result w' =>
    rw [hrun] at hfirst hrest
    cases result with
    | ok a => exact hrest a
    | error fault => exact hfirst

namespace Aside

theorem pure (a : α) : Aside (Pure.pure a : Action α) := fun w => .refl w

theorem throw (fault : Fault) : Aside (throw fault : Action α) := fun w => .refl w

theorem get : Aside (get : Action World) := fun w => .refl w

theorem bind {act : Action α} {k : α → Action β} (h : Aside act) (hk : ∀ a, Aside (k a)) :
    Aside (act >>= k) :=
  fun w => after_bind_of (h w) fun a => (h w).trans (hk a _)

theorem orNothing (x : Option α) : Aside (orNothing x) := by
  cases x with
  | none => exact throw _
  | some a => exact pure a

theorem orFault {ε : Type} (fault : ε → Fault) (x : Except ε α) : Aside (orFault fault x) := by
  cases x with
  | error e => exact throw _
  | ok a => exact pure a

theorem document (n : Nat) : Aside (document n) := get.bind fun _ => orNothing _

theorem controller (n : Nat) : Aside (controller n) := get.bind fun _ => orNothing _

theorem store (n : Nat) : Aside (store n) := get.bind fun _ => orNothing _

theorem record (entry : Entry) : Aside (record entry) := fun _ => ⟨rfl, rfl, rfl, rfl, rfl, rfl⟩

theorem recordCalls (calls : List Launch.Call) : Aside (recordCalls calls) :=
  fun _ => ⟨rfl, rfl, rfl, rfl, rfl, rfl⟩

theorem setTree (tree : FileTree) : Aside (setTree tree) := fun _ => ⟨rfl, rfl, rfl, rfl, rfl, rfl⟩

theorem say (voice : Voice) (level : Console.Level) (message : Text) :
    Aside (say voice level message) := by
  intro w
  cases voice with
  | recorded => exact ⟨rfl, rfl, rfl, rfl, rfl, rfl⟩
  | printed m => exact ⟨rfl, rfl, rfl, rfl, rfl, rfl⟩

theorem sayAll (voice : Voice) (messages : List (Console.Level × Text)) :
    Aside (sayAll voice messages) := by
  induction messages with
  | nil => exact pure ()
  | cons message rest ih => exact (say voice message.1 message.2).bind fun _ => ih

theorem handle (mark : Mark) : Aside (handle mark) := by
  intro w
  obtain ⟨k, more, hrun, -⟩ := run_handle mark w
  unfold World.after
  rw [hrun]
  exact ⟨rfl, rfl, rfl, rfl, rfl, rfl⟩

theorem shown (a : Annotation) : Aside (shown a) :=
  (handle a.mark).bind fun _ => get.bind fun _ => (orNothing _).bind fun _ => pure _

theorem showAll (batch : List Annotation) : Aside (showAll batch) := by
  induction batch with
  | nil => exact pure []
  | cons a rest ih => exact (shown a).bind fun _ => ih.bind fun _ => pure _

theorem compilerOutcome (c : Controller) (unitId : Text) : Aside (compilerOutcome c unitId) :=
  (document c.document).bind fun _ => get.bind fun _ =>
    (recordCalls _).bind fun _ => orFault _ _

end Aside

/-! ## Actions that keep the rules -/

/-- An action that keeps the rules. -/
def Keeps (r : Rules) (act : Action α) : Prop :=
  ∀ w, Fits r w → Course r w (w.after act)

variable {r : Rules}

theorem Aside.keeps {act : Action α} (h : Aside act) : Keeps r act :=
  fun w hw => (h w).course hw

namespace Keeps

/-- What comes after an action whose course is known. -/
theorem bind_course {act : Action α} {k : α → Action β} {w : World} (hw : Fits r w)
    (h : Course r w (w.after act)) (hk : ∀ a, Keeps r (k a)) :
    Course r w (w.after (act >>= k)) :=
  after_bind_of h fun a => h.trans (hk a _ (h.fits hw))

theorem bind {act : Action α} {k : α → Action β} (h : Keeps r act) (hk : ∀ a, Keeps r (k a)) :
    Keeps r (act >>= k) :=
  fun w hw => bind_course hw (h w hw) hk

/-- What comes after an action that touches nothing. -/
theorem after_aside {act : Action α} {k : α → Action β} (h : Aside act)
    (hk : ∀ a, Keeps r (k a)) : Keeps r (act >>= k) :=
  h.keeps.bind hk

theorem get_bind {k : World → Action β} (hk : ∀ w, Fits r w → Course r w (w.after (k w))) :
    Keeps r (get >>= k) := fun w hw => hk w hw

theorem document_bind {n : Nat} {k : Document → Action β}
    (hk : ∀ (w : World) (d : Document), Fits r w → (w.documents : List Document)[n]? = some d →
      Course r w (w.after (k d))) : Keeps r (document n >>= k) := by
  intro w hw
  unfold World.after
  rw [Session.document_bind]
  cases hd : (w.documents : List Document)[n]? with
  | none => exact .refl w
  | some d => exact hk w d hw hd

theorem controller_bind {n : Nat} {k : Controller → Action β}
    (hk : ∀ (w : World) (c : Controller), Fits r w → w.controllers[n]? = some c →
      Course r w (w.after (k c))) : Keeps r (controller n >>= k) := by
  intro w hw
  unfold World.after
  rw [Session.controller_bind]
  cases hc : w.controllers[n]? with
  | none => exact .refl w
  | some c => exact hk w c hw hc

end Keeps
end

/-! ## Listeners -/

/-- Nobody listens to a document who did not listen before. -/
def NoneNew (docs docs' : Documents) : Prop :=
  ∀ (n : Nat) (d' : Document), (docs' : List Document)[n]? = some d' →
    ∃ d, (docs : List Document)[n]? = some d ∧ d'.listeners ⊆ d.listeners

namespace NoneNew

theorem refl (docs : Documents) : NoneNew docs docs :=
  fun _ d hd => ⟨d, hd, List.Subset.refl _⟩

theorem trans {docs₁ docs₂ docs₃ : Documents} (h : NoneNew docs₁ docs₂)
    (h' : NoneNew docs₂ docs₃) : NoneNew docs₁ docs₃ := by
  intro n d₃ hd₃
  obtain ⟨d₂, hd₂, hsub⟩ := h' n d₃ hd₃
  obtain ⟨d₁, hd₁, hsub'⟩ := h n d₂ hd₂
  exact ⟨d₁, hd₁, List.Subset.trans hsub hsub'⟩

theorem set {docs : Documents} {n : Nat} {d d' : Document}
    (hd : (docs : List Document)[n]? = some d) (hsub : d'.listeners ⊆ d.listeners) :
    NoneNew docs (List.set docs n d') := by
  intro i e he
  rw [List.getElem?_set] at he
  by_cases hi : n = i
  · subst hi
    rw [if_pos rfl, if_pos (List.getElem?_eq_some_iff.mp hd).1] at he
    cases he
    exact ⟨d, hd, hsub⟩
  · rw [if_neg hi] at he
    exact ⟨e, he, List.Subset.refl _⟩

theorem of_map {docs docs' : Documents} {f : Nat → Document → Document}
    (h : ∀ i, (docs' : List Document)[i]? = (docs : List Document)[i]?.map (f i))
    (he : ∀ i d, Document.Redecorated d (f i d)) : NoneNew docs docs' := by
  intro i d' hd'
  rw [h i] at hd'
  obtain ⟨d, hd, rfl⟩ := Option.map_eq_some_iff.mp hd'
  refine ⟨d, hd, ?_⟩
  rw [(he i d).listeners_eq]
  exact List.Subset.refl _

theorem remove (docs : Documents) (n : Nat) (mark : Mark) :
    NoneNew docs (docs.remove n mark) :=
  of_map (docs.getElem?_remove n mark) fun i d => Document.redecorated_removed i n mark d

theorem release (docs : Documents) (n : Nat) (batch : List Annotation) :
    NoneNew docs (Store.release docs n batch) :=
  of_map (docs.getElem?_release n batch) fun i d => Document.redecorated_released i n batch d

theorem shows {docs docs' : Documents} {n : Nat} {batch : List Annotation}
    (h : docs.Shows n docs' batch) : NoneNew docs docs' := by
  cases h with
  | nothing => exact refl docs
  | placed hd _ => exact set hd (List.Subset.refl _)

end NoneNew

section
variable {r : Rules}

/-! ## Single deeds -/

/-- A deed that changes neither controllers nor callbacks, and after which nobody new listens. -/
theorem course_of_does {w w' : World} {a : Deed} (hw : Fits r w) (ha : r.deed a)
    (hdoes : Does a w.desk w'.desk) (hc : w'.controllers = w.controllers)
    (hb : w'.callbacks = w.callbacks) (hl : NoneNew w.documents w'.documents) :
    Course r w w' := by
  have hfits : Fits r w' := by
    refine ⟨hc ▸ hw.roster, fun e he => ?_, hc ▸ hw.scripts, hb ▸ hw.callbacks,
      fun n m d' hd' hm => ?_⟩
    · have hlen : w'.stores.length = w.stores.length := hdoes.length_stores
      rw [hlen]
      exact hw.stores e he
    · obtain ⟨d, hd, hsub⟩ := hl n d' hd'
      exact hw.listeners n m d hd (hsub hm)
  exact .tail (.refl w) ha hdoes (congrArg (List.map Controller.running) hc) hfits

/-- A document to which others listen, controllers of its own perhaps among them. -/
theorem course_listen {w : World} {n : Nat} {d : Document} {listeners : List Listener}
    (hw : Fits r w) (hd : (w.documents : List Document)[n]? = some d)
    (hl : ∀ m, .controller m ∈ listeners →
      .controller m ∈ d.listeners ∨ ∃ e, r.roster[m]? = some e ∧ e.1 = n) :
    Course r w { w with documents := List.set w.documents n { d with listeners } } :=
  .tail (.refl w) r.listen (.listen listeners hd) rfl (hw.set hd hl)

theorem runs_modify {controllers : List Controller} {n : Nat} {change : Controller → Controller}
    (h : ∀ c, controllers[n]? = some c → (change c).running = c.running) :
    (controllers.modify n change).map Controller.running
      = controllers.map Controller.running := by
  apply List.ext_getElem?
  intro m
  rw [List.getElem?_map, List.getElem?_map, List.getElem?_modify]
  cases hc : controllers[m]? with
  | none => rfl
  | some c =>
    by_cases hm : n = m
    · subst hm
      simp [h c hc]
    · simp [hm]

/-- A controller that stays bound and whose runs to come are among the old ones. -/
theorem course_changeController {w : World} {n : Nat} {change : Controller → Controller}
    (hw : Fits r w) (h : ∀ c, w.controllers[n]? = some c → (change c).document = c.document ∧
      (change c).store = c.store ∧ (change c).script ⊆ c.script ∧
      (change c).running = c.running) :
    Course r w (w.after (changeController n change)) := by
  refine .tail (.refl w) r.aside (.aside _) (runs_modify fun c hc => (h c hc).2.2.2) ?_
  exact hw.modify n fun c hc => ⟨(h c hc).1, (h c hc).2.1, (h c hc).2.2.1⟩

theorem keeps_changeController {n : Nat} {change : Controller → Controller}
    (h : ∀ c, (change c).document = c.document ∧ (change c).store = c.store ∧
      (change c).script = c.script ∧ (change c).running = c.running) :
    Keeps r (changeController n change) := by
  intro w hw
  apply course_changeController hw
  intro c _
  obtain ⟨hdoc, hstore, hscript, hrunning⟩ := h c
  exact ⟨hdoc, hstore, hscript ▸ List.Subset.refl _, hrunning⟩

theorem alike_clearStore {w : World} {s n : Nat}
    (hd : (w.documents : List Document)[n]? = none) : Alike w (w.after (clearStore s n)) := by
  unfold World.after clearStore
  rw [store_bind]
  cases hs : w.stores[s]? with
  | none => exact .refl w
  | some st =>
    have hstores : w.stores.set s st = w.stores := by
      obtain ⟨hlt, rfl⟩ := List.getElem?_eq_some_iff.mp hs
      exact List.set_getElem_self hlt
    simp only [get_bind, Store.clear, hd, run_set, hstores]
    exact .refl w

theorem run_clearStore {w : World} {s n : Nat} {st : Store} {d : Document}
    (hs : w.stores[s]? = some st) (hd : (w.documents : List Document)[n]? = some d) :
    (clearStore s n).run w =
      (.ok (), { w with
        documents := Store.release w.documents n (st.annotations d.id)
        stores := w.stores.set s (st.drop d.id) }) := by
  unfold clearStore
  rw [store_bind, hs]
  simp only [get_bind, Store.clear, hd, run_set]

theorem keeps_clearStore {s n : Nat} (ha : r.deed (.clear s n)) : Keeps r (clearStore s n) := by
  intro w hw
  cases hd : (w.documents : List Document)[n]? with
  | none => exact (alike_clearStore hd).course hw
  | some d =>
    cases hs : w.stores[s]? with
    | none =>
      unfold World.after clearStore
      rw [store_bind, hs]
      exact .refl w
    | some st =>
      unfold World.after
      rw [run_clearStore hs hd]
      exact course_of_does hw ha (.clear hs hd) rfl rfl (.release _ _ _)

/-! ## Batches -/

/-- An action that shows diagnostics in document `n` and answers with the annotations.  If it fails
it changes nothing, unless the rules let diagnostics be shown that nobody keeps. -/
def Renders (r : Rules) (n : Nat) (act : Action (List Annotation)) : Prop :=
  ∀ w : World, (∃ fault, act.run w = (.error fault, w)) ∨
    ∃ docs batch, w.documents.Shows n docs batch ∧
      (act.run w = (.ok batch, { w with documents := docs }) ∨
        r.deed (.render n) ∧ ∃ fault, act.run w = (.error fault, { w with documents := docs }))

theorem run_renderIn (n : Nat) (style : Style) (xs : List Diagnostic) (w : World) :
    (∃ fault, (renderIn n style xs).run w = (.error fault, w)) ∨
      ∃ docs batch, w.documents.Shows n docs batch ∧
        (renderIn n style xs).run w = (.ok batch, { w with documents := docs }) := by
  unfold renderIn
  rw [get_bind, orFault_bind]
  cases h : Store.render w.documents n style xs with
  | error e => exact .inl ⟨_, rfl⟩
  | ok result => exact .inr ⟨result.1, result.2, Documents.shows_of_render h, rfl⟩

theorem renders_renderIn (n : Nat) (style : Style) (xs : List Diagnostic) :
    Renders r n (renderIn n style xs) := by
  intro w
  rcases run_renderIn n style xs w with herror | ⟨docs, batch, hshows, hrun⟩
  · exact .inl herror
  · exact .inr ⟨docs, batch, hshows, .inl hrun⟩

theorem renders_rendered {n : Nat} (tables : List Fields) (style : Style)
    {failure : Option Text} (h : failure.isSome → r.deed (.render n)) :
    Renders r n (rendered n tables style failure) := by
  intro w
  unfold rendered diagnosticsOf
  rw [orFault_bind]
  cases tables.mapM Diagnostic.ofFields with
  | error e => exact .inl ⟨_, rfl⟩
  | ok xs =>
    rcases run_renderIn n style xs w with ⟨fault, hrun⟩ | ⟨docs, batch, hshows, hrun⟩
    · refine .inl ⟨fault, ?_⟩
      exact run_bind_error hrun _
    · refine .inr ⟨docs, batch, hshows, ?_⟩
      simp only
      rw [run_bind_ok hrun]
      cases failure with
      | none => exact .inl rfl
      | some message => exact .inr ⟨h rfl, _, rfl⟩

/-- What happens when a batch is kept after a clear. -/
theorem run_installIn {w : World} {s n : Nat} {st : Store} {d : Document} (batch : List Annotation)
    (hs : w.stores[s]? = some (st.drop d.id))
    (hd : ∃ d', (w.documents : List Document)[n]? = some d' ∧ d'.id = d.id) :
    (installIn s n batch).run w =
      (.ok (), { w with stores := w.stores.set s (st.keep d.id batch) }) := by
  obtain ⟨d', hd', hid⟩ := hd
  unfold installIn
  rw [store_bind, hs]
  simp only [document_bind, hd', hid, orFault_bind, Store.install_drop, run_modify]

/-- What happens when a batch takes the place of the one of a document. -/
theorem run_replaceIn {w : World} {s n : Nat} {st : Store} {d : Document} {docs : Documents}
    {batch : List Annotation} {make : Action (List Annotation)} (hs : w.stores[s]? = some st)
    (hd : (w.documents : List Document)[n]? = some d)
    (hshows : (Store.release w.documents n (st.annotations d.id)).Shows n docs batch)
    (hmake : ∃ w', (clearStore s n).run w = (.ok (), w') ∧
      make.run w' = (.ok batch, { w' with documents := docs })) :
    (replaceIn s n make).run w =
      (.ok batch, { w with documents := docs, stores := w.stores.set s (st.keep d.id batch) }) := by
  obtain ⟨w', hclear, hmake⟩ := hmake
  have hw' := run_clearStore hs hd
  rw [hclear] at hw'
  cases hw'
  have hlt : s < w.stores.length := (List.getElem?_eq_some_iff.mp hs).1
  have hdrop : (w.stores.set s (st.drop d.id))[s]? = some (st.drop d.id) :=
    List.getElem?_set_self hlt
  have hdocs : ∃ d', (docs : List Document)[n]? = some d' ∧ d'.id = d.id := by
    obtain ⟨d', hd', he⟩ := ((w.documents.evolve_release n _).trans hshows.evolve).exists_of hd
    exact ⟨d', hd', he.id_eq⟩
  unfold replaceIn
  rw [run_bind_ok hclear, run_bind_ok hmake, run_bind_ok (run_installIn batch hdrop hdocs)]
  simp only [run_pure, List.set_set]

/-- Where there is no document, there is no batch to take the place of. -/
theorem alike_replaceIn {w : World} {s n : Nat} {make : Action (List Annotation)}
    (hmake : Renders r n make) (hd : (w.documents : List Document)[n]? = none) :
    Alike w (w.after (replaceIn s n make)) := by
  have hclear : Alike w (w.after (clearStore s n)) := alike_clearStore hd
  unfold World.after at hclear
  unfold replaceIn
  rw [after_bind]
  cases hc : (clearStore s n).run w with
  | mk result w' =>
    rw [hc] at hclear
    cases result with
    | error fault => exact hclear
    | ok _ =>
      have hd' : (w'.documents : List Document)[n]? = none := hclear.documents ▸ hd
      simp only
      rw [after_bind]
      rcases hmake w' with ⟨fault, hrun⟩ | ⟨docs, batch, hshows, hrun⟩
      · rw [hrun]
        exact hclear
      · have hdocs : docs = w'.documents := by
          cases hshows with
          | nothing => rfl
          | placed hsome _ => cases hd'.symm.trans hsome
        rcases hrun with hrun | ⟨-, fault, hrun⟩
        · rw [hrun, hdocs]
          simp only
          unfold installIn World.after
          rw [run_bind, store_bind]
          cases w'.stores[s]? with
          | none => exact hclear
          | some st =>
            simp only [document_bind, hd']
            exact hclear
        · rw [hrun, hdocs]
          exact hclear

theorem keeps_replaceIn {s n : Nat} {make : Action (List Annotation)}
    (hclear : r.deed (.clear s n)) (hreplace : r.deed (.replace s n)) (hmake : Renders r n make) :
    Keeps r (replaceIn s n make) := by
  intro w hw
  cases hd : (w.documents : List Document)[n]? with
  | none => exact (alike_replaceIn hmake hd).course hw
  | some d =>
    cases hs : w.stores[s]? with
    | none =>
      unfold World.after replaceIn clearStore
      rw [run_bind, store_bind, hs]
      exact .refl w
    | some st =>
      have hrun := run_clearStore hs hd
      have hcourse := keeps_clearStore hclear w hw
      unfold World.after at hcourse ⊢
      rw [hrun] at hcourse
      rcases hmake _ with ⟨fault, herror⟩ | ⟨docs, batch, hshows, hok | ⟨ha, fault, herror⟩⟩
      · unfold replaceIn
        rw [run_bind_ok hrun, run_bind_error herror]
        exact hcourse
      · rw [run_replaceIn hs hd hshows ⟨_, hrun, hok⟩]
        exact course_of_does hw hreplace (.replace hs hd hshows) rfl rfl
          ((NoneNew.release _ n _).trans (.shows hshows))
      · unfold replaceIn
        rw [run_bind_ok hrun, run_bind_error herror]
        refine hcourse.trans (course_of_does (hcourse.fits hw) ha ?_ rfl rfl (.shows hshows))
        exact .render [] hshows (fun _ h => nomatch h)

/-- What happens when annotations that are kept under a name are taken into a store. -/
theorem keeps_installIn {s n : Nat} {batch : List Annotation} {w : World} (hw : Fits r w)
    (ha : r.deed (.install s n)) (hbatch : ∀ a ∈ batch, ∃ slot ∈ w.slots, a ∈ slot.2) :
    Course r w (w.after (installIn s n batch)) := by
  unfold World.after installIn
  rw [store_bind]
  cases hs : w.stores[s]? with
  | none => exact .refl w
  | some st =>
    simp only [document_bind]
    cases hd : (w.documents : List Document)[n]? with
    | none => exact .refl w
    | some d =>
      simp only [orFault_bind, Store.install_eq]
      split
      · next hi =>
        split at hi
        · cases hi
          exact course_of_does hw ha (.install hs hd hbatch) rfl rfl (.refl _)
        · cases hi
      · exact .refl w

/-! ## Runs -/

variable {make : Make}

theorem keeps_makeAll (hmake : ∀ s, r.step s → Keeps r (make s)) (entry : Text → Answer → Entry)
    {steps : List Step} (hs : ∀ s ∈ steps, r.step s) : Keeps r (makeAll make entry steps) := by
  induction steps with
  | nil => exact (Aside.pure ()).keeps
  | cons s rest ih =>
    refine (hmake s (hs s List.mem_cons_self)).bind fun answer => ?_
    refine .after_aside (.record _) fun _ => ?_
    exact ih fun s' hs' => hs s' (List.mem_cons_of_mem s hs')

theorem keeps_scriptedOutcome (hmake : ∀ s, r.step s → Keeps r (make s)) {run : Run}
    (hrun : ∀ s ∈ run.during, r.step s) (unitId : Text) :
    Keeps r (scriptedOutcome make run unitId) := by
  unfold scriptedOutcome
  refine (keeps_makeAll hmake .during hrun).bind fun _ => Aside.keeps ?_
  split
  · exact fun w => .refl w
  · simp only
    split
    · exact fun w => .refl w
    · exact .orFault _ _

theorem keeps_outcomeOf (hmake : ∀ s, r.step s → Keeps r (make s)) {n : Nat} (hn : r.mode n)
    (unitId : Text) : Keeps r (outcomeOf make n unitId) := by
  refine .controller_bind fun w c hw hc => ?_
  cases hscript : c.script with
  | nil => exact (Aside.compilerOutcome c unitId).keeps w hw
  | cons run rest =>
    have hduring : ∀ s ∈ run.during, r.step s := by
      apply hw.scripts n c hc hn
      rw [hscript]
      exact List.mem_cons_self
    have hchange : Course r w (w.after (changeController n fun c =>
        { c with script := if rest.isEmpty then [run] else rest })) := by
      apply course_changeController hw
      intro c' hc'
      cases hc.symm.trans hc'
      refine ⟨rfl, rfl, ?_, rfl⟩
      show (if rest.isEmpty then [run] else rest) ⊆ c.script
      rw [hscript]
      split
      · exact List.cons_subset_cons run (List.nil_subset rest)
      · exact List.subset_cons_self run rest
    refine Keeps.bind_course hw hchange fun _ => .after_aside (.record _) fun _ => ?_
    exact keeps_scriptedOutcome hmake hduring unitId

theorem keeps_pipeline (hmake : ∀ s, r.step s → Keeps r (make s)) {n : Nat} (hn : r.mode n) :
    Keeps r (pipeline make n) := by
  refine .controller_bind fun w c hw hc => ?_
  obtain ⟨hclear, hreplace⟩ := r.deed_of_mode hn (hw.roster_of hc)
  refine Keeps.after_aside (.document c.document) (fun d => ?_) w hw
  cases sourceFile d with
  | error unfit => exact ((Aside.say _ _ _).bind fun _ => .pure _).keeps
  | ok file =>
    refine .after_aside .get fun w' => .after_aside (.orFault _ _) fun unitId => ?_
    refine .after_aside (.say _ _ _) fun _ => ?_
    refine (keeps_outcomeOf hmake hn unitId).bind fun o => ?_
    refine (keeps_replaceIn hclear hreplace (renders_renderIn _ _ _)).bind fun _ => ?_
    refine Keeps.bind (keeps_changeController ?_) fun _ => ?_
    · exact fun c => ⟨rfl, rfl, rfl, rfl⟩
    · refine .after_aside (.controller n) fun c' => ?_
      exact ((Aside.sayAll _ _).bind fun _ => .pure _).keeps

theorem keeps_run (hmake : ∀ s, r.step s → Keeps r (make s)) {n : Nat} (hn : r.mode n) :
    Keeps r (run make n) := by
  refine .controller_bind fun w c hw hc => ?_
  cases hrunning : c.running with
  | true => exact .refl w
  | false =>
    have hpipeline := keeps_pipeline hmake hn (w.busy n) (hw.busy n)
    exact .run (.refl w) hc hrunning hpipeline

/-! ## Modes and saves -/

/-- A controller of a document listens to it. -/
theorem course_subscribe {w : World} {m n : Nat} {d : Document} {e : Nat × Nat} (hw : Fits r w)
    (hd : (w.documents : List Document)[n]? = some d) (he : r.roster[m]? = some e) (hn : e.1 = n) :
    Course r w (w.after (setDocument n (d.subscribe (.controller m)))) := by
  apply course_listen hw hd
  intro i hi
  rcases List.mem_append.mp hi with hi | hi
  · exact .inl hi
  · cases List.mem_singleton.mp hi
    exact .inr ⟨e, he, hn⟩

theorem course_unsubscribe {w : World} {n : Nat} {d : Document} (hw : Fits r w)
    (hd : (w.documents : List Document)[n]? = some d) (l : Listener) :
    Course r w (w.after (setDocument n (d.unsubscribe l))) :=
  course_listen hw hd fun _ hi => .inl (List.mem_of_mem_erase hi)

theorem keeps_enable (hmake : ∀ s, r.step s → Keeps r (make s)) {n : Nat} (hn : r.mode n) :
    Keeps r (enable make n) := by
  refine .controller_bind fun w c hw hc => ?_
  have hroster := hw.roster_of hc
  split
  · exact .refl w
  · refine Keeps.bind (keeps_changeController ?_) (fun _ => ?_) w hw
    · exact fun c => ⟨rfl, rfl, rfl, rfl⟩
    · refine .document_bind fun w' d hw' hd => ?_
      refine Keeps.bind_course hw' (course_subscribe hw' hd hroster rfl) fun _ => ?_
      exact (keeps_run hmake hn).bind fun _ => (Aside.pure ()).keeps

theorem keeps_disable {n : Nat} (hn : r.mode n) : Keeps r (disable n) := by
  refine .controller_bind fun w c hw hc => ?_
  obtain ⟨hclear, -⟩ := r.deed_of_mode hn (hw.roster_of hc)
  have hrest : Keeps r (do
      changeController n fun c => { c with on := false, subscribed := false }
      clearStore c.store c.document) := by
    refine Keeps.bind (keeps_changeController ?_) fun _ => keeps_clearStore hclear
    exact fun c => ⟨rfl, rfl, rfl, rfl⟩
  split
  · refine Keeps.document_bind (fun w' d hw' hd => ?_) w hw
    exact Keeps.bind_course hw' (course_unsubscribe hw' hd _) fun _ => hrest
  · exact hrest w hw

theorem keeps_toggle (hmake : ∀ s, r.step s → Keeps r (make s)) {n : Nat} (hn : r.mode n) :
    Keeps r (toggle make n) := by
  refine .after_aside (.controller n) fun c => ?_
  split
  · exact (keeps_disable hn).bind fun _ => ((Aside.controller n).bind fun _ => .pure _).keeps
  · exact (keeps_enable hmake hn).bind fun _ => ((Aside.controller n).bind fun _ => .pure _).keeps

theorem keeps_notify (hmake : ∀ s, r.step s → Keeps r (make s)) {l : Listener}
    (hl : ∀ m, l = .controller m → r.mode m) : Keeps r (notify make l) := by
  cases l with
  | callback name =>
    refine .after_aside (.record _) fun _ => .get_bind fun w hw => ?_
    refine keeps_makeAll hmake .action ?_ w hw
    cases hb : w.callbacks.lookup name with
    | none => exact fun _ h => nomatch h
    | some actions =>
      exact fun s hs => r.step_of_callback (hw.callbacks _ (mem_of_lookup hb)) hs
  | controller m =>
    refine .after_aside (.controller m) fun c => ?_
    split
    · exact (keeps_run hmake (hl m rfl)).bind fun _ => (Aside.pure ()).keeps
    · exact (Aside.pure ()).keeps

theorem keeps_notifyAll (hmake : ∀ s, r.step s → Keeps r (make s)) {ls : List Listener}
    (hl : ∀ m, .controller m ∈ ls → r.mode m) : Keeps r (notifyAll make ls) := by
  induction ls with
  | nil => exact (Aside.pure ()).keeps
  | cons l rest ih =>
    refine (keeps_notify hmake fun m hm => hl m (hm ▸ List.mem_cons_self)).bind fun _ => ?_
    exact ih fun m hm => hl m (List.mem_cons_of_mem l hm)

theorem keeps_save (hmake : ∀ s, r.step s → Keeps r (make s)) {n : Nat}
    (hn : ∀ m e, r.roster[m]? = some e → e.1 = n → r.mode m) : Keeps r (save make n) := by
  refine .document_bind fun w d hw hd => ?_
  have hl : ∀ m, .controller m ∈ d.listeners → r.mode m := by
    intro m hm
    obtain ⟨e, he, hdoc⟩ := hw.listeners n m d hd hm
    exact hn m e he hdoc
  have hnotify := keeps_notifyAll hmake hl
  cases htree : d.write w.host.tree w.host.cwd with
  | error e =>
    show Course r w (w.after (orFault .tree (d.write w.host.tree w.host.cwd) >>= _))
    rw [htree]
    exact .refl w
  | ok tree =>
    have hset : Alike w { w with host := { w.host with tree } } := ⟨rfl, rfl, rfl, rfl, rfl, rfl⟩
    show Course r w (w.after (orFault .tree (d.write w.host.tree w.host.cwd) >>= _))
    rw [htree]
    exact (hset.course hw).trans (hnotify _ (hset.fits hw))

/-! ## Requests -/

theorem course_edit {w : World} {n : Nat} {d : Document} (hw : Fits r w)
    (hd : (w.documents : List Document)[n]? = some d) (ha : r.deed (.edit n)) (text : Text)
    (move : Anchor → Anchor) (file : Option Path) :
    Course r w (w.after (setDocument n { d.edited text move with file })) :=
  course_of_does hw ha (.edit text move file hd) rfl rfl (.set hd (List.Subset.refl _))

theorem keeps_aboutText {s : Step} (hs : r.step s) :
    Keeps r (aboutText s.document s.request) := by
  refine .document_bind fun w d hw hd => ?_
  have hedit : .edit s.document ∈ s.request.deeds s.document → r.deed (.edit s.document) :=
    r.deed_of_step hs
  cases hq : s.request with
  | lineCount => exact .refl w
  | lines => exact .refl w
  | lineEnd line => exact ((Aside.orFault _ _).bind fun _ => .pure _).keeps w hw
  | lineEnds => exact .refl w
  | annotated lines => exact ((Aside.orFault _ _).bind fun _ => .pure _).keeps w hw
  | insert offset text =>
    rw [hq] at hedit
    have ha := hedit (List.mem_singleton_self _)
    show Course r w (w.after (orFault .range (d.insert offset (text.getD [])) >>= _))
    cases hinsert : d.insert offset (text.getD []) with
    | error e => exact .refl w
    | ok d' =>
      obtain ⟨text', move, rfl⟩ := Document.insert_ok hinsert
      cases text with
      | none => exact .refl w
      | some text => exact course_edit hw hd ha text' move d.file
  | delete start stop =>
    rw [hq] at hedit
    have ha := hedit (List.mem_singleton_self _)
    show Course r w (w.after (orFault .range (d.delete start stop) >>= _))
    cases hdelete : d.delete start stop with
    | error e => exact .refl w
    | ok d' =>
      obtain ⟨text', move, rfl⟩ := Document.delete_ok hdelete
      exact course_edit hw hd ha text' move d.file
  | setText text =>
    rw [hq] at hedit
    have hcourse := course_edit hw hd (hedit (List.mem_singleton_self _)) text (fun x => x) d.file
    have hsame : { d.edited text (fun x => x) with file := d.file } = { d with text } :=
      d.edited_self text
    rw [hsame] at hcourse
    exact hcourse
  | setFile file =>
    rw [hq] at hedit
    have hcourse := course_edit hw hd (hedit (List.mem_singleton_self _)) d.text (fun x => x) file
    rw [d.edited_self d.text] at hcourse
    exact hcourse
  | _ => exact .refl w

theorem keeps_aboutDecorations {s : Step} (hs : r.step s) :
    Keeps r (aboutDecorations s.document s.request) := by
  unfold aboutDecorations
  cases hq : s.request with
  | decorate offset text style =>
    have ha : r.deed (.decorate s.document) :=
      r.deed_of_step hs (by rw [hq]; exact List.mem_singleton_self _)
    refine .document_bind fun w d hw hd => ?_
    show Course r w (w.after (orFault .range (d.decorate offset text style) >>= _))
    cases hdecorate : d.decorate offset text style with
    | error e => exact .refl w
    | ok result =>
      obtain ⟨d', k⟩ := result
      obtain ⟨x, hx, rfl, rfl⟩ := Document.decorate_ok hdecorate
      have hcourse : Course r w (w.after (setDocument s.document (d.attachAll [x]))) :=
        course_of_does hw ha (.decorate hd hx) rfl rfl (.set hd (List.Subset.refl _))
      exact Keeps.bind_course
        (k := fun _ => do return Answer.number (← handle ⟨s.document, d.count⟩)) hw hcourse
        fun _ => ((Aside.handle _).bind fun _ => .pure _).keeps
  | remove number =>
    have ha : r.deed .remove := r.deed_of_step hs (by rw [hq]; exact List.mem_singleton_self _)
    refine .get_bind fun w hw => ?_
    cases w.handles[number]? with
    | none => exact .refl w
    | some mark => exact course_of_does hw ha (.remove s.document mark) rfl rfl (.remove _ _ _)
  | handles => exact (Aside.get.bind fun _ => .pure _).keeps
  | _ => exact (Aside.throw _).keeps

theorem keeps_aboutSaves (hmake : ∀ s, r.step s → Keeps r (make s)) {s : Step} (hs : r.step s) :
    Keeps r (aboutSaves make s.document s.request) := by
  unfold aboutSaves
  cases hq : s.request with
  | save =>
    refine (keeps_save hmake ?_).bind fun _ => (Aside.pure _).keeps
    exact fun m e he hdoc => r.mode_of_save hs hq he hdoc
  | subscribe name actions =>
    have hcallback : r.callback (name, actions) := r.callback_of_step hs hq
    refine .document_bind fun w d hw hd => ?_
    have hlisten :
        Course r w (w.after (setDocument s.document (d.subscribe (.callback name)))) := by
      apply course_listen hw hd
      intro m hm
      rcases List.mem_append.mp hm with hm | hm
      · exact .inl hm
      · cases List.mem_singleton.mp hm
    refine Keeps.bind_course hw hlisten fun _ => .get_bind fun w' hw' => ?_
    -- the actions of a name that is known already are dropped
    refine .tail (.refl w') r.aside (.aside _) rfl ⟨hw'.roster, hw'.stores, hw'.scripts, ?_,
      hw'.listeners⟩
    intro entry hentry
    have hentry : entry ∈ if (w'.callbacks.lookup name).isSome then w'.callbacks
        else w'.callbacks ++ [(name, actions)] := hentry
    split at hentry
    · exact hw'.callbacks entry hentry
    · rcases List.mem_append.mp hentry with hentry | hentry
      · exact hw'.callbacks entry hentry
      · cases List.mem_singleton.mp hentry
        exact hcallback
  | unsubscribe number =>
    refine .after_aside .get fun w' => .after_aside (.orNothing _) fun subscription => ?_
    obtain ⟨n, listener⟩ := subscription
    refine .document_bind fun w d hw hd => ?_
    exact Keeps.bind_course hw (course_unsubscribe hw hd listener) fun _ => (Aside.pure _).keeps
  | subscriptions => exact (Aside.get.bind fun _ => .pure _).keeps
  | _ => exact (Aside.throw _).keeps

/-- What happens when diagnostics are shown and the annotations kept under a name. -/
theorem keeps_render {n : Nat} {make : Action (List Annotation)} (ha : r.deed (.render n))
    (hmake : Renders r n make) (slot : Text) {k : List Annotation → Action β}
    (hk : ∀ batch, Aside (k batch)) :
    Keeps r (make >>= fun batch =>
      modify (fun w => { w with slots := (slot, batch) :: w.slots }) >>= fun _ => k batch) := by
  intro w hw
  rcases hmake w with ⟨fault, hrun⟩ | ⟨docs, batch, hshows, hrun | ⟨-, fault, hrun⟩⟩
  · rw [after_bind, hrun]
    exact .refl w
  · rw [after_bind, hrun]
    have hcourse : Course r w { w with documents := docs, slots := (slot, batch) :: w.slots } := by
      refine course_of_does hw ha ?_ rfl rfl (.shows hshows)
      refine .render [(slot, batch)] hshows fun entry hentry => ?_
      cases List.mem_singleton.mp hentry
      rfl
    exact hcourse.trans ((hk batch).keeps _ (hcourse.fits hw))
  · rw [after_bind, hrun]
    exact course_of_does hw ha (.render [] hshows fun _ h => nomatch h) rfl rfl (.shows hshows)

theorem keeps_aboutAnnotations {s : Step} (hs : r.step s) :
    Keeps r (aboutAnnotations s.document s.request) := by
  have hdeed : ∀ a ∈ s.request.deeds s.document, r.deed a := fun a ha => r.deed_of_step hs ha
  unfold aboutAnnotations
  cases hq : s.request with
  | render tables style slot =>
    rw [hq] at hdeed
    have ha := hdeed _ (List.mem_singleton_self _)
    have hrenders : Renders r s.document (rendered s.document tables style none) :=
      renders_rendered tables style fun h => nomatch h
    exact keeps_render ha hrenders slot fun batch => (Aside.showAll batch).bind fun _ => .pure _
  | install slot =>
    rw [hq] at hdeed
    refine .get_bind fun w hw => ?_
    refine Keeps.bind_course hw ?_ fun _ => (Aside.pure _).keeps
    apply keeps_installIn hw (hdeed _ (List.mem_singleton_self _))
    intro a ha
    cases hslot : w.slots.lookup slot with
    | none => simp [hslot] at ha
    | some batch =>
      rw [hslot] at ha
      exact ⟨(slot, batch), mem_of_lookup hslot, ha⟩
  | clear =>
    rw [hq] at hdeed
    exact (keeps_clearStore (hdeed _ (List.mem_singleton_self _))).bind fun _ =>
      (Aside.pure _).keeps
  | forget =>
    rw [hq] at hdeed
    exact (keeps_clearStore (hdeed _ (List.mem_singleton_self _))).bind fun _ =>
      (Aside.pure _).keeps
  | replace tables style failure =>
    rw [hq] at hdeed
    have hclear : r.deed (.clear 0 s.document) := by
      cases failure with
      | none => exact hdeed _ List.mem_cons_self
      | some message => exact hdeed _ List.mem_cons_self
    have hreplace : r.deed (.replace 0 s.document) := by
      cases failure with
      | none => exact hdeed _ (List.mem_cons_of_mem _ List.mem_cons_self)
      | some message => exact hdeed _ (List.mem_cons_of_mem _ List.mem_cons_self)
    have hrenders : Renders r s.document (rendered s.document tables style failure) := by
      apply renders_rendered
      intro h
      cases failure with
      | none => cases h
      | some message => exact hdeed _ (by simp [Request.deeds])
    exact (keeps_replaceIn hclear hreplace hrenders).bind fun batch =>
      ((Aside.showAll batch).bind fun _ => .pure _).keeps
  | annotations from? =>
    refine Aside.keeps ?_
    cases from? with
    | none =>
      exact (Aside.store 0).bind fun st => (Aside.document _).bind fun d =>
        (Aside.showAll _).bind fun _ => .pure _
    | some m =>
      exact (Aside.controller m).bind fun c => (Aside.store _).bind fun st =>
        (Aside.document _).bind fun d => (Aside.showAll _).bind fun _ => .pure _
  | size => exact ((Aside.store 0).bind fun _ => .pure _).keeps
  | _ => exact (Aside.throw _).keeps

theorem aside_aboutFiles (request : Request) : Aside (aboutFiles request) := by
  refine Aside.get.bind fun w => ?_
  cases request with
  | putFile path content =>
    exact (Aside.orFault _ _).bind fun tree => (Aside.setTree tree).bind fun _ => .pure _
  | dropFile path =>
    exact (Aside.orFault _ _).bind fun tree => (Aside.setTree tree).bind fun _ => .pure _
  | fileText path =>
    exact (Aside.orFault _ _).bind fun bytes => (Aside.orFault _ _).bind fun text => .pure _
  | setProgram program =>
    cases program with
    | none => exact (Aside.setTree _).bind fun _ => .pure _
    | some entry =>
      exact (Aside.setTree _).bind fun _ => (Aside.orFault _ _).bind fun tree =>
        (Aside.setTree tree).bind fun _ => .pure _
  | _ => exact .throw _

theorem keeps_aboutMode (hmake : ∀ s, r.step s → Keeps r (make s)) {s : Step} (hs : r.step s) :
    Keeps r (aboutMode make s.controller s.request) := by
  have hmode : s.request.isMode → r.mode s.controller := r.mode_of_step hs
  unfold aboutMode
  cases hq : s.request with
  | enable =>
    rw [hq] at hmode
    exact (keeps_enable hmake (hmode rfl)).bind fun _ => (Aside.pure _).keeps
  | disable =>
    rw [hq] at hmode
    exact (keeps_disable (hmode rfl)).bind fun _ => (Aside.pure _).keeps
  | toggle =>
    rw [hq] at hmode
    exact (keeps_toggle hmake (hmode rfl)).bind fun _ => (Aside.pure _).keeps
  | run =>
    rw [hq] at hmode
    exact (keeps_run hmake (hmode rfl)).bind fun _ => (Aside.pure _).keeps
  | state => exact ((Aside.controller _).bind fun _ => .pure _).keeps
  | lastOutcome => exact ((Aside.controller _).bind fun _ => .pure _).keeps
  | assign name value =>
    refine .after_aside (.controller _) fun c => ?_
    split
    · refine Keeps.bind (keeps_changeController ?_) fun _ => (Aside.pure _).keeps
      exact fun c => ⟨rfl, rfl, rfl, rfl⟩
    · exact (Aside.throw _).keeps
    · exact (Aside.throw _).keeps
    · exact (Aside.throw _).keeps
  | _ => exact (Aside.throw _).keeps

/-! ## Steps -/

theorem keeps_perform (hmake : ∀ s, r.step s → Keeps r (make s)) {s : Step} (hs : r.step s) :
    Keeps r (perform make s) := by
  unfold perform
  split
  all_goals first
    | exact keeps_aboutText hs
    | exact keeps_aboutDecorations hs
    | exact keeps_aboutSaves hmake hs
    | exact keeps_aboutAnnotations hs
    | exact (aside_aboutFiles _).keeps
    | exact keeps_aboutMode hmake hs
    | exact (Aside.throw _).keeps

/-- However deep the steps lie within each other, they keep the rules. -/
theorem keeps_step (depth : Nat) {s : Step} (hs : r.step s) : Keeps r (step depth s) := by
  induction depth generalizing s with
  | zero => exact (Aside.throw _).keeps
  | succ depth ih => exact keeps_perform (fun s' hs' => ih hs') hs

/-- A step of the host is a course of deeds that the rules allow. -/
theorem course_advance {w : World} {s : Step} (hw : Fits r w) (hs : r.step s) :
    Course r w (advance s w).2 := by
  have hresumed : Alike w w.resumed := ⟨rfl, rfl, rfl, rfl, rfl, rfl⟩
  obtain ⟨-, more, hadvance⟩ := advance_eq s w
  have hreported : Alike (w.resumed.after (step deepest s)) (advance s w).2 := by
    rw [hadvance]
    exact ⟨rfl, rfl, rfl, rfl, rfl, rfl⟩
  have hstep := (hresumed.course hw).trans (keeps_step deepest hs _ (hresumed.fits hw))
  exact hstep.trans (hreported.course (hstep.fits hw))

end

end Marginalia.Session

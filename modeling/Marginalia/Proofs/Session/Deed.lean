import Marginalia.Proofs.Session.Action
import Marginalia.Proofs.Store.Batches

/-!
# Deeds

The *desk* of a world is what decorations and annotations live in: its documents, its stores and the
batches that are kept under a name.  A *deed* is one change of the desk; to take a batch off and to
put another one in its place is a single deed if it goes well.  Whatever a step does, runs and
callbacks included, is a course of deeds.

*Rules* say which deeds and which steps may occur, and `Fits` that a world has nothing in store
that would break them.  An action *keeps* the rules if it takes a world that fits along a `Course`
of deeds that the rules allow.  Each deed of a course leaves the runs in progress as they are, and
a run of a controller is a course between its beginning and its end.
-/

namespace Marginalia.Session

/-! ## The desk -/

/-- What decorations and annotations live in. -/
structure Desk where
  /-- The documents. -/
  documents : Documents
  /-- The stores. -/
  stores : List Store
  /-- Annotations that are kept under a name. -/
  slots : List (Text × List Annotation)

/-- The desk of a world. -/
def World.desk (w : World) : Desk :=
  ⟨w.documents, w.stores, w.slots⟩

/-- The kinds of changes of a desk. -/
inductive Deed where
  /-- Nothing changes. -/
  | aside
  /-- Others listen to a document. -/
  | listen
  /-- A document has another text or another file. -/
  | edit (n : Nat)
  /-- A decoration of the host is put on a document. -/
  | decorate (n : Nat)
  /-- A decoration is taken off. -/
  | remove
  /-- Diagnostics are shown in a document. -/
  | render (n : Nat)
  /-- Annotations are kept for a document that has none. -/
  | install (s n : Nat)
  /-- The annotations of a document are taken off. -/
  | clear (s n : Nat)
  /-- The annotations of a document are taken off, and others are put on and kept. -/
  | replace (s n : Nat)

/-- What a deed does to a desk. -/
inductive Does : Deed → Desk → Desk → Prop
  | aside (k : Desk) : Does .aside k k
  | listen {k : Desk} {n : Nat} {d : Document} (listeners : List Listener) :
      (k.documents : List Document)[n]? = some d →
      Does .listen k { k with documents := List.set k.documents n { d with listeners } }
  | edit {k : Desk} {n : Nat} {d : Document} (text : Text) (move : Anchor → Anchor)
      (file : Option Path) : (k.documents : List Document)[n]? = some d →
      Does (.edit n) k
        { k with documents := List.set k.documents n { d.edited text move with file } }
  | decorate {k : Desk} {n : Nat} {d : Document} {x : Decoration} :
      (k.documents : List Document)[n]? = some d → x.active = true →
      Does (.decorate n) k { k with documents := List.set k.documents n (d.attachAll [x]) }
  | remove {k : Desk} (n : Nat) (mark : Mark) :
      Does .remove k { k with documents := k.documents.remove n mark }
  | render {k : Desk} {n : Nat} {docs : Documents} {batch : List Annotation}
      (kept : List (Text × List Annotation)) :
      k.documents.Shows n docs batch → (∀ slot ∈ kept, slot.2 = batch) →
      Does (.render n) k { k with documents := docs, slots := kept ++ k.slots }
  | install {k : Desk} {s n : Nat} {st : Store} {d : Document} {batch : List Annotation} :
      k.stores[s]? = some st → (k.documents : List Document)[n]? = some d →
      (∀ a ∈ batch, ∃ slot ∈ k.slots, a ∈ slot.2) →
      Does (.install s n) k { k with stores := k.stores.set s (st.keep d.id batch) }
  | clear {k : Desk} {s n : Nat} {st : Store} {d : Document} :
      k.stores[s]? = some st → (k.documents : List Document)[n]? = some d →
      Does (.clear s n) k
        { k with
          documents := Store.release k.documents n (st.annotations d.id)
          stores := k.stores.set s (st.drop d.id) }
  | replace {k : Desk} {s n : Nat} {st : Store} {d : Document} {docs : Documents}
      {batch : List Annotation} :
      k.stores[s]? = some st → (k.documents : List Document)[n]? = some d →
      (Store.release k.documents n (st.annotations d.id)).Shows n docs batch →
      Does (.replace s n) k
        { k with documents := docs, stores := k.stores.set s (st.keep d.id batch) }

/-- Whatever is done, the documents are later states of what they were. -/
theorem Does.evolve {a : Deed} {k k' : Desk} (h : Does a k k') :
    k.documents.Evolve k'.documents := by
  cases h with
  | aside => exact Documents.Evolve.refl _
  | listen listeners hd => exact Documents.Evolve.set hd (Document.evolves_listeners _ _)
  | edit text move file hd => exact Documents.Evolve.set hd (Document.evolves_edited _ _ _ _)
  | decorate hd _ => exact Documents.Evolve.set hd (Document.redecorated_attachAll _ _).toEvolves
  | remove n mark => exact Documents.evolve_remove _ n mark
  | render _ hshows _ => exact hshows.evolve
  | install => exact Documents.Evolve.refl _
  | clear => exact Documents.evolve_release _ _ _
  | replace _ _ hshows => exact (Documents.evolve_release _ _ _).trans hshows.evolve

theorem Does.length_stores {a : Deed} {k k' : Desk} (h : Does a k k') :
    k'.stores.length = k.stores.length := by
  cases h with
  | install => exact List.length_set
  | clear => exact List.length_set
  | replace => exact List.length_set
  | _ => rfl

/-! ## Rules -/

/-- The deeds that a request about document `n` may ask for itself. -/
def Request.deeds (n : Nat) : Request → List Deed
  | .insert .. | .delete .. | .setText _ | .setFile _ => [.edit n]
  | .decorate .. => [.decorate n]
  | .remove _ => [.remove]
  | .render .. => [.render n]
  | .install _ => [.install 0 n]
  | .clear | .forget => [.clear 0 n]
  | .replace _ _ none => [.clear 0 n, .replace 0 n]
  | .replace _ _ (some _) => [.clear 0 n, .replace 0 n, .render n]
  | _ => []

/-- Whether a request is about the mode of a controller. -/
def Request.isMode : Request → Bool
  | .enable | .disable | .toggle | .run => true
  | _ => false

/-- What may occur in a session whose controllers are bound to given documents and stores. -/
structure Rules where
  /-- The number of the document and of the store of each controller. -/
  roster : List (Nat × Nat)
  /-- The deeds that may occur. -/
  deed : Deed → Prop
  /-- The steps that may be made. -/
  step : Step → Prop
  /-- The callbacks that may be subscribed, each with what it does. -/
  callback : Text × List Step → Prop
  /-- The controllers that may run. -/
  mode : Nat → Prop
  aside : deed .aside
  listen : deed .listen
  deed_of_step : ∀ {s a}, step s → a ∈ s.request.deeds s.document → deed a
  callback_of_step : ∀ {s name actions}, step s → s.request = .subscribe name actions →
    callback (name, actions)
  step_of_callback : ∀ {entry s}, callback entry → s ∈ entry.2 → step s
  mode_of_step : ∀ {s}, step s → s.request.isMode → mode s.controller
  mode_of_save : ∀ {s m e}, step s → s.request = .save → roster[m]? = some e →
    e.1 = s.document → mode m
  deed_of_mode : ∀ {m e}, mode m → roster[m]? = some e →
    deed (.clear e.2 e.1) ∧ deed (.replace e.2 e.1)

/-- A world that has nothing in store that would break the rules. -/
structure Fits (r : Rules) (w : World) : Prop where
  roster : w.controllers.map (fun c => (c.document, c.store)) = r.roster
  stores : ∀ e ∈ r.roster, e.2 < w.stores.length
  scripts : ∀ m c, w.controllers[m]? = some c → r.mode m → ∀ run ∈ c.script, ∀ s ∈ run.during,
    r.step s
  callbacks : ∀ entry ∈ w.callbacks, r.callback entry
  listeners : ∀ (n m : Nat) (d : Document), (w.documents : List Document)[n]? = some d →
    .controller m ∈ d.listeners → ∃ e, r.roster[m]? = some e ∧ e.1 = n

/-- Which runs are in progress. -/
def World.runs (w : World) : List Bool :=
  w.controllers.map Controller.running

/-- The world in which a run of a controller is in progress. -/
def World.busy (n : Nat) (w : World) : World :=
  { w with controllers := w.controllers.modify n fun c => { c with running := true } }

/-- What happens in a session that keeps to the rules. -/
inductive Course (r : Rules) : World → World → Prop
  /-- Nothing happens. -/
  | refl (w : World) : Course r w w
  /-- One more deed. -/
  | tail {w₁ w₂ w₃ : World} {a : Deed} : Course r w₁ w₂ → r.deed a → Does a w₂.desk w₃.desk →
      w₃.runs = w₂.runs → Fits r w₃ → Course r w₁ w₃
  /-- A run of a controller that was idle. -/
  | run {w₁ w₂ w₃ : World} {n : Nat} {c : Controller} : Course r w₁ w₂ →
      w₂.controllers[n]? = some c → c.running = false → Course r (w₂.busy n) w₃ →
      Course r w₁ (w₃.idle n)

namespace Fits
variable {r : Rules} {w w' : World}

/-- A controller is on the roster. -/
theorem roster_of (h : Fits r w) {n : Nat} {c : Controller} (hc : w.controllers[n]? = some c) :
    r.roster[n]? = some (c.document, c.store) := by
  rw [← h.roster, List.getElem?_map, hc]
  rfl

/-- Only controllers, stores, callbacks and listeners matter. -/
theorem of_eq (h : Fits r w) (hc : w'.controllers = w.controllers) (hs : w'.stores = w.stores)
    (hb : w'.callbacks = w.callbacks) (hd : w'.documents = w.documents) : Fits r w' :=
  ⟨hc ▸ h.roster, hs ▸ h.stores, hc ▸ h.scripts, hb ▸ h.callbacks, hd ▸ h.listeners⟩

/-- A controller may change as long as it stays bound and its runs to come are old ones. -/
theorem modify (h : Fits r w) (n : Nat) {change : Controller → Controller}
    (hchange : ∀ c, w.controllers[n]? = some c → (change c).document = c.document ∧
      (change c).store = c.store ∧ (change c).script ⊆ c.script) :
    Fits r { w with controllers := w.controllers.modify n change } := by
  have hget : ∀ (m : Nat) (c' : Controller), (w.controllers.modify n change)[m]? = some c' →
      ∃ c, w.controllers[m]? = some c ∧ c'.document = c.document ∧ c'.store = c.store ∧
        c'.script ⊆ c.script := by
    intro m c' hc'
    rw [List.getElem?_modify] at hc'
    obtain ⟨c, hc, rfl⟩ := Option.map_eq_some_iff.mp hc'
    refine ⟨c, hc, ?_⟩
    by_cases hm : n = m
    · subst hm
      rw [if_pos rfl]
      exact hchange c hc
    · rw [if_neg hm]
      exact ⟨rfl, rfl, List.Subset.refl _⟩
  refine ⟨?_, h.stores, ?_, h.callbacks, h.listeners⟩
  · rw [← h.roster]
    apply List.ext_getElem?
    intro m
    simp only [List.getElem?_map, List.getElem?_modify]
    cases hc : w.controllers[m]? with
    | none => rfl
    | some c =>
      by_cases hm : n = m
      · subst hm
        obtain ⟨hdoc, hstore, -⟩ := hchange c hc
        simp [hdoc, hstore]
      · simp [hm]
  · intro m c' hc' hmode run hrun s hs
    obtain ⟨c, hc, -, -, hsub⟩ := hget m c' hc'
    exact h.scripts m c hc hmode run (hsub hrun) s hs

theorem busy (h : Fits r w) (n : Nat) : Fits r (w.busy n) :=
  h.modify n fun _ _ => ⟨rfl, rfl, List.Subset.refl _⟩

theorem idle (h : Fits r w) (n : Nat) : Fits r (w.idle n) :=
  h.modify n fun _ _ => ⟨rfl, rfl, List.Subset.refl _⟩

/-- A document may change as long as nobody new listens to it, controllers of its own apart. -/
theorem set (h : Fits r w) {n : Nat} {d d' : Document}
    (hd : (w.documents : List Document)[n]? = some d)
    (hl : ∀ m, .controller m ∈ d'.listeners →
      .controller m ∈ d.listeners ∨ ∃ e, r.roster[m]? = some e ∧ e.1 = n) :
    Fits r { w with documents := List.set w.documents n d' } := by
  refine ⟨h.roster, h.stores, h.scripts, h.callbacks, fun i m e he hm => ?_⟩
  have he : (List.set w.documents n d')[i]? = some e := he
  rw [List.getElem?_set] at he
  by_cases hi : n = i
  · subst hi
    rw [if_pos rfl, if_pos (List.getElem?_eq_some_iff.mp hd).1] at he
    cases he
    rcases hl m hm with hm | hm
    · exact h.listeners n m d hd hm
    · exact hm
  · rw [if_neg hi] at he
    exact h.listeners i m e he hm

end Fits

namespace Course
variable {r : Rules} {w₁ w₂ w₃ : World}

theorem trans (h : Course r w₁ w₂) (h' : Course r w₂ w₃) : Course r w₁ w₃ := by
  induction h' with
  | refl => exact h
  | tail _ ha hdoes hruns hfits ih => exact .tail (ih h) ha hdoes hruns hfits
  | run _ hc hidle hrun ih _ => exact .run (ih h) hc hidle hrun

theorem fits (h : Course r w₁ w₂) (hw : Fits r w₁) : Fits r w₂ := by
  induction h with
  | refl => exact hw
  | tail _ _ _ _ hfits _ => exact hfits
  | run _ _ _ _ ih ih' => exact (ih' ((ih hw).busy _)).idle _

/-- What every deed that is allowed preserves holds in the end. -/
theorem invariant {I : Desk → Prop}
    (hI : ∀ {a k k'}, r.deed a → Does a k k' → I k → I k') (h : Course r w₁ w₂)
    (hw : I w₁.desk) : I w₂.desk := by
  induction h with
  | refl => exact hw
  | tail _ ha hdoes _ _ ih => exact hI ha hdoes (ih hw)
  | run _ _ _ _ ih ih' => exact ih' (ih hw)

/-- Every run has ended that began meanwhile. -/
theorem runs (h : Course r w₁ w₂) : w₂.runs = w₁.runs := by
  induction h with
  | refl => rfl
  | tail _ _ _ hruns _ ih => exact hruns.trans ih
  | @run w w' w'' n c _ hc hidle _ ih ih' =>
    rw [← ih]
    apply List.ext_getElem?
    intro m
    have hm : w''.runs[m]? = (w'.busy n).runs[m]? := by rw [ih']
    unfold World.runs World.busy at hm
    unfold World.runs World.idle
    rw [List.getElem?_map, List.getElem?_map] at hm ⊢
    rw [List.getElem?_modify] at hm ⊢
    by_cases hn : n = m
    · -- this one was idle before, so it does not matter what the course has left of it
      subst hn
      rw [hc] at hm ⊢
      cases hc'' : w''.controllers[n]? with
      | none => simp [hc''] at hm
      | some c'' => simp [hidle]
    · simpa [hn] using hm

end Course

end Marginalia.Session

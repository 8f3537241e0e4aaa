import Marginalia.Proofs.Session.Sound

/-!
# Quiet actions

Most actions leave alone what others go by: the controllers, who listens to what, and what stores
keep.  Two worlds are `Still` towards each other if they agree in the first two, and `Quiet` if
stores keep the same as well and the desk has gone on in an orderly way otherwise.  The actions that
never change more than that are taken one by one here, once and for all.
-/

namespace Marginalia.Session

/-! ## Listeners -/

/-- The documents have the listeners that they had. -/
def SameListeners (docs docs' : Documents) : Prop :=
  ∀ i : Nat, (docs' : List Document)[i]?.map Document.listeners
    = (docs : List Document)[i]?.map Document.listeners

namespace SameListeners
variable {docs docs' docs'' : Documents}

theorem refl (docs : Documents) : SameListeners docs docs := fun _ => rfl

theorem trans (h : SameListeners docs docs') (h' : SameListeners docs' docs'') :
    SameListeners docs docs'' :=
  fun i => (h' i).trans (h i)

theorem set {n : Nat} {d d' : Document} (hd : (docs : List Document)[n]? = some d)
    (h : d'.listeners = d.listeners) : SameListeners docs (List.set docs n d') := by
  intro i
  rw [List.getElem?_set]
  by_cases hi : n = i
  · subst hi
    rw [if_pos rfl, if_pos (List.getElem?_eq_some_iff.mp hd).1, hd, Option.map_some, h,
      Option.map_some]
  · rw [if_neg hi]

theorem of_map {f : Nat → Document → Document}
    (h : ∀ i, (docs' : List Document)[i]? = (docs : List Document)[i]?.map (f i))
    (hf : ∀ i d, Document.Redecorated d (f i d)) : SameListeners docs docs' := by
  intro i
  rw [h i]
  cases (docs : List Document)[i]? with
  | none => rfl
  | some d => simp [(hf i d).listeners_eq]

theorem remove (docs : Documents) (n : Nat) (mark : Mark) :
    SameListeners docs (docs.remove n mark) :=
  of_map (docs.getElem?_remove n mark) fun i d => Document.redecorated_removed i n mark d

theorem release (docs : Documents) (n : Nat) (batch : List Annotation) :
    SameListeners docs (Store.release docs n batch) :=
  of_map (docs.getElem?_release n batch) fun i d => Document.redecorated_released i n batch d

theorem shows {n : Nat} {batch : List Annotation} (h : docs.Shows n docs' batch) :
    SameListeners docs docs' := by
  cases h with
  | nothing => exact refl docs
  | placed hd _ => exact set hd rfl

end SameListeners

/-! ## Quiet worlds -/

/-- Two worlds that agree in the controllers and in who listens to what. -/
structure Still (w w' : World) : Prop where
  controllers : w'.controllers = w.controllers
  listeners : SameListeners w.documents w'.documents
  subscriptions : w'.subscriptions = w.subscriptions

theorem Still.refl (w : World) : Still w w := ⟨rfl, .refl _, rfl⟩

theorem Still.trans {w₁ w₂ w₃ : World} (h : Still w₁ w₂) (h' : Still w₂ w₃) : Still w₁ w₃ :=
  ⟨h'.controllers.trans h.controllers, h.listeners.trans h'.listeners,
    h'.subscriptions.trans h.subscriptions⟩

theorem Alike.still {w w' : World} (h : Alike w w') : Still w w' :=
  ⟨h.controllers, h.documents ▸ .refl _, h.subscriptions⟩

/-- Two worlds that also agree in what stores keep, and of which one follows the other. -/
structure Quiet (w w' : World) : Prop extends Still w w' where
  stores : w'.stores = w.stores
  evolve : w.documents.Evolve w'.documents
  sound : w.desk.Sound → w'.desk.Sound

namespace Quiet
variable {w₁ w₂ w₃ w w' : World}

theorem refl (w : World) : Quiet w w := ⟨.refl w, rfl, .refl _, id⟩

theorem trans (h : Quiet w₁ w₂) (h' : Quiet w₂ w₃) : Quiet w₁ w₃ :=
  ⟨h.toStill.trans h'.toStill, h'.stores.trans h.stores, h.evolve.trans h'.evolve,
    h'.sound ∘ h.sound⟩

theorem of_does {a : Deed} (h : Still w w') (hstores : w'.stores = w.stores)
    (hdoes : Does a w.desk w'.desk) : Quiet w w' :=
  ⟨h, hstores, hdoes.evolve, hdoes.sound⟩

theorem of_alike (h : Alike w w') : Quiet w w' := by
  refine of_does (a := .aside) h.still h.stores ?_
  rw [h.desk]
  exact .aside _

theorem edit {n : Nat} {d : Document} (hd : (w.documents : List Document)[n]? = some d)
    (text : Text) (move : Anchor → Anchor) (file : Option Path) :
    Quiet w { w with documents := List.set w.documents n { d.edited text move with file } } :=
  of_does ⟨rfl, .set hd rfl, rfl⟩ rfl (.edit text move file hd)

/-- Diagnostics are shown, and their annotations kept under a name perhaps. -/
theorem shows {n : Nat} {docs : Documents} {batch : List Annotation}
    (h : w.documents.Shows n docs batch) (kept : List (Text × List Annotation))
    (hkept : ∀ slot ∈ kept, slot.2 = batch) :
    Quiet w { w with documents := docs, slots := kept ++ w.slots } :=
  of_does ⟨rfl, .shows h, rfl⟩ rfl (.render kept h hkept)

end Quiet

/-! ## Actions that are quiet -/

/-- An action that is quiet, whether it fails or not. -/
def Hushed {α : Type} (act : Action α) : Prop :=
  ∀ w, Quiet w (w.after act)

section
variable {α β : Type}

theorem Aside.hushed {act : Action α} (h : Aside act) : Hushed act := fun w => .of_alike (h w)

namespace Hushed

theorem bind {act : Action α} {k : α → Action β} (h : Hushed act) (hk : ∀ a, Hushed (k a)) :
    Hushed (act >>= k) :=
  fun w => after_bind_of (h w) fun a => (h w).trans (hk a _)

theorem document_bind {n : Nat} {k : Document → Action β}
    (hk : ∀ (w : World) (d : Document), (w.documents : List Document)[n]? = some d →
      Quiet w (w.after (k d))) : Hushed (document n >>= k) := by
  intro w
  rw [World.after, Session.document_bind]
  cases hd : (w.documents : List Document)[n]? with
  | none => exact .refl w
  | some d => exact hk w d hd

end Hushed
end

/-- To show diagnostics is quiet. -/
theorem Renders.hushed {r : Rules} {n : Nat} {act : Action (List Annotation)}
    (h : Renders r n act) : Hushed act := by
  intro w
  rw [World.after]
  rcases h w with ⟨fault, hrun⟩ | ⟨docs, batch, hshows, hrun | ⟨-, fault, hrun⟩⟩
  · rw [hrun]
    exact .refl w
  · rw [hrun]
    exact .shows hshows [] (by simp)
  · rw [hrun]
    exact .shows hshows [] (by simp)

theorem hushed_aboutText (n : Nat) (request : Request) : Hushed (aboutText n request) := by
  refine .document_bind fun w d hd => ?_
  cases request with
  | lineEnd line => exact ((Aside.orFault _ _).bind fun _ => .pure _).hushed w
  | annotated lines => exact ((Aside.orFault _ _).bind fun _ => .pure _).hushed w
  | insert offset text =>
    show Quiet w (w.after (orFault .range (d.insert offset (text.getD [])) >>= _))
    cases hinsert : d.insert offset (text.getD []) with
    | error e => exact .refl w
    | ok d' =>
      obtain ⟨text', move, rfl⟩ := Document.insert_ok hinsert
      cases text with
      | none => exact .refl w
      | some text => exact .edit hd text' move d.file
  | delete start stop =>
    show Quiet w (w.after (orFault .range (d.delete start stop) >>= _))
    cases hdelete : d.delete start stop with
    | error e => exact .refl w
    | ok d' =>
      obtain ⟨text', move, rfl⟩ := Document.delete_ok hdelete
      exact .edit hd text' move d.file
  | setText text =>
    have hquiet : Quiet w
        { w with documents := List.set w.documents n (d.edited text fun x => x) } :=
      .edit hd text (fun x => x) d.file
    rw [d.edited_self text] at hquiet
    exact hquiet
  | setFile file =>
    have hquiet := Quiet.edit hd d.text (fun x => x) file
    rw [d.edited_self d.text] at hquiet
    exact hquiet
  | _ => exact .refl w

theorem hushed_aboutDecorations (n : Nat) (request : Request) :
    Hushed (aboutDecorations n request) := by
  cases request with
  | decorate offset text style =>
    refine .document_bind fun w d hd => ?_
    show Quiet w (w.after (orFault .range (d.decorate offset text style) >>= _))
    cases hdecorate : d.decorate offset text style with
    | error e => exact .refl w
    | ok result =>
      obtain ⟨d', k⟩ := result
      obtain ⟨x, hx, rfl, rfl⟩ := Document.decorate_ok hdecorate
      have hset : Quiet w { w with documents := List.set w.documents n (d.attachAll [x]) } :=
        .of_does ⟨rfl, .set hd rfl, rfl⟩ rfl (.decorate hd hx)
      exact hset.trans (((Aside.handle ⟨n, d.count⟩).bind fun k =>
        .pure (Answer.number k)).hushed _)
  | remove number =>
    intro w
    show Quiet w (w.after (orNothing w.handles[number]? >>= _))
    cases w.handles[number]? with
    | none => exact .refl w
    | some mark => exact .of_does ⟨rfl, .remove _ _ _, rfl⟩ rfl (.remove n mark)
  | handles => exact (Aside.get.bind fun _ => .pure _).hushed
  | _ => exact (Aside.throw _).hushed

/-- To look at annotations touches nothing. -/
theorem aside_annotations (n : Nat) (from? : Option Nat) :
    Aside (aboutAnnotations n (.annotations from?)) := by
  cases from? with
  | none =>
    exact (Aside.store 0).bind fun st => (Aside.document _).bind fun d =>
      (Aside.showAll _).bind fun _ => .pure _
  | some m =>
    exact (Aside.controller m).bind fun c => (Aside.store _).bind fun st =>
      (Aside.document _).bind fun d => (Aside.showAll _).bind fun _ => .pure _

/-- To show diagnostics and keep the annotations under a name is quiet. -/
theorem hushed_render (n : Nat) (tables : List Fields) (style : Style) (slot : Text) :
    Hushed (aboutAnnotations n (.render tables style slot)) := by
  intro w
  have hrenders : Renders (.free []) n (rendered n tables style none) :=
    renders_rendered tables style fun h => nomatch h
  rw [aboutAnnotations, after_bind]
  rcases hrenders w with ⟨fault, hrun⟩ | ⟨docs, batch, hshows, hrun | ⟨-, fault, hrun⟩⟩
  · rw [hrun]
    exact .refl w
  · rw [hrun]
    have hshown : Aside (showAll batch >>= fun shown => pure (Answer.annotations shown)) :=
      (Aside.showAll batch).bind fun _ => .pure _
    refine (Quiet.shows hshows [(slot, batch)] ?_).trans (hshown.hushed _)
    simp
  · rw [hrun]
    exact .shows hshows [] (by simp)

end Marginalia.Session

import Marginalia.Proofs.Session.Quiet
import Marginalia.Proofs.Session.Watched

/-!
# Laws of sessions

A *law* relates two worlds and the events between them.  It has to hold of each single thing that
can happen: a controller is switched on or off, a callback of the host joins or leaves, a run is
dropped, or everything stays as it is but for texts, decorations, annotations and the like.  It also
has to pass from what happens during a run to the run as a whole.  `Law.step` says that a law then
holds of every step, however deep steps lie within it.

What is common to all the actions of which nothing is noted is that they leave the controllers alone
and who listens to what.
-/

namespace Marginalia.Session

/-! ## Actions of which nothing is noted -/

/-- An action that leaves the controllers alone and who listens to what. -/
def Calm {α : Type} (act : Action α) : Prop :=
  ∀ w, Still w (w.after act)

theorem Hushed.calm {α : Type} {act : Action α} (h : Hushed act) : Calm act :=
  fun w => (h w).toStill

theorem Aside.calm {α : Type} {act : Action α} (h : Aside act) : Calm act := h.hushed.calm

theorem Calm.bind {α β : Type} {act : Action α} {k : α → Action β} (h : Calm act)
    (hk : ∀ a, Calm (k a)) : Calm (act >>= k) :=
  fun w => after_bind_of (h w) fun a => (h w).trans (hk a _)

theorem calm_clearStore (s n : Nat) : Calm (clearStore s n) := by
  intro w
  cases hd : (w.documents : List Document)[n]? with
  | none => exact (alike_clearStore hd).still
  | some d =>
    cases hs : w.stores[s]? with
    | none =>
      rw [World.after, clearStore, store_bind, hs]
      exact .refl w
    | some st =>
      rw [World.after, run_clearStore hs hd]
      exact ⟨rfl, .release _ _ _, rfl⟩

theorem calm_installIn (s n : Nat) (batch : List Annotation) : Calm (installIn s n batch) :=
  (Aside.store s).calm.bind fun _ => (Aside.document n).calm.bind fun _ =>
    (Aside.orFault _ _).calm.bind fun _ _ => ⟨rfl, .refl _, rfl⟩

theorem calm_replaceIn (s n : Nat) {make : Action (List Annotation)} (h : Calm make) :
    Calm (replaceIn s n make) :=
  (calm_clearStore s n).bind fun _ => h.bind fun batch => (calm_installIn s n batch).bind fun _ =>
    (Aside.pure _).calm

theorem calm_aboutAnnotations (n : Nat) (request : Request) :
    Calm (aboutAnnotations n request) := by
  cases request with
  | render tables style slot => exact (hushed_render n tables style slot).calm
  | install slot =>
    exact Aside.get.calm.bind fun w => (calm_installIn 0 n _).bind fun _ => (Aside.pure _).calm
  | clear => exact (calm_clearStore 0 n).bind fun _ => (Aside.pure _).calm
  | forget => exact (calm_clearStore 0 n).bind fun _ => (Aside.pure _).calm
  | replace tables style failure =>
    have hrenders : Renders (.free []) n (rendered n tables style failure) :=
      renders_rendered tables style fun _ => trivial
    exact (calm_replaceIn 0 n hrenders.hushed.calm).bind fun batch =>
      ((Aside.showAll batch).bind fun _ => .pure _).calm
  | annotations _ => exact (aside_annotations n _).calm
  | size => exact ((Aside.store 0).bind fun _ => .pure _).calm
  | _ => exact (Aside.throw _).calm

/-! ## Laws -/

/-- Two controllers that may differ in their settings and in the runs to come. -/
structure SameStanding (c c' : Controller) : Prop where
  document : c'.document = c.document
  on : c'.on = c.on
  subscribed : c'.subscribed = c.subscribed
  running : c'.running = c.running
  lastOutcome : c'.lastOutcome = c.lastOutcome

/-- The world in which a controller has been switched on. -/
def World.switchedOn (w : World) (n : Nat) (c : Controller) : World :=
  { w with
    controllers := w.controllers.modify n fun c => { c with on := true, subscribed := true }
    documents := List.modify w.documents c.document fun d => d.subscribe (.controller n) }

/-- The world in which a controller has been switched off. -/
def World.switchedOff (w : World) (n : Nat) (c : Controller) : World :=
  { w with
    controllers := w.controllers.modify n fun c => { c with on := false, subscribed := false }
    documents :=
      if c.subscribed then
        List.modify w.documents c.document fun d => d.unsubscribe (.controller n)
      else w.documents }

/-- What the end of a run changes: the outcome of the latest run, at most. -/
structure Concluded (n : Nat) (w w' : World) : Prop where
  controllers : w'.controllers = w.controllers ∨
    ∃ o, w'.controllers = w.controllers.modify n fun c => { c with lastOutcome := some o }
  listeners : SameListeners w.documents w'.documents
  subscriptions : w'.subscriptions = w.subscriptions

/-- What holds of each thing that can happen, and passes to runs and to sequences. -/
structure Law (P : World → World → List Event → Prop) : Prop where
  still : ∀ {w w'}, Still w w' → P w w' []
  trans : ∀ {w₁ w₂ w₃ es es'}, P w₁ w₂ es → P w₂ w₃ es' → P w₁ w₃ (es ++ es')
  adjust : ∀ {w : World} {n : Nat} {change : Controller → Controller},
    (∀ c, SameStanding c (change c)) →
    P w { w with controllers := w.controllers.modify n change } []
  dropped : ∀ {w : World} {n c}, w.controllers[n]? = some c → c.running = true →
    P w w [.dropped n]
  run : ∀ {w w₂ w₃ : World} {n c es answered}, w.controllers[n]? = some c → c.running = false →
    P (w.busy n) w₂ es → Concluded n w₂ w₃ →
    P w (w₃.idle n) (.began n :: es ++ [.ended n answered])
  switchedOn : ∀ {w : World} {n c}, w.controllers[n]? = some c → c.on = false →
    P w (w.switchedOn n c) [.switched n true]
  switchedOff : ∀ {w : World} {n c}, w.controllers[n]? = some c →
    P w (w.switchedOff n c) [.switched n false]
  joined : ∀ {w w' : World} {i : Nat} {d name}, (w.documents : List Document)[i]? = some d →
    w'.controllers = w.controllers →
    w'.documents = List.set w.documents i (d.subscribe (.callback name)) →
    w'.subscriptions = w.subscriptions ++ [(i, .callback name)] → P w w' [.joined i name]
  left : ∀ {w : World} {k i : Nat} {l d}, w.subscriptions[k]? = some (i, l) →
    (w.documents : List Document)[i]? = some d →
    P w { w with documents := List.set w.documents i (d.unsubscribe l) } [.left i l]

/-! ### Single things that happen -/

section
variable {w : World} {n m : Nat} {c : Controller}

theorem busy_of_ne (h : n ≠ m) : (w.busy n).controllers[m]? = w.controllers[m]? := by
  simp [World.busy, h]

theorem busy_self (h : w.controllers[n]? = some c) :
    (w.busy n).controllers[n]? = some { c with running := true } := by
  simp [World.busy, h]

theorem idle_of_ne (h : n ≠ m) : (w.idle n).controllers[m]? = w.controllers[m]? := by
  simp [World.idle, h]

theorem idle_self (h : w.controllers[n]? = some c) :
    (w.idle n).controllers[n]? = some { c with running := false } := by
  simp [World.idle, h]

end

theorem run_document (n : Nat) (w : World) :
    (document n).run w =
      match (w.documents : List Document)[n]? with
      | some d => (.ok d, w)
      | none => (.error .nothing, w) := by
  show (orNothing (w.documents : List Document)[n]?).run w = _
  cases (w.documents : List Document)[n]? with
  | none => rfl
  | some d => rfl

theorem run_controller (n : Nat) (w : World) :
    (controller n).run w =
      match w.controllers[n]? with
      | some c => (.ok c, w)
      | none => (.error .nothing, w) := by
  show (orNothing w.controllers[n]?).run w = _
  cases w.controllers[n]? with
  | none => rfl
  | some c => rfl

theorem set_eq_modify {α : Type} {l : List α} {i : Nat} {a : α} (h : l[i]? = some a) (f : α → α) :
    l.set i (f a) = l.modify i f := by
  apply List.ext_getElem?
  intro j
  rw [List.getElem?_set, List.getElem?_modify]
  by_cases hj : i = j
  · subst hj
    rw [if_pos rfl, if_pos (List.getElem?_eq_some_iff.mp h).1, h]
    simp
  · simp [hj]

theorem run_switchOn (w : World) (n : Nat) (c : Controller) :
    ∃ answer, (switchOn n c).run w = (answer, w.switchedOn n c) := by
  rw [switchOn, World.switchedOn, changeController, modify_bind, document_bind]
  cases hd : (w.documents : List Document)[c.document]? with
  | none =>
    rw [List.modify_eq_self (List.getElem?_eq_none_iff.mp hd)]
    exact ⟨_, rfl⟩
  | some d =>
    rw [← set_eq_modify hd]
    exact ⟨_, rfl⟩

theorem run_switchOff (w : World) (n : Nat) (c : Controller) :
    (switchOff n c).run w = (.error .nothing, w) ∨
      (switchOff n c).run w = (.ok (), w.switchedOff n c) := by
  unfold switchOff World.switchedOff
  cases c.subscribed with
  | false => exact .inr rfl
  | true =>
    simp only [if_true]
    rw [document_bind]
    cases hd : (w.documents : List Document)[c.document]? with
    | none => exact .inl rfl
    | some d =>
      rw [← set_eq_modify hd]
      exact .inr rfl

theorem aside_announce (c : Controller) (file : Path) : Aside (announce c file) :=
  Aside.get.bind fun _ => (Aside.orFault _ _).bind fun _ => (Aside.say _ _ _).bind fun _ =>
    .pure _

theorem aside_written (n : Nat) : Aside (written n) := by
  refine (Aside.document n).bind fun d => ?_
  intro w
  show Alike w (w.after (orFault .tree (d.write w.host.tree w.host.cwd) >>= _))
  cases d.write w.host.tree w.host.cwd with
  | error r => exact .refl w
  | ok tree => exact ⟨rfl, rfl, rfl, rfl, rfl, rfl⟩

theorem Concluded.of_still {n : Nat} {w w' : World} (h : Still w w') : Concluded n w w' :=
  ⟨.inl h.controllers, h.listeners, h.subscriptions⟩

/-- The end of a run changes no other controller. -/
theorem Concluded.of_ne {n m : Nat} {w w' : World} (h : Concluded n w w') (hm : n ≠ m) :
    w'.controllers[m]? = w.controllers[m]? := by
  rcases h.controllers with hc | ⟨o, hc⟩
  · rw [hc]
  · simp [hc, hm]

/-- The end of a run leaves the mode of the controller as it is. -/
theorem Concluded.self {n : Nat} {w w' : World} {c : Controller} (h : Concluded n w w')
    (hc : w.controllers[n]? = some c) :
    ∃ o, w'.controllers[n]? = some { c with lastOutcome := o } := by
  rcases h.controllers with hc' | ⟨o, hc'⟩
  · exact ⟨c.lastOutcome, by rw [hc', hc]⟩
  · exact ⟨some o, by simp [hc', hc]⟩

theorem concluded_conclude (n : Nat) (c : Controller) (file : Path) (o : Outcome) (w : World) :
    Concluded n w (w.after (conclude n c file o)) := by
  have hreplace := calm_replaceIn c.store c.document
    (renders_renderIn (r := .free []) c.document c.style o.diagnostics).hushed.calm w
  refine after_bind_of (.of_still hreplace) fun batch => ?_
  let w' := w.after (replaceIn c.store c.document (renderIn c.document c.style o.diagnostics))
  have hrest : Aside (controller n >>= fun c' =>
      sayAll c.voice (verdict c'.settings file o) >>= fun _ => pure (some o)) :=
    (Aside.controller n).bind fun _ => (Aside.sayAll _ _).bind fun _ => .pure _
  have hrest := (hrest { w' with
    controllers := w'.controllers.modify n fun c => { c with lastOutcome := some o } }).still
  refine ⟨.inr ⟨o, ?_⟩, hreplace.listeners.trans hrest.listeners,
    hrest.subscriptions.trans hreplace.subscriptions⟩
  rw [← hreplace.controllers]
  exact hrest.controllers

namespace Watched
variable {α β : Type} {P : World → World → List Event → Prop}

theorem bind_eq (m : Watched α) (k : α → Watched β) (w : World) :
    (m >>= k) w =
      match m w with
      | ((.ok a, w'), es) => ((k a w').1, es ++ (k a w').2)
      | ((.error fault, w'), es) => ((.error fault, w'), es) := rfl

/-- What follows an action of which nothing is noted. -/
theorem of_bind_ok {act : Action α} {a : α} {w w' : World} (h : act.run w = (.ok a, w'))
    (k : α → Watched β) : (of act >>= k) w = k a w' := by
  rw [bind_eq, of, h]
  rfl

theorem of_bind_error {act : Action α} {fault : Fault} {w w' : World}
    (h : act.run w = (.error fault, w')) (k : α → Watched β) :
    (of act >>= k) w = ((.error fault, w'), []) := by
  rw [bind_eq, of, h]

/-! ### Subscriptions of the host -/

section
variable (make : Step → Watched Answer) (w : World) (n m : Nat)

/-- A callback is subscribed to a document that is there. -/
theorem perform_subscribe (name : Text) (actions : List Step) :
    ((w.documents : List Document)[n]? = none ∧
      perform make ⟨n, m, .subscribe name actions⟩ w = ((.error .nothing, w), [])) ∨
    ∃ d, (w.documents : List Document)[n]? = some d ∧
      perform make ⟨n, m, .subscribe name actions⟩ w =
        ((.ok (.number w.subscriptions.length), { w with
          documents := List.set w.documents n (d.subscribe (.callback name))
          callbacks := if (w.callbacks.lookup name).isSome then w.callbacks
            else w.callbacks ++ [(name, actions)]
          subscriptions := w.subscriptions ++ [(n, .callback name)] }), [.joined n name]) := by
  have hperform : perform make ⟨n, m, .subscribe name actions⟩ =
      (of (aboutSaves makeNone n (.subscribe name actions)) >>= fun answer =>
        tell (.joined n name) >>= fun _ => pure answer) := rfl
  rw [hperform]
  cases hd : (w.documents : List Document)[n]? with
  | none =>
    have hrun : (aboutSaves makeNone n (.subscribe name actions)).run w = (.error .nothing, w) := by
      rw [aboutSaves, document_bind, hd]
    exact .inl ⟨rfl, of_bind_error hrun _⟩
  | some d =>
    have hrun : (aboutSaves makeNone n (.subscribe name actions)).run w = _ :=
      document_bind_some hd _
    exact .inr ⟨d, rfl, of_bind_ok hrun _⟩

/-- A subscription is ended if there is one of that number, to a document that is there. -/
theorem perform_unsubscribe (k : Nat) :
    ((∀ i l, w.subscriptions[k]? = some (i, l) → (w.documents : List Document)[i]? = none) ∧
      perform make ⟨n, m, .unsubscribe k⟩ w = ((.error .nothing, w), [])) ∨
    ∃ i l d, w.subscriptions[k]? = some (i, l) ∧ (w.documents : List Document)[i]? = some d ∧
      perform make ⟨n, m, .unsubscribe k⟩ w =
        ((.ok .done, { w with documents := List.set w.documents i (d.unsubscribe l) }),
          [.left i l]) := by
  have hget : (get : Action World).run w = (.ok w, w) := rfl
  simp only [perform]
  rw [of_bind_ok hget]
  cases hs : w.subscriptions[k]? with
  | none =>
    refine .inl ⟨fun _ _ h => ?_, rfl⟩
    cases h
  | some subscription =>
    obtain ⟨i, l⟩ := subscription
    have hsome : (orNothing (some (i, l))).run w = (.ok (i, l), w) := rfl
    rw [of_bind_ok hsome]
    cases hd : (w.documents : List Document)[i]? with
    | none =>
      have hrun : (document i).run w = (.error .nothing, w) := by rw [run_document, hd]
      refine .inl ⟨fun _ _ h => ?_, of_bind_error hrun _⟩
      cases h
      exact hd
    | some d =>
      have hrun : (document i).run w = (.ok d, w) := by rw [run_document, hd]
      exact .inr ⟨i, l, d, rfl, hd, of_bind_ok hrun _⟩

end

/-- A watched action of which a relation holds. -/
def Obeys (P : World → World → List Event → Prop) (m : Watched α) : Prop :=
  ∀ w, P w (m w).1.2 (m w).2

namespace Obeys

/-- What comes after an action that is known to obey in one world. -/
theorem bind_at (law : Law P) {m : Watched α} {k : α → Watched β} {w : World}
    (h : P w (m w).1.2 (m w).2) (hk : ∀ a, Obeys P (k a)) :
    P w ((m >>= k) w).1.2 ((m >>= k) w).2 := by
  rw [bind_eq]
  cases hm : m w with
  | mk result es =>
    obtain ⟨answer, w'⟩ := result
    rw [hm] at h
    cases answer with
    | ok a => exact law.trans h (hk a w')
    | error fault => exact h

theorem bind (law : Law P) {m : Watched α} {k : α → Watched β} (h : Obeys P m)
    (hk : ∀ a, Obeys P (k a)) : Obeys P (m >>= k) :=
  fun w => bind_at law (h w) hk

theorem of (law : Law P) {act : Action α} (h : Calm act) : Obeys P (of act) :=
  fun w => law.still (h w)

theorem pure (law : Law P) (a : α) : Obeys P (pure a : Watched α) :=
  fun w => law.still (.refl w)

theorem controller_bind (law : Law P) {n : Nat} {k : Controller → Watched β}
    (hk : ∀ (w : World) (c : Controller), w.controllers[n]? = some c →
      P w (k c w).1.2 (k c w).2) : Obeys P (Watched.of (controller n) >>= k) := by
  intro w
  cases hc : w.controllers[n]? with
  | none =>
    have hrun : (controller n).run w = (.error .nothing, w) := by rw [run_controller, hc]
    rw [of_bind_error hrun]
    exact law.still (.refl w)
  | some c =>
    have hrun : (controller n).run w = (.ok c, w) := by rw [run_controller, hc]
    rw [of_bind_ok hrun]
    exact hk w c hc

end Obeys

/-- A watched action of which a relation holds up to the end of a run. -/
def Ends (P : World → World → List Event → Prop) (n : Nat) (m : Watched α) : Prop :=
  ∀ w, ∃ w', P w w' (m w).2 ∧ Concluded n w' (m w).1.2

namespace Ends
variable {n : Nat}

theorem of_obeys {m : Watched α} (h : Obeys P m) : Ends P n m :=
  fun w => ⟨_, h w, .of_still (.refl _)⟩

theorem of_concluded (law : Law P) {act : Action α} (h : ∀ w, Concluded n w (w.after act)) :
    Ends P n (of act) :=
  fun w => ⟨w, law.still (.refl w), h w⟩

theorem bind (law : Law P) {m : Watched α} {k : α → Watched β} (h : Obeys P m)
    (hk : ∀ a, Ends P n (k a)) : Ends P n (m >>= k) := by
  intro w
  have hw := h w
  rw [bind_eq]
  cases hm : m w with
  | mk result es =>
    obtain ⟨answer, w'⟩ := result
    rw [hm] at hw
    cases answer with
    | ok a =>
      obtain ⟨w'', hrest, hend⟩ := hk a w'
      exact ⟨w'', law.trans hw hrest, hend⟩
    | error fault => exact ⟨w', hw, .of_still (.refl w')⟩

end Ends

/-! ## What a step does -/

section
variable {make : Step → Watched Answer} (law : Law P) (hmake : ∀ s, Obeys P (make s))

/-- What is left of a scripted run after the steps that are made during it. -/
theorem aside_alone (run : Run) (unitId : Text) :
    Aside (scriptedOutcome makeNone run.alone unitId) := by
  refine (Aside.pure ()).bind fun _ => ?_
  split
  · exact fun w => .refl w
  · simp only
    split
    · exact fun w => .refl w
    · exact .orFault _ _

include law

theorem obeys_adjust {n : Nat} {change : Controller → Controller}
    (h : ∀ c, SameStanding c (change c)) : Obeys P (of (changeController n change)) :=
  fun _ => law.adjust h

include hmake

theorem obeys_makeAll (entry : Text → Answer → Entry) (steps : List Step) :
    Obeys P (makeAll make entry steps) := by
  induction steps with
  | nil => exact .pure law ()
  | cons s rest ih =>
    exact .bind law (hmake s) fun _ => .bind law (.of law (Aside.record _).calm) fun _ => ih

theorem obeys_outcomeOf (n : Nat) (unitId : Text) : Obeys P (outcomeOf make n unitId) := by
  refine .bind law (.of law (Aside.controller n).calm) fun c => ?_
  cases c.script with
  | nil => exact .of law (Aside.compilerOutcome c unitId).calm
  | cons run rest =>
    refine .bind law (obeys_adjust law fun _ => ⟨rfl, rfl, rfl, rfl, rfl⟩) fun _ => ?_
    refine .bind law (.of law (Aside.record _).calm) fun _ => ?_
    refine .bind law (obeys_makeAll law hmake .during run.during) fun _ => ?_
    exact .of law (aside_alone run unitId).calm

/-- A run is what happens until there is an outcome, and then the end. -/
theorem ends_pipeline (n : Nat) : Ends P n (pipeline make n) := by
  refine .bind law (.of law (Aside.controller n).calm) fun c => ?_
  refine .bind law (.of law (Aside.document _).calm) fun d => ?_
  cases sourceFile d with
  | error unfit =>
    exact .of_obeys (.bind law (.of law (Aside.say _ _ _).calm) fun _ => .pure law none)
  | ok file =>
    refine .bind law (.of law (aside_announce c file).calm) fun unitId => ?_
    refine .bind law (obeys_outcomeOf law hmake n unitId) fun o => ?_
    exact .of_concluded law (concluded_conclude n c file o)

theorem obeys_run (n : Nat) : Obeys P (run make n) := by
  refine .controller_bind law fun w c hc => ?_
  cases hrunning : c.running with
  | true => exact law.dropped hc hrunning
  | false =>
    obtain ⟨w', hinner, hend⟩ := ends_pipeline law hmake n (w.busy n)
    exact law.run hc hrunning hinner hend

theorem obeys_enable (n : Nat) : Obeys P (enable make n) := by
  refine .controller_bind law fun w c hc => ?_
  cases hon : c.on with
  | true => exact law.still (.refl w)
  | false =>
    obtain ⟨answer, hrun⟩ := run_switchOn w n c
    have hrest : Obeys P (run make n >>= fun _ => pure ()) :=
      .bind law (obeys_run law hmake n) fun _ => .pure law ()
    let m : Watched Unit := of (switchOn n c) >>= fun _ => run make n >>= fun _ => pure ()
    have hm : P w (m w).1.2 (.switched n true :: (m w).2) := by
      cases answer with
      | error fault =>
        simp only [m, of_bind_error hrun]
        exact law.switchedOn hc hon
      | ok a =>
        simp only [m, of_bind_ok hrun]
        exact law.trans (law.switchedOn hc hon) (hrest _)
    exact hm

omit hmake in
theorem obeys_disable (n : Nat) : Obeys P (disable n) := by
  refine .controller_bind law fun w c hc => ?_
  rcases run_switchOff w n c with hrun | hrun
  · rw [of_bind_error hrun]
    exact law.still (.refl w)
  · rw [of_bind_ok hrun]
    exact law.trans (law.switchedOff hc) (law.still (calm_clearStore _ _ _))

theorem obeys_toggle (n : Nat) : Obeys P (toggle make n) := by
  refine .bind law (.of law (Aside.controller n).calm) fun c => ?_
  have hafter : Obeys P (of (controller n) >>= fun c => pure c.on) :=
    .bind law (.of law (Aside.controller n).calm) fun c => .pure law c.on
  split
  · exact .bind law (obeys_disable law n) fun _ => hafter
  · exact .bind law (obeys_enable law hmake n) fun _ => hafter

theorem obeys_notify (l : Listener) : Obeys P (notify make l) := by
  cases l with
  | callback name =>
    have htold : Aside (told name) :=
      (Aside.record _).bind fun _ => Aside.get.bind fun _ => .pure _
    exact .bind law (.of law htold.calm) fun steps => obeys_makeAll law hmake .action steps
  | controller n =>
    refine .bind law (.of law (Aside.controller n).calm) fun c => ?_
    split
    · exact .bind law (obeys_run law hmake n) fun _ => .pure law ()
    · exact .pure law ()

theorem obeys_notifyAll (ls : List Listener) : Obeys P (notifyAll make ls) := by
  induction ls with
  | nil => exact .pure law ()
  | cons l rest ih => exact .bind law (obeys_notify law hmake l) fun _ => ih

theorem obeys_save (n : Nat) : Obeys P (save make n) :=
  .bind law (.of law (aside_written n).calm) fun d => obeys_notifyAll law hmake d.listeners

omit hmake in
theorem obeys_subscribe (n m : Nat) (name : Text) (actions : List Step) :
    Obeys P (perform make ⟨n, m, .subscribe name actions⟩) := by
  intro w
  rcases perform_subscribe make w n m name actions with ⟨-, hrun⟩ | ⟨d, hd, hrun⟩
  · rw [hrun]
    exact law.still (.refl w)
  · rw [hrun]
    exact law.joined hd rfl rfl rfl

omit hmake in
theorem obeys_unsubscribe (n m number : Nat) :
    Obeys P (perform make ⟨n, m, .unsubscribe number⟩) := by
  intro w
  rcases perform_unsubscribe make w n m number with ⟨-, hrun⟩ | ⟨i, l, d, hs, hd, hrun⟩
  · rw [hrun]
    exact law.still (.refl w)
  · rw [hrun]
    exact law.left hs hd

omit hmake in
theorem obeys_assign (n m : Nat) (name : Text) (value : Value) :
    Obeys P (perform make ⟨n, m, .assign name value⟩) := by
  intro w
  show P w (w.after (aboutMode makeNone m (.assign name value))) []
  rw [World.after, aboutMode, controller_bind]
  cases w.controllers[m]? with
  | none => exact law.still (.refl w)
  | some c =>
    simp only
    split
    · exact law.adjust fun _ => ⟨rfl, rfl, rfl, rfl, rfl⟩
    · exact law.still (.refl w)
    · exact law.still (.refl w)
    · exact law.still (.refl w)

theorem obeys_perform (s : Step) : Obeys P (perform make s) := by
  obtain ⟨document, controller, request⟩ := s
  cases request with
  | save => exact .bind law (obeys_save law hmake document) fun _ => .pure law Answer.done
  | subscribe name actions => exact obeys_subscribe law document controller name actions
  | unsubscribe number => exact obeys_unsubscribe law document controller number
  | enable => exact .bind law (obeys_enable law hmake controller) fun _ => .pure law Answer.done
  | disable => exact .bind law (obeys_disable law controller) fun _ => .pure law Answer.done
  | toggle =>
    exact .bind law (obeys_toggle law hmake controller) fun on => .pure law (Answer.mode on)
  | run => exact .bind law (obeys_run law hmake controller) fun o => .pure law (Answer.outcome o)
  | assign name value => exact obeys_assign law document controller name value
  | lineCount | lines | lineEnd _ | lineEnds | annotated _ | insert _ _ | delete _ _ | setText _
  | setFile _ => exact .of law (hushed_aboutText document _).calm
  | decorate _ _ _ | remove _ | handles => exact .of law (hushed_aboutDecorations document _).calm
  | subscriptions => exact .of law (Aside.get.bind fun _ => .pure _).calm
  | render _ _ _ | install _ | clear | forget | replace _ _ _ | annotations _ | size =>
    exact .of law (calm_aboutAnnotations document _)
  | putFile _ _ | dropFile _ | fileText _ | setProgram _ =>
    exact .of law (aside_aboutFiles _).calm
  | state => exact .of law ((Aside.controller controller).bind fun _ => .pure _).calm
  | lastOutcome => exact .of law ((Aside.controller controller).bind fun _ => .pure _).calm
  | unfit _ => exact .of law (Aside.throw _).calm

end

end Watched

/-! ## Laws hold -/

section
variable {P : World → World → List Event → Prop}

/-- A law holds of every step. -/
theorem Law.step (law : Law P) (depth : Nat) (s : Step) :
    Watched.Obeys P (Watched.step depth s) := by
  induction depth generalizing s with
  | zero => exact .of law (Aside.throw _).calm
  | succ depth ih => exact Watched.obeys_perform law ih s

/-- A law holds of every step of the host. -/
theorem Law.advance (law : Law P) (s : Step) (w : World) :
    P w (advance s w).2 (Watched.step deepest s w.resumed).2 := by
  have hresumed : Alike w w.resumed := ⟨rfl, rfl, rfl, rfl, rfl, rfl⟩
  obtain ⟨-, more, hadvance⟩ := advance_eq s w
  have hreported : Alike (w.resumed.after (Session.step deepest s)) (Session.advance s w).2 := by
    rw [hadvance]
    exact ⟨rfl, rfl, rfl, rfl, rfl, rfl⟩
  have hstep := law.step deepest s w.resumed
  rw [Watched.step_eq] at hstep
  have h := law.trans (law.still hresumed.still) (law.trans hstep (law.still hreported.still))
  simpa using h

/-- A law holds of all that happens while a host makes its steps. -/
theorem Law.afterAll (law : Law P) (steps : List Step) (w : World) :
    P w (w.afterAll steps) (history steps w) := by
  induction steps generalizing w with
  | nil => exact law.still (.refl w)
  | cons s rest ih => exact law.trans (law.advance s w) (ih (Session.advance s w).2)

end

end Marginalia.Session

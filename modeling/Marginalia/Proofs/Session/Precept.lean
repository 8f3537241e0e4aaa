import Marginalia.Proofs.Session.Heard
import Marginalia.Proofs.Session.Law

/-!
# Precepts of sessions

What a law is to a watched session, a *precept* is to a session with a host that answers.  It says
more of single things: what a store comes to keep is noted, and it is told from everything else that
becomes of the desk.  While a run is in progress anything may happen, before its batch is placed and
after, so a precept passes from what happens during a run to the run as a whole.

`Precept.hearAll` says that a precept holds of everything that happens in a session, whatever the
host does when it is told something, and whether it goes on after a step that has failed or not.
`Law.precept` makes a precept of a law.
-/

namespace Marginalia.Session

/-- Two controllers that may differ in their settings, in the runs to come and in the latest
outcome. -/
structure SameDuty (c c' : Controller) : Prop where
  document : c'.document = c.document
  store : c'.store = c.store
  on : c'.on = c.on
  subscribed : c'.subscribed = c.subscribed
  running : c'.running = c.running

/-- A run of a controller that is bound to a store and to a document is in progress. -/
def Engaged (n s i : Nat) (w : World) : Prop :=
  ∃ c, w.controllers[n]? = some c ∧ c.running = true ∧ c.store = s ∧ c.document = i

/-- What holds of each single thing that can happen, and passes to runs and to sequences. -/
structure Precept (P : World → World → List Note → Prop) : Prop where
  quiet : ∀ {w w'}, Quiet w w' → P w w' []
  trans : ∀ {w₁ w₂ w₃ notes notes'}, P w₁ w₂ notes → P w₂ w₃ notes' → P w₁ w₃ (notes ++ notes')
  adjust : ∀ {w : World} {n : Nat} {change : Controller → Controller},
    (∀ c, SameDuty c (change c)) →
    P w { w with controllers := w.controllers.modify n change } []
  dropped : ∀ {w : World} {n c}, w.controllers[n]? = some c → c.running = true →
    P w w [.event (.dropped n)]
  run : ∀ {w w' : World} {n c notes answered}, w.controllers[n]? = some c → c.running = false →
    P (w.busy n) w' notes →
    P w (w'.idle n) (.event (.began n) :: notes ++ [.event (.ended n answered)])
  switchedOn : ∀ {w : World} {n c}, w.controllers[n]? = some c → c.on = false →
    P w (w.switchedOn n c) [.event (.switched n true)]
  switchedOff : ∀ {w : World} {n c}, w.controllers[n]? = some c →
    P w ((w.switchedOff n c).after (clearStore c.store c.document)) [.event (.switched n false)]
  joined : ∀ {w : World} {i : Nat} {d name} (callbacks), (w.documents : List Document)[i]? = some d →
    P w
      { w with
        documents := List.set w.documents i (d.subscribe (.callback name))
        callbacks
        subscriptions := w.subscriptions ++ [(i, .callback name)] }
      [.event (.joined i name)]
  left : ∀ {w : World} {k i : Nat} {l d}, w.subscriptions[k]? = some (i, l) →
    (w.documents : List Document)[i]? = some d →
    P w { w with documents := List.set w.documents i (d.unsubscribe l) } [.event (.left i l)]
  cleared : ∀ (w : World) (s i : Nat), P w (w.after (clearStore s i)) []
  placed : ∀ {w : World} {runner : Option Nat} {s i : Nat} {st : Store} {d : Document} {batch},
    w.stores[s]? = some st → (w.documents : List Document)[i]? = some d →
    st.annotations d.id = [] → (w.desk.Sound → ∀ a ∈ batch, w.documents.Numbered a.mark) →
    (∀ n, runner = some n → Engaged n s i w) →
    P w { w with stores := w.stores.set s (st.keep d.id batch) } [.placed runner s i batch]

/-- A law is a precept about the events, if outcomes do not matter to it. -/
theorem Law.precept {P : World → World → List Event → Prop} (law : Law P)
    (hadjust : ∀ {w : World} {n : Nat} {change : Controller → Controller},
      (∀ c, SameDuty c (change c)) →
      P w { w with controllers := w.controllers.modify n change } []) :
    Precept fun w w' notes => P w w' (eventsOf notes) where
  quiet h := law.still h.toStill
  trans h h' := by
    rw [eventsOf_append]
    exact law.trans h h'
  adjust := hadjust
  dropped := law.dropped
  run hc hidle h := by
    simpa using law.run hc hidle h (.of_still (.refl _))
  switchedOn := law.switchedOn
  switchedOff hc := law.trans (law.switchedOff hc) (law.still (calm_clearStore _ _ _))
  joined _ hd := law.joined hd rfl rfl rfl
  left := law.left
  cleared w s i := law.still (calm_clearStore s i w)
  placed _ _ _ _ _ := law.still ⟨rfl, .refl _, rfl⟩

/-- Two precepts at once. -/
theorem Precept.and {P Q : World → World → List Note → Prop} (hP : Precept P) (hQ : Precept Q) :
    Precept fun w w' notes => P w w' notes ∧ Q w w' notes where
  quiet h := ⟨hP.quiet h, hQ.quiet h⟩
  trans h h' := ⟨hP.trans h.1 h'.1, hQ.trans h.2 h'.2⟩
  adjust h := ⟨hP.adjust h, hQ.adjust h⟩
  dropped hc hrunning := ⟨hP.dropped hc hrunning, hQ.dropped hc hrunning⟩
  run hc hidle h := ⟨hP.run hc hidle h.1, hQ.run hc hidle h.2⟩
  switchedOn hc hon := ⟨hP.switchedOn hc hon, hQ.switchedOn hc hon⟩
  switchedOff hc := ⟨hP.switchedOff hc, hQ.switchedOff hc⟩
  joined callbacks hd := ⟨hP.joined callbacks hd, hQ.joined callbacks hd⟩
  left hs hd := ⟨hP.left hs hd, hQ.left hs hd⟩
  cleared w s i := ⟨hP.cleared w s i, hQ.cleared w s i⟩
  placed hs hd hnone hbatch hrunner :=
    ⟨hP.placed hs hd hnone hbatch hrunner, hQ.placed hs hd hnone hbatch hrunner⟩

/-! ## Runs in progress -/

namespace Engaged
variable {n s i : Nat} {w w' : World}

theorem of_controllers (h : Engaged n s i w) (hc : w'.controllers = w.controllers) :
    Engaged n s i w' := by
  unfold Engaged
  rw [hc]
  exact h

theorem of_modify (h : Engaged n s i w) {m : Nat} {change : Controller → Controller}
    (hc : w'.controllers = w.controllers.modify m change)
    (hchange : ∀ c, (change c).running = c.running ∧ (change c).store = c.store ∧
      (change c).document = c.document) : Engaged n s i w' := by
  obtain ⟨c, hcn, hrunning, hs, hi⟩ := h
  obtain ⟨hr, hst, hd⟩ := hchange c
  refine ⟨if m = n then change c else c, ?_, ?_⟩
  · rw [hc, List.getElem?_modify, hcn]
    rfl
  · split
    · exact ⟨hr.trans hrunning, hst.trans hs, hd.trans hi⟩
    · exact ⟨hrunning, hs, hi⟩

end Engaged

/-- Whatever happens, runs in progress stay in progress. -/
theorem precept_engaged :
    Precept fun w w' _ => ∀ n s i, Engaged n s i w → Engaged n s i w' where
  quiet h _ _ _ hn := hn.of_controllers h.controllers
  trans h h' n s i hn := h' n s i (h n s i hn)
  adjust h _ _ _ hn :=
    hn.of_modify rfl fun c => ⟨(h c).running, (h c).store, (h c).document⟩
  dropped _ _ _ _ _ hn := hn
  run := by
    intro w w' n c notes answered hc hidle h m s i hm
    have hne : n ≠ m := by
      rintro rfl
      obtain ⟨c', hc', hrunning, -⟩ := hm
      cases hc.symm.trans hc'
      simp [hidle] at hrunning
    obtain ⟨c', hc', hrest⟩ := hm
    obtain ⟨c'', hc'', hrest'⟩ := h m s i ⟨c', (busy_of_ne hne).trans hc', hrest⟩
    exact ⟨c'', (idle_of_ne hne).trans hc'', hrest'⟩
  switchedOn _ _ _ _ _ hn := hn.of_modify rfl fun _ => ⟨rfl, rfl, rfl⟩
  switchedOff := by
    intro w n c hc m s i hm
    have hoff : Engaged m s i (w.switchedOff n c) := hm.of_modify rfl fun _ => ⟨rfl, rfl, rfl⟩
    exact hoff.of_controllers (calm_clearStore c.store c.document _).controllers
  joined _ _ _ _ _ hn := hn
  left _ _ _ _ _ hn := hn
  cleared w s i _ _ _ hn := hn.of_controllers (calm_clearStore s i w).controllers
  placed _ _ _ _ _ _ _ _ hn := hn

/-! ## Actions -/

/-- What happens when annotations are kept for a document that has none. -/
theorem run_installIn_cases (s i : Nat) (batch : List Annotation) (w : World) :
    (∃ fault, (installIn s i batch).run w = (.error fault, w)) ∨
      ∃ st d, w.stores[s]? = some st ∧ (w.documents : List Document)[i]? = some d ∧
        st.annotations d.id = [] ∧ (installIn s i batch).run w =
          (.ok (), { w with stores := w.stores.set s (st.keep d.id batch) }) := by
  rw [installIn, store_bind]
  cases hs : w.stores[s]? with
  | none => exact .inl ⟨_, rfl⟩
  | some st =>
    simp only [document_bind]
    cases hd : (w.documents : List Document)[i]? with
    | none => exact .inl ⟨_, rfl⟩
    | some d =>
      simp only [orFault_bind, Store.install_eq]
      cases hnone : st.annotations d.id with
      | nil => exact .inr ⟨st, d, rfl, rfl, hnone, rfl⟩
      | cons a rest => exact .inl ⟨_, rfl⟩

namespace Heard
variable {α β : Type} {P : World → World → List Note → Prop}

theorem bind_eq (m : Heard α) (k : α → Heard β) (w : World) :
    (m >>= k) w =
      match m w with
      | ((.ok a, w'), notes) => ((k a w').1, notes ++ (k a w').2)
      | ((.error fault, w'), notes) => ((.error fault, w'), notes) := rfl

/-- What follows an action of which nothing is noted. -/
theorem of_bind_ok {act : Action α} {a : α} {w w' : World} (h : act.run w = (.ok a, w'))
    (k : α → Heard β) : (of act >>= k) w = k a w' := by
  rw [bind_eq, of, h]
  rfl

theorem of_bind_error {act : Action α} {fault : Fault} {w w' : World}
    (h : act.run w = (.error fault, w')) (k : α → Heard β) :
    (of act >>= k) w = ((.error fault, w'), []) := by
  rw [bind_eq, of, h]

/-- A relation holds of an action in one world. -/
def ObeysAt (P : World → World → List Note → Prop) (w : World) (m : Heard α) : Prop :=
  P w (m w).1.2 (m w).2

/-- A relation holds of an action. -/
def Obeys (P : World → World → List Note → Prop) (m : Heard α) : Prop :=
  ∀ w, ObeysAt P w m

theorem ObeysAt.eq {m : Heard α} {a : α} {w w' : World} {notes : List Note} (h : ObeysAt P w m)
    (hm : m w = ((.ok a, w'), notes)) : P w w' notes := by
  unfold ObeysAt at h
  rw [hm] at h
  exact h

/-- What comes after an action may go by the world that it leaves. -/
theorem ObeysAt.bind (precept : Precept P) {m : Heard α} {k : α → Heard β} {w : World}
    (h : ObeysAt P w m)
    (hk : ∀ a w' notes, m w = ((.ok a, w'), notes) → ObeysAt P w' (k a)) :
    ObeysAt P w (m >>= k) := by
  unfold ObeysAt at h hk ⊢
  rw [bind_eq]
  cases hm : m w with
  | mk result notes =>
    obtain ⟨answer, w'⟩ := result
    rw [hm] at h
    cases answer with
    | ok a => exact precept.trans h (hk a w' notes hm)
    | error fault => exact h

namespace Obeys

theorem bind (precept : Precept P) {m : Heard α} {k : α → Heard β} (h : Obeys P m)
    (hk : ∀ a, Obeys P (k a)) : Obeys P (m >>= k) :=
  fun w => ObeysAt.bind precept (h w) fun a w' _ _ => hk a w'

theorem of (precept : Precept P) {act : Action α} (h : Hushed act) : Obeys P (of act) :=
  fun w => precept.quiet (h w)

theorem pure (precept : Precept P) (a : α) : Obeys P (pure a : Heard α) :=
  fun w => precept.quiet (.refl w)

theorem controller_bind (precept : Precept P) {n : Nat} {k : Controller → Heard β}
    (hk : ∀ (w : World) (c : Controller), w.controllers[n]? = some c → ObeysAt P w (k c)) :
    Obeys P (Heard.of (controller n) >>= k) := by
  intro w
  unfold ObeysAt
  cases hc : w.controllers[n]? with
  | none =>
    have hrun : (controller n).run w = (.error .nothing, w) := by rw [run_controller, hc]
    rw [of_bind_error hrun]
    exact precept.quiet (.refl w)
  | some c =>
    have hrun : (controller n).run w = (.ok c, w) := by rw [run_controller, hc]
    rw [of_bind_ok hrun]
    exact hk w c hc

theorem attempt {m : Heard Unit} (h : Obeys P m) (conduct : Conduct) :
    Obeys P (attempt conduct m) := by
  intro w
  have hw := h w
  unfold ObeysAt at hw ⊢
  unfold Heard.attempt
  cases hm : m w with
  | mk result notes =>
    obtain ⟨answer, w'⟩ := result
    rw [hm] at hw
    cases answer with
    | ok a => exact hw
    | error fault => exact hw

end Obeys

/-! ### Batches -/

section
variable (precept : Precept P)

include precept

theorem obeys_adjust {n : Nat} {change : Controller → Controller}
    (h : ∀ c, SameDuty c (change c)) : Obeys P (of (changeController n change)) :=
  fun _ => precept.adjust h

theorem obeys_install {runner : Option Nat} {s i : Nat} {batch : List Annotation} {w : World}
    (hbatch : w.desk.Sound → ∀ a ∈ batch, w.documents.Numbered a.mark)
    (hrunner : ∀ n, runner = some n → Engaged n s i w) :
    ObeysAt P w (install runner s i batch) := by
  unfold ObeysAt install
  rcases run_installIn_cases s i batch w with ⟨fault, hrun⟩ | ⟨st, d, hs, hd, hnone, hrun⟩
  · rw [of_bind_error hrun]
    exact precept.quiet (.refl w)
  · rw [of_bind_ok hrun]
    exact precept.placed hs hd hnone hbatch hrunner

/-- A batch in the place of another one: the old one is taken off, the new one is shown, and then
it is kept. -/
theorem obeys_replace {runner : Option Nat} {s i : Nat} {render : Action (List Annotation)}
    (hrender : Renders (.free []) i render) {w : World}
    (hrunner : ∀ n, runner = some n → Engaged n s i w) :
    ObeysAt P w (replace runner s i render) := by
  refine ObeysAt.bind precept (precept.cleared w s i) fun _ w₁ _ hclear => ?_
  have hcontrollers : w₁.controllers = w.controllers := by
    have hw₁ : w.after (clearStore s i) = w₁ := congrArg (fun r => r.1.2) hclear
    rw [← hw₁]
    exact (calm_clearStore s i w).controllers
  refine ObeysAt.bind precept (precept.quiet (hrender.hushed w₁)) fun batch w₂ _ hrun => ?_
  have hrun : render.run w₁ = (.ok batch, w₂) := congrArg Prod.fst hrun
  have hquiet : Quiet w₁ w₂ := by
    have hw₂ : w₁.after render = w₂ := congrArg Prod.snd hrun
    rw [← hw₂]
    exact hrender.hushed w₁
  refine ObeysAt.bind precept (obeys_install precept ?_ ?_) fun _ w₃ _ _ =>
    Obeys.pure precept batch w₃
  · intro _ a ha
    rcases hrender w₁ with ⟨fault, herror⟩ | ⟨docs, batch', hshows, hok | ⟨-, fault, herror⟩⟩
    · cases hrun.symm.trans herror
    · cases hrun.symm.trans hok
      exact hshows.numbered ha
    · cases hrun.symm.trans herror
  · intro n hn
    exact (hrunner n hn).of_controllers (hquiet.controllers.trans hcontrollers)

end

/-! ### Runs -/

section
variable {conduct : Conduct} {make : Step → Heard Answer} (precept : Precept P)
  (hengaged : ∀ {w w' notes}, P w w' notes → ∀ n s i, Engaged n s i w → Engaged n s i w')
  (hmake : ∀ s, Obeys P (make s))

include precept hmake

theorem obeys_makeAll (entry : Text → Answer → Entry) (steps : List Step) :
    Obeys P (makeAll conduct make entry steps) := by
  induction steps with
  | nil => exact .pure precept ()
  | cons s rest ih =>
    refine .bind precept (Obeys.attempt ?_ conduct) fun _ => ih
    exact .bind precept (hmake s) fun _ => .of precept (Aside.record _).hushed

theorem obeys_say (n : Nat) (voice : Voice) (message : Console.Level × Text) :
    Obeys P (say conduct make n voice message) :=
  .bind precept (.of precept (Aside.say _ _ _).hushed) fun _ =>
    .bind precept (.of precept Aside.get.hushed) fun _ =>
      obeys_makeAll precept hmake .action _

theorem obeys_sayAll (n : Nat) (voice : Voice) (messages : List (Console.Level × Text)) :
    Obeys P (sayAll conduct make n voice messages) := by
  induction messages with
  | nil => exact .pure precept ()
  | cons message rest ih => exact .bind precept (obeys_say precept hmake n voice message) fun _ => ih

theorem obeys_announce (n : Nat) (c : Controller) (file : Path) :
    Obeys P (announce conduct make n c file) :=
  .bind precept (.of precept Aside.get.hushed) fun _ =>
    .bind precept (.of precept (Aside.orFault _ _).hushed) fun _ =>
      .bind precept (obeys_say precept hmake n _ _) fun _ => .pure precept _

theorem obeys_outcomeOf (n : Nat) (unitId : Text) :
    Obeys P (outcomeOf conduct make n unitId) := by
  refine .bind precept (.of precept (Aside.controller n).hushed) fun c => ?_
  cases c.script with
  | nil => exact .of precept (Aside.compilerOutcome c unitId).hushed
  | cons run rest =>
    refine .bind precept (obeys_adjust precept fun _ => ⟨rfl, rfl, rfl, rfl, rfl⟩) fun _ => ?_
    refine .bind precept (.of precept (Aside.record _).hushed) fun _ => ?_
    refine .bind precept (obeys_makeAll precept hmake .during run.during) fun _ => ?_
    exact .of precept (Watched.aside_alone run unitId).hushed

theorem obeys_conclude {n : Nat} {c : Controller} {w : World}
    (hw : Engaged n c.store c.document w) (file : Path) (o : Outcome) :
    ObeysAt P w (conclude conduct make n c file o) := by
  have hreplace : ObeysAt P w (replace (some n) c.store c.document
      (renderIn c.document c.style o.diagnostics)) := by
    refine obeys_replace precept (renders_renderIn _ _ _) fun m hm => ?_
    cases hm
    exact hw
  refine ObeysAt.bind precept hreplace fun _ w' _ _ => ?_
  refine Obeys.bind precept (obeys_adjust precept ?_) (fun _ => ?_) w'
  · exact fun _ => ⟨rfl, rfl, rfl, rfl, rfl⟩
  · refine .bind precept (.of precept (Aside.controller n).hushed) fun c' => ?_
    exact .bind precept (obeys_sayAll precept hmake n _ _) fun _ => .pure precept (some o)

include hengaged

/-- A run may be entered at any time, and is in progress up to its end. -/
theorem obeys_pipeline {n : Nat} {c : Controller} {w : World} (hc : w.controllers[n]? = some c)
    (hrunning : c.running = true) : ObeysAt P w (pipeline conduct make n) := by
  have hrun : (controller n).run w = (.ok c, w) := by rw [run_controller, hc]
  have hw : Engaged n c.store c.document w := ⟨c, hc, hrunning, rfl, rfl⟩
  unfold ObeysAt
  rw [pipeline, of_bind_ok hrun]
  have hdocument : Obeys P (of (document c.document)) := .of precept (Aside.document _).hushed
  refine ObeysAt.bind precept (hdocument w) fun d w₁ _ h₁ => ?_
  have hw₁ := hengaged ((hdocument w).eq h₁) _ _ _ hw
  cases sourceFile d with
  | error unfit =>
    exact Obeys.bind precept (obeys_say precept hmake n _ _) (fun _ => .pure precept none) w₁
  | ok file =>
    have hannounce : Obeys P (announce conduct make n c file) :=
      obeys_announce precept hmake n c file
    refine ObeysAt.bind precept (hannounce w₁) fun unitId w₂ _ h₂ => ?_
    have hw₂ := hengaged ((hannounce w₁).eq h₂) _ _ _ hw₁
    have houtcome : Obeys P (outcomeOf conduct make n unitId) :=
      obeys_outcomeOf precept hmake n unitId
    refine ObeysAt.bind precept (houtcome w₂) fun o w₃ _ h₃ => ?_
    have hw₃ := hengaged ((houtcome w₂).eq h₃) _ _ _ hw₂
    exact obeys_conclude precept hmake hw₃ file o

theorem obeys_run (n : Nat) : Obeys P (run conduct make n) := by
  refine .controller_bind precept fun w c hc => ?_
  cases hrunning : c.running with
  | true => exact precept.dropped hc hrunning
  | false =>
    exact precept.run hc hrunning (obeys_pipeline precept hengaged hmake (busy_self hc) rfl)

/-! ### Modes and saves -/

theorem obeys_enable (n : Nat) : Obeys P (enable conduct make n) := by
  refine .controller_bind precept fun w c hc => ?_
  cases hon : c.on with
  | true => exact precept.quiet (.refl w)
  | false =>
    obtain ⟨answer, hrun⟩ := run_switchOn w n c
    have hrest : Obeys P (run conduct make n >>= fun _ => pure ()) :=
      .bind precept (obeys_run precept hengaged hmake n) fun _ => .pure precept ()
    let m : Heard Unit := of (switchOn n c) >>= fun _ => run conduct make n >>= fun _ => pure ()
    have hm : P w (m w).1.2 (.event (.switched n true) :: (m w).2) := by
      cases answer with
      | error fault =>
        simp only [m, of_bind_error hrun]
        exact precept.switchedOn hc hon
      | ok a =>
        simp only [m, of_bind_ok hrun]
        exact precept.trans (precept.switchedOn hc hon) (hrest _)
    exact hm

omit hmake hengaged in
theorem obeys_disable (n : Nat) : Obeys P (disable n) := by
  intro w
  unfold ObeysAt disable ofWatched Watched.disable
  cases hc : w.controllers[n]? with
  | none =>
    have hrun : (controller n).run w = (.error .nothing, w) := by rw [run_controller, hc]
    rw [Watched.of_bind_error hrun]
    exact precept.quiet (.refl w)
  | some c =>
    have hrun : (controller n).run w = (.ok c, w) := by rw [run_controller, hc]
    rw [Watched.of_bind_ok hrun]
    rcases run_switchOff w n c with hoff | hoff
    · rw [Watched.of_bind_error hoff]
      exact precept.quiet (.refl w)
    · rw [Watched.of_bind_ok hoff]
      exact precept.switchedOff hc

theorem obeys_toggle (n : Nat) : Obeys P (toggle conduct make n) := by
  refine .bind precept (.of precept (Aside.controller n).hushed) fun c => ?_
  have hafter : Obeys P (of (controller n) >>= fun c => pure c.on) :=
    .bind precept (.of precept (Aside.controller n).hushed) fun c => .pure precept c.on
  split
  · exact .bind precept (obeys_disable precept n) fun _ => hafter
  · exact .bind precept (obeys_enable precept hengaged hmake n) fun _ => hafter

theorem obeys_notify (l : Listener) : Obeys P (notify conduct make l) := by
  cases l with
  | callback name =>
    have htold : Aside (told name) :=
      (Aside.record _).bind fun _ => Aside.get.bind fun _ => .pure _
    exact .bind precept (.of precept htold.hushed) fun steps =>
      obeys_makeAll precept hmake .action steps
  | controller n =>
    refine .bind precept (.of precept (Aside.controller n).hushed) fun c => ?_
    split
    · exact .bind precept (obeys_run precept hengaged hmake n) fun _ => .pure precept ()
    · exact .pure precept ()

theorem obeys_notifyAll (ls : List Listener) : Obeys P (notifyAll conduct make ls) := by
  induction ls with
  | nil => exact .pure precept ()
  | cons l rest ih => exact .bind precept (obeys_notify precept hengaged hmake l) fun _ => ih

theorem obeys_save (n : Nat) : Obeys P (save conduct make n) :=
  .bind precept (.of precept (aside_written n).hushed) fun d =>
    obeys_notifyAll precept hengaged hmake d.listeners

/-! ### Requests -/

omit hmake hengaged in
theorem obeys_subscribe (n m : Nat) (name : Text) (actions : List Step) :
    Obeys P (perform conduct make ⟨n, m, .subscribe name actions⟩) := by
  intro w
  show ObeysAt P w (ofWatched (Watched.perform watchNone ⟨n, m, .subscribe name actions⟩))
  rw [ObeysAt, ofWatched]
  rcases Watched.perform_subscribe watchNone w n m name actions with ⟨-, hrun⟩ | ⟨d, hd, hrun⟩
  · rw [hrun]
    exact precept.quiet (.refl w)
  · rw [hrun]
    exact precept.joined _ hd

omit hmake hengaged in
theorem obeys_unsubscribe (n m number : Nat) :
    Obeys P (perform conduct make ⟨n, m, .unsubscribe number⟩) := by
  intro w
  show ObeysAt P w (ofWatched (Watched.perform watchNone ⟨n, m, .unsubscribe number⟩))
  rw [ObeysAt, ofWatched]
  rcases Watched.perform_unsubscribe watchNone w n m number with
    ⟨-, hrun⟩ | ⟨i, l, d, hs, hd, hrun⟩
  · rw [hrun]
    exact precept.quiet (.refl w)
  · rw [hrun]
    exact precept.left hs hd

omit hmake hengaged in
theorem obeys_assign (n m : Nat) (name : Text) (value : Value) :
    Obeys P (perform conduct make ⟨n, m, .assign name value⟩) := by
  intro w
  show P w (w.after (aboutMode makeNone m (.assign name value))) []
  rw [World.after, aboutMode, Session.controller_bind]
  cases w.controllers[m]? with
  | none => exact precept.quiet (.refl w)
  | some c =>
    simp only
    split
    · exact precept.adjust fun _ => ⟨rfl, rfl, rfl, rfl, rfl⟩
    · exact precept.quiet (.refl w)
    · exact precept.quiet (.refl w)
    · exact precept.quiet (.refl w)

omit hmake hengaged in
/-- A request of which nothing is noted. -/
theorem obeys_aside {act : Action Answer} (h : Hushed act) : Obeys P (ofWatched (.of act)) :=
  fun w => precept.quiet (h w)

omit hmake hengaged in
theorem obeys_clear (n : Nat) :
    Obeys P (ofWatched (.of (clearStore 0 n >>= fun _ => pure Answer.done))) := by
  intro w
  show P w (w.after (clearStore 0 n >>= fun _ => pure Answer.done)) []
  exact after_bind_of (P := fun w' => P w w' []) (precept.cleared w 0 n) fun _ =>
    precept.cleared w 0 n

omit hmake hengaged in
/-- What is kept under a name has been numbered, if the desk is sound. -/
theorem obeys_installSlot (n m : Nat) (slot : Text) :
    Obeys P (perform conduct make ⟨n, m, .install slot⟩) := by
  intro w
  have hget : (get : Action World).run w = (.ok w, w) := rfl
  have hperform : perform conduct make ⟨n, m, .install slot⟩ = (of get >>= fun w =>
      install none 0 n ((w.slots.lookup slot).getD []) >>= fun _ => pure .done) := rfl
  unfold ObeysAt
  rw [hperform, of_bind_ok hget]
  refine ObeysAt.bind precept (obeys_install precept (fun hsound a ha => ?_) (fun _ h => ?_))
    fun _ w' _ _ => Obeys.pure precept Answer.done w'
  · cases hslot : w.slots.lookup slot with
    | none => simp [hslot] at ha
    | some batch =>
      rw [hslot] at ha
      exact hsound.slots _ (mem_of_lookup hslot) a ha
  · cases h

theorem obeys_perform (s : Step) : Obeys P (perform conduct make s) := by
  obtain ⟨document, controller, request⟩ := s
  cases request with
  | save =>
    exact .bind precept (obeys_save precept hengaged hmake document) fun _ =>
      .pure precept Answer.done
  | subscribe name actions => exact obeys_subscribe precept document controller name actions
  | unsubscribe number => exact obeys_unsubscribe precept document controller number
  | enable =>
    exact .bind precept (obeys_enable precept hengaged hmake controller) fun _ =>
      .pure precept Answer.done
  | disable =>
    exact .bind precept (obeys_disable precept controller) fun _ => .pure precept Answer.done
  | toggle =>
    exact .bind precept (obeys_toggle precept hengaged hmake controller) fun on =>
      .pure precept (Answer.mode on)
  | run =>
    exact .bind precept (obeys_run precept hengaged hmake controller) fun o =>
      .pure precept (Answer.outcome o)
  | assign name value => exact obeys_assign precept document controller name value
  | install slot => exact obeys_installSlot precept document controller slot
  | replace tables style failure =>
    intro w
    have hrenders : Renders (.free []) document (rendered document tables style failure) :=
      renders_rendered tables style fun _ => trivial
    have hreplace : ObeysAt P w (replace none 0 document (rendered document tables style failure)) :=
      obeys_replace precept hrenders fun _ h => nomatch h
    exact ObeysAt.bind precept hreplace fun batch w' _ _ =>
      Obeys.bind precept (.of precept (Aside.showAll batch).hushed)
        (fun shown => .pure precept (Answer.annotations shown)) w'
  | clear | forget => exact obeys_clear precept document
  | lineCount | lines | lineEnd _ | lineEnds | annotated _ | insert _ _ | delete _ _ | setText _
  | setFile _ => exact obeys_aside precept (hushed_aboutText document _)
  | decorate _ _ _ | remove _ | handles =>
    exact obeys_aside precept (hushed_aboutDecorations document _)
  | subscriptions => exact obeys_aside precept (Aside.get.bind fun _ => .pure _).hushed
  | render tables style slot => exact obeys_aside precept (hushed_render document tables style slot)
  | annotations from? => exact obeys_aside precept (aside_annotations document from?).hushed
  | size => exact obeys_aside precept ((Aside.store 0).bind fun _ => .pure _).hushed
  | putFile _ _ | dropFile _ | fileText _ | setProgram _ =>
    exact obeys_aside precept (aside_aboutFiles _).hushed
  | state | lastOutcome =>
    exact obeys_aside precept ((Aside.controller controller).bind fun _ => .pure _).hushed
  | unfit _ => exact obeys_aside precept (Aside.throw _).hushed

end

end Heard

/-! ## Sessions -/

section
variable {P : World → World → List Note → Prop}

/-- A precept holds of every step, however deep steps lie within it. -/
theorem Precept.step (precept : Precept P) (conduct : Conduct) (depth : Nat) (s : Step) :
    Heard.Obeys P (Heard.step conduct depth s) := by
  have hboth := precept.and precept_engaged
  have h : Heard.Obeys (fun w w' notes => P w w' notes ∧
      ∀ n s i, Engaged n s i w → Engaged n s i w') (Heard.step conduct depth s) := by
    induction depth generalizing s with
    | zero => exact .of hboth (Aside.throw _).hushed
    | succ depth ih => exact Heard.obeys_perform hboth And.right ih s
  exact fun w => (h w).1

/-- A precept holds of every step of the host. -/
theorem Precept.hear (precept : Precept P) (conduct : Conduct) (s : Step) (w : World) :
    P w (hear conduct s w).1 (hear conduct s w).2 := by
  obtain ⟨more, hview⟩ := after_view s.document (Heard.step conduct deepest s w.resumed).1.2
  have hresumed : Alike w w.resumed := ⟨rfl, rfl, rfl, rfl, rfl, rfl⟩
  have hseen : Alike (Heard.step conduct deepest s w.resumed).1.2 (Session.hear conduct s w).1 := by
    show Alike _ (((Heard.step conduct deepest s w.resumed).1.2).after (view s.document))
    rw [hview]
    exact ⟨rfl, rfl, rfl, rfl, rfl, rfl⟩
  have h := precept.trans (precept.quiet (.of_alike hresumed))
    (precept.trans (precept.step conduct deepest s w.resumed) (precept.quiet (.of_alike hseen)))
  rw [List.nil_append, List.append_nil] at h
  exact h

/-- A precept holds of all that happens while a host makes its steps. -/
theorem Precept.hearAll (precept : Precept P) (conduct : Conduct) (steps : List Step) (w : World) :
    P w (hearAll conduct steps w).1 (hearAll conduct steps w).2 := by
  induction steps generalizing w with
  | nil => exact precept.quiet (.refl w)
  | cons s rest ih => exact precept.trans (precept.hear conduct s w) (ih _)

end

end Marginalia.Session

import Marginalia.Proofs.Session.Law

/-!
# The guard of a run

While a run of a controller is in progress, another one of the same controller is dropped: it
changes nothing and answers with no outcome, wherever it is asked for.  `law_guarded` is what makes
this hold at any depth: whatever happens, runs in progress stay in progress, so none of them begins
again.  When the run ends, by whichever way, the controller is idle.

A run that is not fit for its document changes nothing, and neither does a runner that fails, but
for what others do about the saves it asks for.  `Aftermath` collects these.
-/

namespace Marginalia.Session

/-! ## Runs in progress stay in progress -/

/-- The controller of which a run begins or ends. -/
def Event.runner? : Event → Option Nat
  | .began n | .ended n _ => some n
  | _ => none

/-- Runs in progress are still in progress, have no outcome yet and did not begin again. -/
def Guarded (w w' : World) (es : List Event) : Prop :=
  ∀ n c, w.controllers[n]? = some c → ∃ c', w'.controllers[n]? = some c' ∧
    c'.running = c.running ∧
    (c.running = true → c'.lastOutcome = c.lastOutcome ∧ ∀ e ∈ es, e.runner? ≠ some n)

namespace Guarded
variable {w w' w'' : World} {es es' : List Event}

theorem of_controllers (h : w'.controllers = w.controllers) (hes : ∀ e ∈ es, e.runner? = none) :
    Guarded w w' es := by
  intro n c hc
  exact ⟨c, by rw [h, hc], rfl, fun _ => ⟨rfl, fun e he => by simp [hes e he]⟩⟩

theorem trans (h : Guarded w w' es) (h' : Guarded w' w'' es') : Guarded w w'' (es ++ es') := by
  intro n c hc
  obtain ⟨c', hc', hrunning, hkept⟩ := h n c hc
  obtain ⟨c'', hc'', hrunning', hkept'⟩ := h' n c' hc'
  refine ⟨c'', hc'', hrunning'.trans hrunning, ?_⟩
  intro hrun
  obtain ⟨hlast, hothers⟩ := hkept hrun
  obtain ⟨hlast', hothers'⟩ := hkept' (hrunning.trans hrun)
  refine ⟨hlast'.trans hlast, fun e he => ?_⟩
  rcases List.mem_append.mp he with he | he
  · exact hothers e he
  · exact hothers' e he

/-- A controller may change in what is not about its runs. -/
theorem of_modify {n : Nat} {change : Controller → Controller}
    (hc : w'.controllers = w.controllers.modify n change)
    (h : ∀ c, (change c).running = c.running ∧ (change c).lastOutcome = c.lastOutcome)
    (hes : ∀ e ∈ es, e.runner? = none) : Guarded w w' es := by
  intro m c hm
  refine ⟨if n = m then change c else c, ?_, ?_, ?_⟩
  · rw [hc, List.getElem?_modify, hm]
    rfl
  · split <;> simp [h]
  · intro _
    exact ⟨by split <;> simp [h], fun e he => by simp [hes e he]⟩

end Guarded

theorem law_guarded : Law Guarded where
  still h := .of_controllers h.controllers (by simp)
  trans := .trans
  adjust h := .of_modify rfl (fun c => ⟨(h c).running, (h c).lastOutcome⟩) (by simp)
  dropped _ _ := .of_controllers rfl (by simp [Event.runner?])
  switchedOn _ _ := .of_modify rfl (fun _ => ⟨rfl, rfl⟩) (by simp [Event.runner?])
  switchedOff _ := .of_modify rfl (fun _ => ⟨rfl, rfl⟩) (by simp [Event.runner?])
  joined _ hc _ _ := .of_controllers hc (by simp [Event.runner?])
  left _ _ := .of_controllers rfl (by simp [Event.runner?])
  run := by
    intro w w₂ w₃ n c es answered hc hidle hinner hend m c₁ hc₁
    by_cases hm : n = m
    · -- this one was idle before, so there is nothing to be kept
      subst hm
      cases hc.symm.trans hc₁
      obtain ⟨c₂, hc₂, -⟩ := hinner n _ (busy_self hc)
      obtain ⟨o, hc₃⟩ := hend.self hc₂
      exact ⟨_, idle_self hc₃, hidle.symm, fun hrunning => by simp [hidle] at hrunning⟩
    · obtain ⟨c₂, hc₂, hrunning, hkept⟩ := hinner m c₁ ((busy_of_ne hm).trans hc₁)
      refine ⟨c₂, (idle_of_ne hm).trans ((hend.of_ne hm).trans hc₂), hrunning, ?_⟩
      intro hrun
      obtain ⟨hlast, hothers⟩ := hkept hrun
      refine ⟨hlast, fun e he => ?_⟩
      rcases List.mem_append.mp he with he | he
      · rcases List.mem_cons.mp he with rfl | he
        · simpa [Event.runner?] using hm
        · exact hothers e he
      · cases List.mem_singleton.mp he
        simpa [Event.runner?] using hm

/-! ## Runs that are dropped -/

/-- A run of the controller is in progress. -/
def Running (n : Nat) (w : World) : Prop :=
  ∃ c, w.controllers[n]? = some c ∧ c.running = true

theorem Guarded.running {n : Nat} {w w' : World} {es : List Event} (h : Guarded w w' es)
    (hw : Running n w) : Running n w' := by
  obtain ⟨c, hc, hrunning⟩ := hw
  obtain ⟨c', hc', hsame, -⟩ := h n c hc
  exact ⟨c', hc', hsame.trans hrunning⟩

section
variable {n : Nat} {w : World} (hw : Running n w)

include hw

theorem run_run_of_running (make : Make) : (run make n).run w = (.ok none, w) := by
  obtain ⟨c, hc, hrunning⟩ := hw
  rw [run, controller_bind_some hc, if_pos hrunning]
  rfl

theorem run_notify_of_running (make : Make) :
    (notify make (.controller n)).run w = (.ok (), w) := by
  have hrun := run_run_of_running hw make
  obtain ⟨c, hc, -⟩ := hw
  rw [notify, controller_bind_some hc]
  split
  · rw [run_bind_ok hrun]
    rfl
  · rfl

theorem running_notify (k : Nat) (l : Listener) : Running n (w.after (notify (step k) l)) := by
  have hobeys := Watched.obeys_notify law_guarded (law_guarded.step k) l w
  rw [← Watched.run_act, Watched.act_notify (Watched.act_step k)] at hobeys
  exact hobeys.running hw

theorem running_step (k : Nat) (s : Step) : Running n (w.after (step k s)) := by
  have hobeys := law_guarded.step k s w
  rw [Watched.step_eq] at hobeys
  exact hobeys.running hw

end

/-- While a run is in progress, only the others hear of a save. -/
theorem run_notifyAll_of_running {n : Nat} {w : World} (hw : Running n w) (k : Nat)
    (ls : List Listener) :
    (notifyAll (step k) ls).run w
      = (notifyAll (step k) (ls.filter fun l => l ≠ .controller n)).run w := by
  induction ls generalizing w with
  | nil => rfl
  | cons l rest ih =>
    by_cases hl : l = .controller n
    · subst hl
      have hfilter : ((Listener.controller n :: rest).filter fun l => l ≠ .controller n)
          = rest.filter fun l => l ≠ .controller n := by simp
      rw [hfilter, notifyAll, run_bind_ok (run_notify_of_running hw _)]
      exact ih hw
    · have hfilter : ((l :: rest).filter fun l => l ≠ .controller n)
          = l :: rest.filter fun l => l ≠ .controller n := by simp [hl]
      have hnotify := running_notify hw k l
      unfold World.after at hnotify
      rw [hfilter, notifyAll, notifyAll, run_bind, run_bind]
      cases hrun : (notify (step k) l).run w with
      | mk result w' =>
        rw [hrun] at hnotify
        cases result with
        | ok _ => exact ih hnotify
        | error fault => rfl

/-! ## What a failed runner leaves -/

/-- Two worlds that differ in files, in what happened, and in whether controller `n` runs and what
runs of it are to come. -/
structure Unmoved (n : Nat) (w w' : World) : Prop where
  desk : w'.desk = w.desk
  callbacks : w'.callbacks = w.callbacks
  subscriptions : w'.subscriptions = w.subscriptions
  others : ∀ m, n ≠ m → w'.controllers[m]? = w.controllers[m]?
  self : ∀ c, w.controllers[n]? = some c →
    ∃ script running, w'.controllers[n]? = some { c with script, running }

namespace Unmoved
variable {n : Nat} {w w' w'' : World}

theorem refl (w : World) : Unmoved n w w :=
  ⟨rfl, rfl, rfl, fun _ _ => rfl, fun c hc => ⟨c.script, c.running, hc⟩⟩

theorem trans (h : Unmoved n w w') (h' : Unmoved n w' w'') : Unmoved n w w'' := by
  refine ⟨h'.desk.trans h.desk, h'.callbacks.trans h.callbacks,
    h'.subscriptions.trans h.subscriptions, ?_, ?_⟩
  · intro m hm
    rw [h'.others m hm, h.others m hm]
  · intro c hc
    obtain ⟨script, running, hc'⟩ := h.self c hc
    obtain ⟨script', running', hc''⟩ := h'.self _ hc'
    exact ⟨script', running', hc''⟩

theorem of_alike (h : Alike w w') : Unmoved n w w' := by
  refine ⟨h.desk, h.callbacks, h.subscriptions, ?_, ?_⟩
  · intro m _
    rw [h.controllers]
  · intro c hc
    exact ⟨c.script, c.running, by rw [h.controllers, hc]⟩

theorem modify (w : World) (n : Nat) {change : Controller → Controller}
    (h : ∀ c, ∃ script running, change c = { c with script, running }) :
    Unmoved n w { w with controllers := w.controllers.modify n change } := by
  refine ⟨rfl, rfl, rfl, ?_, ?_⟩
  · intro m hm
    simp [hm]
  · intro c hc
    obtain ⟨script, running, hchange⟩ := h c
    exact ⟨script, running, by simp [hc, hchange]⟩

end Unmoved

/-- What happens while a runner of controller `n`, whose document is `i`, asks for runs of its own
controller and for saves of its own document: the others are told about the saves. -/
inductive Aftermath (n i : Nat) (w : World) : World → Prop
  /-- Nothing happens. -/
  | refl : Aftermath n i w w
  /-- Something happens that does not matter. -/
  | unmoved {w₁ w₂ : World} : Aftermath n i w w₁ → Unmoved n w₁ w₂ → Aftermath n i w w₂
  /-- The others are told about a save. -/
  | told {w₁ : World} {d : Document} (k : Nat) : Aftermath n i w w₁ →
      (w₁.documents : List Document)[i]? = some d →
      Aftermath n i w
        (w₁.after (notifyAll (step k) (d.listeners.filter fun l => l ≠ .controller n)))

namespace Aftermath
variable {n i : Nat} {w w' w'' : World}

theorem trans (h : Aftermath n i w w') (h' : Aftermath n i w' w'') : Aftermath n i w w'' := by
  induction h' with
  | refl => exact h
  | unmoved _ hsame ih => exact .unmoved ih hsame
  | told k _ hd ih => exact .told k ih hd

theorem of_unmoved (h : Unmoved n w w') : Aftermath n i w w' := .unmoved .refl h

/-- Where nobody else listens, nothing happens that matters. -/
theorem alone (h : Aftermath n i w w') {d : Document}
    (hd : (w.documents : List Document)[i]? = some d)
    (hl : ∀ l ∈ d.listeners, l = .controller n) : Unmoved n w w' := by
  induction h with
  | refl => exact .refl w
  | unmoved _ hsame ih => exact ih.trans hsame
  | @told w₁ d₁ k _ hd₁ ih =>
    have hdocs : w₁.documents = w.documents := congrArg Desk.documents ih.desk
    rw [hdocs, hd] at hd₁
    cases hd₁
    have hnobody : (d.listeners.filter fun l => l ≠ .controller n) = [] := by simpa using hl
    rw [hnobody]
    exact ih

end Aftermath

/-- A step that asks for a run of controller `n` or for a save of document `i`. -/
def IsOwn (n i : Nat) (s : Step) : Prop :=
  s.request = .run ∧ s.controller = n ∨ s.request = .save ∧ s.document = i

section
variable {n i : Nat} {w : World}

theorem aftermath_save (hw : Running n w) (k : Nat) :
    Aftermath n i w (w.after (save (step k) i)) := by
  rw [save, World.after, document_bind]
  cases hd : (w.documents : List Document)[i]? with
  | none => exact .refl
  | some d =>
    simp only [get_bind, orFault_bind]
    cases d.write w.host.tree w.host.cwd with
    | error r => exact .refl
    | ok tree =>
      let w' : World := { w with host := { w.host with tree } }
      have hsame : Unmoved n w w' := .of_alike ⟨rfl, rfl, rfl, rfl, rfl, rfl⟩
      show Aftermath n i w ((notifyAll (step k) d.listeners).run w').2
      rw [run_notifyAll_of_running (w := w') hw]
      exact .told k (.of_unmoved hsame) hd

theorem aftermath_step (hw : Running n w) (k : Nat) {s : Step} (hs : IsOwn n i s) :
    Aftermath n i w (w.after (step k s)) := by
  obtain ⟨document, controller, request⟩ := s
  cases k with
  | zero => exact .refl
  | succ k =>
    rcases hs with ⟨hrequest, hn⟩ | ⟨hrequest, hi⟩
    · simp only at hrequest hn
      subst hrequest hn
      have hrun : (step (k + 1) ⟨document, controller, .run⟩).run w
          = (.ok (.outcome none), w) := run_bind_ok (run_run_of_running hw _) _
      rw [World.after, hrun]
      exact .refl
    · simp only at hrequest hi
      subst hrequest hi
      have hsave : Aftermath n document w (w.after (save (step k) document)) :=
        aftermath_save hw k
      exact after_bind_of hsave fun _ => hsave

theorem aftermath_makeAll (hw : Running n w) (k : Nat) (entry : Text → Answer → Entry)
    {steps : List Step} (hs : ∀ s ∈ steps, IsOwn n i s) :
    Aftermath n i w (w.after (makeAll (step k) entry steps)) := by
  induction steps generalizing w with
  | nil => exact .refl
  | cons s rest ih =>
    have hstep := aftermath_step hw k (hs s (by simp))
    have hrunning := running_step hw k s
    refine after_bind_of hstep fun answer => ?_
    have hrecord := Aside.record (entry s.request.name answer) (w.after (step k s))
    exact (hstep.unmoved (.of_alike hrecord)).trans
      (ih hrunning fun s' hs' => hs s' (by simp [hs']))

/-- Whatever a runner does that asks for runs of its own controller and saves of its own document
only, it leaves the aftermath of these saves. -/
theorem aftermath_outcomeOf {c : Controller} (hc : w.controllers[n]? = some c)
    (hrunning : c.running = true) (k : Nat)
    (hs : ∀ run ∈ c.script.head?, ∀ s ∈ run.during, IsOwn n i s) (unitId : Text) :
    Aftermath n i w (w.after (outcomeOf (step k) n unitId)) := by
  rw [outcomeOf, World.after, controller_bind_some hc]
  cases hscript : c.script with
  | nil => exact .of_unmoved (.of_alike (Aside.compilerOutcome c unitId w))
  | cons run rest =>
    have hown : ∀ s ∈ run.during, IsOwn n i s := hs run (by simp [hscript])
    let change (c : Controller) : Controller :=
      { c with script := if rest.isEmpty then [run] else rest }
    let w₁ : World := { w with controllers := w.controllers.modify n change }
    have hshift : Unmoved n w w₁ := .modify w n fun c => ⟨_, c.running, rfl⟩
    let w₂ : World := w₁.after (record (.runner unitId c.settings.detailLevel.val))
    have hrecord : Unmoved n w₁ w₂ := .of_alike (Aside.record _ w₁)
    have hrunning₂ : Running n w₂ := ⟨change c, by simp [w₂, w₁, World.after, record, hc], hrunning⟩
    show Aftermath n i w (w₂.after (scriptedOutcome (step k) run unitId))
    have hmade : Aftermath n i w (w₂.after (makeAll (step k) .during run.during)) :=
      (Aftermath.of_unmoved (hshift.trans hrecord)).trans
        (aftermath_makeAll hrunning₂ k .during hown)
    rw [Watched.scriptedOutcome_eq]
    refine after_bind_of hmade fun _ => ?_
    exact hmade.unmoved (.of_alike (Watched.aside_alone run unitId _))

end

/-! ## Runs from their beginning to their end -/

section
variable {w : World} {n : Nat} {c : Controller} (hc : w.controllers[n]? = some c)
  (hidle : c.running = false)

include hc hidle

theorem run_of_idle (make : Make) :
    (run make n).run w
      = (((pipeline make n).run (w.busy n)).1, ((pipeline make n).run (w.busy n)).2.idle n) := by
  rw [run, controller_bind_some hc, hidle]
  rfl

theorem watched_run_of_idle (make : Step → Watched Answer) :
    Watched.run make n w
      = (((Watched.pipeline make n (w.busy n)).1.1,
            (Watched.pipeline make n (w.busy n)).1.2.idle n),
          .began n :: (Watched.pipeline make n (w.busy n)).2
            ++ [.ended n (Watched.pipeline make n (w.busy n)).1.1.isOk]) := by
  have hrun : (controller n).run w = (.ok c, w) := by rw [run_controller, hc]
  rw [Watched.run, Watched.of_bind_ok hrun, hidle]
  rfl

theorem idle_busy : (w.busy n).idle n = w := by
  have hcontrollers : ((w.busy n).idle n).controllers = w.controllers := by
    apply List.ext_getElem?
    intro m
    by_cases hm : n = m
    · subst hm
      rw [idle_self (busy_self hc), hc, ← hidle]
    · rw [idle_of_ne hm, busy_of_ne hm]
  show { w with controllers := ((w.busy n).idle n).controllers } = w
  rw [hcontrollers]

end

section
variable (make : Make) {w : World} {n : Nat} {c : Controller} {d : Document}
  (hc : w.controllers[n]? = some c) (hd : (w.documents : List Document)[c.document]? = some d)

include hc hd

theorem pipeline_of_unfit {unfit : Unfit} (hunfit : sourceFile d = .error unfit) :
    ∃ trace, (pipeline make n).run w = (.ok none, { w with trace }) := by
  rw [Watched.pipeline_eq, controller_bind_some hc, document_bind_some hd, hunfit]
  cases c.voice with
  | recorded => exact ⟨_, rfl⟩
  | printed m => exact ⟨_, rfl⟩

theorem pipeline_of_failed {w₁ : World} {file : Path} {unitId : Text} {fault : Fault}
    (hfile : sourceFile d = .ok file)
    (hunit : Package.ofFile w.host.tree w.host.cwd file = .ok unitId)
    (hfail : (outcomeOf make n unitId).run (w.after (announce c file)) = (.error fault, w₁)) :
    (pipeline make n).run w = (.error fault, w₁) := by
  have hannounce : (announce c file).run w = (.ok unitId, w.after (announce c file)) := by
    rw [World.after, announce, get_bind, orFault_bind, hunit]
    cases c.voice with
    | recorded => rfl
    | printed m => rfl
  rw [Watched.pipeline_eq, controller_bind_some hc, document_bind_some hd, hfile]
  simp only
  rw [run_bind_ok hannounce, run_bind_error hfail]

end

/-! ## The guard -/

/-- A run that is asked for while another one of the same controller is in progress is dropped
without a trace, however deep within that run it is asked for.  When a run ends the next one is not
dropped, and unless it has put annotations on, it leaves everything as it was. -/
theorem runs_are_guarded (depth : Nat) {w : World} {n : Nat} {c : Controller}
    (hc : w.controllers[n]? = some c) :
    -- a run is in progress
    (c.running = true →
      (run (step depth) n).run w = (.ok none, w) ∧
      Watched.run (Watched.step depth) n w = ((.ok none, w), [.dropped n])) ∧
    -- none is: the run neither begins nor ends within itself, and the guard is free after it
    (c.running = false → ∃ answer w' inner c',
      (run (step depth) n).run w = (answer, w') ∧
      Watched.run (Watched.step depth) n w
        = ((answer, w'), .began n :: inner ++ [.ended n answer.isOk]) ∧
      (∀ e ∈ inner, e.runner? ≠ some n) ∧ w'.controllers[n]? = some c' ∧ c'.running = false ∧
      ∀ k, ∃ rest, (Watched.run (Watched.step k) n w').2 = .began n :: rest) ∧
    -- the document is not fit
    (c.running = false → ∀ d unfit, (w.documents : List Document)[c.document]? = some d →
      sourceFile d = .error unfit →
      ∃ trace, (run (step depth) n).run w = (.ok none, { w with trace })) ∧
    -- the runner fails
    (c.running = false → ∀ d file unitId fault w₁,
      (w.documents : List Document)[c.document]? = some d → sourceFile d = .ok file →
      Package.ofFile w.host.tree w.host.cwd file = .ok unitId →
      (outcomeOf (step depth) n unitId).run ((w.busy n).after (announce c file))
        = (.error fault, w₁) →
      (run (step depth) n).run w = (.error fault, w₁.idle n) ∧
      (∃ c', (w₁.idle n).controllers[n]? = some c' ∧ c'.lastOutcome = c.lastOutcome) ∧
      ((∀ run ∈ c.script.head?, ∀ s ∈ run.during, IsOwn n c.document s) →
        Aftermath n c.document w (w₁.idle n) ∧
        ((∀ l ∈ d.listeners, l = .controller n) → Unmoved n w (w₁.idle n)))) := by
  refine ⟨?_, ?_, ?_, ?_⟩
  · intro hrunning
    have hrun : (controller n).run w = (.ok c, w) := by rw [run_controller, hc]
    refine ⟨run_run_of_running ⟨c, hc, hrunning⟩ _, ?_⟩
    rw [Watched.run, Watched.of_bind_ok hrun, hrunning]
    rfl
  · intro hidle
    have hwatched := watched_run_of_idle hc hidle (Watched.step depth)
    obtain ⟨c', hc', hsame, -⟩ := Watched.obeys_run law_guarded (law_guarded.step depth) n w n c hc
    obtain ⟨w₂, hinner, -⟩ :=
      Watched.ends_pipeline law_guarded (law_guarded.step depth) n (w.busy n)
    obtain ⟨_, _, _, hkept⟩ := hinner n _ (busy_self hc)
    have hrun : (run (step depth) n).run w = (Watched.run (Watched.step depth) n w).1 := by
      rw [← Watched.run_act, Watched.act_run (Watched.act_step depth)]
    refine ⟨_, _, (Watched.pipeline (Watched.step depth) n (w.busy n)).2, c', hrun, ?_,
      (hkept rfl).2, hc', hsame.trans hidle, ?_⟩
    · rw [hwatched]
    · intro k
      exact ⟨_, congrArg Prod.snd (watched_run_of_idle hc' (hsame.trans hidle) (Watched.step k))⟩
  · intro hidle d unfit hd hunfit
    obtain ⟨trace, hpipeline⟩ := pipeline_of_unfit (step depth) (busy_self hc) hd hunfit
    refine ⟨trace, ?_⟩
    rw [run_of_idle hc hidle, hpipeline]
    show (Except.ok none, { (w.busy n).idle n with trace }) = _
    rw [idle_busy hc hidle]
  · intro hidle d file unitId fault w₁ hd hfile hunit hfail
    have hpipeline := pipeline_of_failed (step depth) (busy_self hc) hd hfile hunit hfail
    have hrun : (run (step depth) n).run w = (.error fault, w₁.idle n) := by
      rw [run_of_idle hc hidle, hpipeline]
    -- the runner is asked in a world in which the run is in progress
    let w₀ := (w.busy n).after (announce c file)
    have hsaid : Alike (w.busy n) w₀ := aside_announce c file (w.busy n)
    have hc₀ : w₀.controllers[n]? = some { c with running := true } := by
      rw [hsaid.controllers, busy_self hc]
    have hafter : w₀.after (outcomeOf (step depth) n unitId) = w₁ := congrArg Prod.snd hfail
    refine ⟨hrun, ?_, ?_⟩
    · obtain ⟨c₁, hc₁, -, hkept⟩ :=
        Watched.obeys_outcomeOf law_guarded (law_guarded.step depth) n unitId w₀ n _ hc₀
      rw [← Watched.run_act, Watched.act_outcomeOf (Watched.act_step depth), hfail] at hc₁
      exact ⟨_, idle_self hc₁, (hkept rfl).1⟩
    · intro hown
      have hbefore : Unmoved n w w₀ :=
        (Unmoved.modify w n fun c => ⟨c.script, true, rfl⟩).trans (.of_alike hsaid)
      have hduring := aftermath_outcomeOf (i := c.document) hc₀ rfl depth hown unitId
      rw [hafter] at hduring
      have hidled : Unmoved n w₁ (w₁.idle n) := .modify w₁ n fun c => ⟨c.script, false, rfl⟩
      have haftermath : Aftermath n c.document w (w₁.idle n) :=
        ((Aftermath.of_unmoved hbefore).trans hduring).unmoved hidled
      exact ⟨haftermath, haftermath.alone hd⟩

/-- What a runner raises. -/
def raised? {α : Type} : Except Fault α → Option Text
  | .error (.raised message) => some message
  | _ => none

theorem run_of_raised {α : Type} {act : Action α} {w : World} {message : Text}
    (h : raised? (act.run w).1 = some message) :
    act.run w = (.error (.raised message), w.after act) := by
  unfold World.after
  cases hrun : act.run w with
  | mk result w' =>
    rw [hrun] at h
    cases result with
    | ok a => cases h
    | error fault =>
      cases fault with
      | raised other =>
        cases h
        rfl
      | _ => cases h

/-- A controller whose runner asks for a run and for a save of its own and then fails. -/
def failing : Controller where
  document := 0
  store := 0
  settings := .standard
  works := .sound
  style := .standard
  voice := .recorded
  script := [⟨[], [⟨0, 0, .run⟩, ⟨0, 0, .save⟩], some ['x']⟩]
  on := true
  subscribed := true
  running := false
  lastOutcome := none

/-- A world in which that controller listens to its document. -/
def failingWorld : World where
  host := ⟨⟨[([['w']], .directory)]⟩, Path.ofText "/w".toList, []⟩
  terminal := false
  documents :=
    [(Document.ofText ['d'] (some (Path.ofText "/w/a.go".toList)) "a\n".toList).subscribe
      (.controller 0)]
  stores := [.empty]
  controllers := [failing]
  callbacks := []
  subscriptions := []
  slots := []
  handles := []
  trace := .empty

theorem runs_are_guarded_of_failingWorld :
    ∃ w', (run (step 3) 0).run failingWorld = (.error (.raised ['x']), w') ∧
      Unmoved 0 failingWorld w' := by
  have hunit : Package.ofFile failingWorld.host.tree failingWorld.host.cwd
      (Path.ofText "/w/a.go".toList) = .ok ['w'] := by rfl
  let w₀ := (failingWorld.busy 0).after (announce failing (Path.ofText "/w/a.go".toList))
  have hraised : raised? ((outcomeOf (step 3) 0 ['w']).run w₀).1 = some ['x'] := by
    decide +kernel
  have hfail := run_of_raised hraised
  obtain ⟨-, -, -, hfailed⟩ := runs_are_guarded 3 (w := failingWorld) (n := 0) (c := failing) rfl
  obtain ⟨hrun, -, hown⟩ := hfailed rfl _ _ _ _ _ rfl rfl hunit hfail
  refine ⟨_, hrun, (hown ?_).2 (by decide)⟩
  simp [failing, IsOwn]

end Marginalia.Session

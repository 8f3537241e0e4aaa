import Marginalia.Proofs.Session.Action

/-!
# Watching a session

A world says what is the case, and not what has happened: in which order controllers were switched
on, or how often one of them ran.  Watched actions do what the actions of a session do, and note
*events* on the way, those of steps within steps included.  An action that fails has noted what
happened before it failed.

Watching changes nothing: `act_step` says that a watched step answers and leaves the world as the
step itself does.  `history` is what is noted while a host makes its steps.
-/

namespace Marginalia.Session

/-- What is noted. -/
inductive Event where
  /-- A controller was switched on or off. -/
  | switched (n : Nat) (on : Bool)
  /-- A callback of the host was subscribed to the saves of a document. -/
  | joined (document : Nat) (name : Text)
  /-- A subscription of the host was ended. -/
  | left (document : Nat) (l : Listener)
  /-- A run of a controller began. -/
  | began (n : Nat)
  /-- A run of a controller ended, with an answer or by failing. -/
  | ended (n : Nat) (answered : Bool)
  /-- A run was asked for while one of the same controller was in progress. -/
  | dropped (n : Nat)
deriving DecidableEq, Repr

/-- An action whose events are noted. -/
def Watched (α : Type) : Type :=
  World → (Except Fault α × World) × List Event

/-! ## Parts of actions -/

/-- A run without the steps that are made during it. -/
def Run.alone (run : Run) : Run :=
  { run with during := [] }

/-- What a run does before an outcome is asked for. -/
def announce (c : Controller) (file : Path) : Action Text := do
  let host := (← get).host
  let unitId ← orFault .tree (Package.ofFile host.tree host.cwd file)
  say c.voice .info ("Analysing ".toList ++ unitId ++ ['…'])
  return unitId

/-- What a run does with an outcome. -/
def conclude (n : Nat) (c : Controller) (file : Path) (o : Outcome) : Action (Option Outcome) := do
  let _ ← replaceIn c.store c.document (renderIn c.document c.style o.diagnostics)
  changeController n fun c => { c with lastOutcome := some o }
  sayAll c.voice (verdict (← controller n).settings file o)
  return some o

/-- What is changed when a controller is switched on. -/
def switchOn (n : Nat) (c : Controller) : Action Unit := do
  changeController n fun c => { c with on := true, subscribed := true }
  setDocument c.document ((← document c.document).subscribe (.controller n))

/-- What is changed when a controller is switched off. -/
def switchOff (n : Nat) (c : Controller) : Action Unit := do
  if c.subscribed then
    setDocument c.document ((← document c.document).unsubscribe (.controller n))
  changeController n fun c => { c with on := false, subscribed := false }

/-- A document, after it has been written to its file. -/
def written (n : Nat) : Action Document := do
  let d ← document n
  let w ← get
  let tree ← orFault .tree (d.write w.host.tree w.host.cwd)
  set { w with host := { w.host with tree } }
  return d

/-- What a callback does, when it has been told about a save. -/
def told (name : Text) : Action (List Step) := do
  record (.callback name)
  return ((← get).callbacks.lookup name).getD []

/-- A step within which no other can be made. -/
def makeNone : Make := fun _ => throw .endless

namespace Watched
variable {α β : Type}

instance : Monad Watched where
  pure a := fun w => ((.ok a, w), [])
  bind m k := fun w =>
    match m w with
    | ((.ok a, w'), es) => ((k a w').1, es ++ (k a w').2)
    | ((.error fault, w'), es) => ((.error fault, w'), es)

/-- An action of which nothing is noted. -/
def of (act : Action α) : Watched α :=
  fun w => (act.run w, [])

/-- One more event. -/
def tell (e : Event) : Watched Unit :=
  fun w => ((.ok (), w), [e])

/-- The action that is watched. -/
def act (m : Watched α) : Action α :=
  ExceptT.mk fun w => (m w).1

/-! ## Runs -/

/-- Steps made in turn, as by `Session.makeAll`. -/
def makeAll (make : Step → Watched Answer) (entry : Text → Answer → Entry) :
    List Step → Watched Unit
  | [] => pure ()
  | s :: rest => do
    let answer ← make s
    of (record (entry s.request.name answer))
    makeAll make entry rest

/-- The outcome of an analysis, as by `Session.outcomeOf`. -/
def outcomeOf (make : Step → Watched Answer) (n : Nat) (unitId : Text) : Watched Outcome := do
  let c ← of (controller n)
  match c.script with
  | [] => of (compilerOutcome c unitId)
  | run :: rest => do
    of (changeController n fun c => { c with script := if rest.isEmpty then [run] else rest })
    of (record (.runner unitId c.settings.detailLevel.val))
    makeAll make .during run.during
    of (scriptedOutcome makeNone run.alone unitId)

/-- One run from the start to the end, as by `Session.pipeline`. -/
def pipeline (make : Step → Watched Answer) (n : Nat) : Watched (Option Outcome) := do
  let c ← of (controller n)
  let d ← of (document c.document)
  match sourceFile d with
  | .error unfit => do
    of (say c.voice .warn unfit.message)
    pure none
  | .ok file => do
    let unitId ← of (announce c file)
    let o ← outcomeOf make n unitId
    of (conclude n c file o)

/-- A run after which the controller is idle, whether it fails or not. -/
def finishing (n : Nat) (m : Watched α) : Watched α := fun w =>
  (((m w).1.1, (m w).1.2.idle n), (m w).2 ++ [.ended n (m w).1.1.isOk])

/-- One run, or nothing if one is in progress, as by `Session.run`. -/
def run (make : Step → Watched Answer) (n : Nat) : Watched (Option Outcome) := do
  let c ← of (controller n)
  if c.running then do
    tell (.dropped n)
    pure none
  else do
    tell (.began n)
    of (changeController n fun c => { c with running := true })
    finishing n (pipeline make n)

/-! ## Modes and saves -/

/-- The mode on, as by `Session.enable`. -/
def enable (make : Step → Watched Answer) (n : Nat) : Watched Unit := do
  let c ← of (controller n)
  if c.on then pure ()
  else do
    tell (.switched n true)
    of (switchOn n c)
    let _ ← run make n
    pure ()

/-- The mode off, as by `Session.disable`. -/
def disable (n : Nat) : Watched Unit := do
  let c ← of (controller n)
  of (switchOff n c)
  tell (.switched n false)
  of (clearStore c.store c.document)

/-- The mode the other way, as by `Session.toggle`. -/
def toggle (make : Step → Watched Answer) (n : Nat) : Watched Bool := do
  let c ← of (controller n)
  if c.on then disable n else enable make n
  let c ← of (controller n)
  pure c.on

/-- What a listener does about a save, as by `Session.notify`. -/
def notify (make : Step → Watched Answer) : Listener → Watched Unit
  | .callback name => do
    let steps ← of (told name)
    makeAll make .action steps
  | .controller n => do
    let c ← of (controller n)
    if c.on then do
      let _ ← run make n
      pure ()
    else pure ()

/-- Listeners told in turn, as by `Session.notifyAll`. -/
def notifyAll (make : Step → Watched Answer) : List Listener → Watched Unit
  | [] => pure ()
  | l :: rest => do
    notify make l
    notifyAll make rest

/-- A document written and its listeners told, as by `Session.save`. -/
def save (make : Step → Watched Answer) (n : Nat) : Watched Unit := do
  let d ← of (written n)
  notifyAll make d.listeners

/-! ## Steps -/

/-- One step, as by `Session.perform`. -/
def perform (make : Step → Watched Answer) (s : Step) : Watched Answer :=
  match s.request with
  | .save => do
    save make s.document
    pure .done
  | .subscribe name _ => do
    let answer ← of (Session.perform makeNone s)
    tell (.joined s.document name)
    pure answer
  | .unsubscribe number => do
    let w ← of get
    let (n, l) ← of (orNothing w.subscriptions[number]?)
    let d ← of (document n)
    of (setDocument n (d.unsubscribe l))
    tell (.left n l)
    pure .done
  | .enable => do
    enable make s.controller
    pure .done
  | .disable => do
    disable s.controller
    pure .done
  | .toggle => do
    let on ← toggle make s.controller
    pure (.mode on)
  | .run => do
    let o ← run make s.controller
    pure (.outcome o)
  | _ => of (Session.perform makeNone s)

/-- One step, as by `Session.step`. -/
def step : Nat → Step → Watched Answer
  | 0, _ => of (throw .endless)
  | depth + 1, s => perform (step depth) s

/-! ## Watching changes nothing -/

@[simp] theorem act_of (a : Action α) : (of a).act = a := rfl

@[simp] theorem act_tell (e : Event) : (tell e).act = pure () := rfl

@[simp] theorem act_pure (a : α) : (pure a : Watched α).act = pure a := rfl

theorem run_act (m : Watched α) (w : World) : m.act.run w = (m w).1 := rfl

@[simp] theorem act_bind (m : Watched α) (k : α → Watched β) :
    (m >>= k).act = m.act >>= fun a => (k a).act := by
  funext w
  show ((m >>= k) w).1 = (m.act >>= fun a => (k a).act).run w
  rw [run_bind, run_act]
  simp only [bind]
  cases m w with
  | mk result es =>
    obtain ⟨answer, w'⟩ := result
    cases answer with
    | ok a => rfl
    | error fault => rfl

@[simp] theorem act_ite (p : Prop) [Decidable p] (m m' : Watched α) :
    (if p then m else m').act = if p then m.act else m'.act := by
  split <;> rfl

@[simp] theorem act_finishing (n : Nat) (m : Watched α) :
    (finishing n m).act = ensuring m.act (World.idle n) := rfl

section
variable {make : Step → Watched Answer} {make' : Make}

theorem act_makeAll (h : ∀ s, (make s).act = make' s) (entry : Text → Answer → Entry)
    (steps : List Step) : (makeAll make entry steps).act = Session.makeAll make' entry steps := by
  induction steps with
  | nil => rfl
  | cons s rest ih => simp [makeAll, Session.makeAll, h, ih]

theorem scriptedOutcome_eq (make' : Make) (run : Run) (unitId : Text) :
    scriptedOutcome make' run unitId =
      Session.makeAll make' .during run.during >>= fun _ =>
        scriptedOutcome makeNone run.alone unitId := by
  simp only [scriptedOutcome, Run.alone, Session.makeAll, pure_bind]
  rfl

theorem act_outcomeOf (h : ∀ s, (make s).act = make' s) (n : Nat) (unitId : Text) :
    (outcomeOf make n unitId).act = Session.outcomeOf make' n unitId := by
  simp only [outcomeOf, Session.outcomeOf, act_bind, act_of]
  refine bind_congr fun c => ?_
  cases c.script with
  | nil => rfl
  | cons run rest => simp [act_makeAll h, scriptedOutcome_eq make']

/-- A run, put together from its parts. -/
theorem pipeline_eq (n : Nat) :
    Session.pipeline make' n = controller n >>= fun c => document c.document >>= fun d =>
      match sourceFile d with
      | .error unfit => say c.voice .warn unfit.message >>= fun _ => pure none
      | .ok file => announce c file >>= fun unitId =>
        Session.outcomeOf make' n unitId >>= conclude n c file := by
  simp only [Session.pipeline]
  refine bind_congr fun c => bind_congr fun d => ?_
  cases sourceFile d with
  | error unfit => rfl
  | ok file =>
    simp only [announce, bind_assoc, pure_bind]
    rfl

theorem act_pipeline (h : ∀ s, (make s).act = make' s) (n : Nat) :
    (pipeline make n).act = Session.pipeline make' n := by
  simp only [pipeline, pipeline_eq, act_bind, act_of]
  refine bind_congr fun c => bind_congr fun d => ?_
  cases sourceFile d with
  | error unfit => rfl
  | ok file => simp only [act_bind, act_of, act_outcomeOf h]

theorem act_run (h : ∀ s, (make s).act = make' s) (n : Nat) :
    (run make n).act = Session.run make' n := by
  simp only [run, Session.run, act_bind, act_of, act_ite, act_tell, act_pure, act_finishing,
    act_pipeline h, pure_bind]

theorem act_enable (h : ∀ s, (make s).act = make' s) (n : Nat) :
    (enable make n).act = Session.enable make' n := by
  simp [enable, Session.enable, act_run h, switchOn]

theorem act_disable (n : Nat) : (disable n).act = Session.disable n := by
  simp only [disable, Session.disable, act_bind, act_of, act_tell, switchOff, pure_bind]
  refine bind_congr fun c => ?_
  split <;> simp

theorem act_toggle (h : ∀ s, (make s).act = make' s) (n : Nat) :
    (toggle make n).act = Session.toggle make' n := by
  simp only [toggle, Session.toggle, act_bind, act_of, act_ite, act_pure, act_enable h,
    act_disable]

theorem act_notify (h : ∀ s, (make s).act = make' s) (l : Listener) :
    (notify make l).act = Session.notify make' l := by
  cases l with
  | callback name => simp [notify, Session.notify, told, act_makeAll h]
  | controller n => simp [notify, Session.notify, act_run h]

theorem act_notifyAll (h : ∀ s, (make s).act = make' s) (ls : List Listener) :
    (notifyAll make ls).act = Session.notifyAll make' ls := by
  induction ls with
  | nil => rfl
  | cons l rest ih => simp [notifyAll, Session.notifyAll, act_notify h, ih]

theorem act_save (h : ∀ s, (make s).act = make' s) (n : Nat) :
    (save make n).act = Session.save make' n := by
  simp [save, Session.save, written, act_notifyAll h]

theorem act_perform (h : ∀ s, (make s).act = make' s) (s : Step) :
    (perform make s).act = Session.perform make' s := by
  obtain ⟨document, controller, request⟩ := s
  cases request with
  | save | subscribe _ _ | unsubscribe _ =>
    simp [perform, Session.perform, aboutSaves, act_save h]
  | enable | disable | toggle | run =>
    simp [perform, Session.perform, aboutMode, act_enable h, act_disable, act_toggle h, act_run h]
  | _ => rfl

end

/-- A step answers and leaves the world as it does when nobody watches. -/
theorem act_step (depth : Nat) (s : Step) : (step depth s).act = Session.step depth s := by
  induction depth generalizing s with
  | zero => rfl
  | succ depth ih => exact act_perform ih s

theorem step_eq (depth : Nat) (s : Step) (w : World) :
    (step depth s w).1 = (Session.step depth s).run w := by
  rw [← act_step depth s]
  rfl

end Watched

/-- What is noted while a host makes its steps in turn. -/
def history : List Step → World → List Event
  | [], _ => []
  | s :: rest, w => (Watched.step deepest s w.resumed).2 ++ history rest (advance s w).2

end Marginalia.Session

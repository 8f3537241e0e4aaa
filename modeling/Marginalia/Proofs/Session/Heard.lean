import Marginalia.Proofs.Session.Watched

/-!
# Hosts that answer

Where a controller tells its host something, a session records the message or prints it, and a step
that fails within another step makes that one fail as well.  A host may do more than that: it may
make steps of its own when it is told something, and it may go on after a step that has failed.  A
`Conduct` says what a host does, and `Heard.step` makes steps with such a host.  Besides events it
notes which batches stores come to keep.

A host of `plain` conduct does nothing of the kind: `watched_step` says that with such a host
everything is done as when a session is watched, and `afterAll_plain` that a session goes on as it
does without any conduct.
-/

namespace Marginalia.Session

/-- What a host does of its own accord. -/
structure Conduct where
  /-- The steps it makes when a controller tells it something. -/
  reply : World → Nat → Console.Level × Text → List Step
  /-- Whether it goes on when a step that was made within another step has failed. -/
  persists : World → Fault → Bool

/-- The conduct of a host that does nothing of its own accord. -/
def Conduct.plain : Conduct :=
  ⟨fun _ _ _ => [], fun _ _ => false⟩

/-- What is noted. -/
inductive Note where
  /-- An event. -/
  | event (e : Event)
  /-- A store came to keep a batch for a document, in a run of a controller or at the wish of the
  host. -/
  | placed (runner : Option Nat) (store document : Nat) (batch : List Annotation)
deriving DecidableEq

/-- The event that a note is about. -/
def Note.event? : Note → Option Event
  | .event e => some e
  | .placed .. => none

/-- The events among notes. -/
def eventsOf (notes : List Note) : List Event :=
  notes.filterMap Note.event?

@[simp] theorem eventsOf_nil : eventsOf [] = [] := rfl

@[simp] theorem eventsOf_event (e : Event) (notes : List Note) :
    eventsOf (.event e :: notes) = e :: eventsOf notes := rfl

@[simp] theorem eventsOf_placed (runner : Option Nat) (s i : Nat) (batch : List Annotation)
    (notes : List Note) : eventsOf (.placed runner s i batch :: notes) = eventsOf notes := rfl

@[simp] theorem eventsOf_append (notes notes' : List Note) :
    eventsOf (notes ++ notes') = eventsOf notes ++ eventsOf notes' :=
  List.filterMap_append

@[simp] theorem eventsOf_map (es : List Event) : eventsOf (es.map .event) = es := by
  induction es with
  | nil => rfl
  | cons e rest ih => simp [ih]

/-- An action with a host that answers, of which it is noted what happens. -/
def Heard (α : Type) : Type :=
  World → (Except Fault α × World) × List Note

namespace Heard
variable {α β : Type}

instance : Monad Heard where
  pure a := fun w => ((.ok a, w), [])
  bind m k := fun w =>
    match m w with
    | ((.ok a, w'), notes) => ((k a w').1, notes ++ (k a w').2)
    | ((.error fault, w'), notes) => ((.error fault, w'), notes)

/-- An action of which nothing is noted. -/
def of (act : Action α) : Heard α :=
  fun w => (act.run w, [])

/-- A watched action, of which the events are noted. -/
def ofWatched (m : Watched α) : Heard α :=
  fun w => ((m w).1, (m w).2.map .event)

/-- One more note. -/
def tell (note : Note) : Heard Unit :=
  fun w => ((.ok (), w), [note])

/-- The watched action that is left if nothing but events counts. -/
def watched (m : Heard α) : Watched α :=
  fun w => ((m w).1, eventsOf (m w).2)

/-! ## What the host does -/

/-- An action after which the host goes on if it has failed and the host persists. -/
def attempt (conduct : Conduct) (m : Heard Unit) : Heard Unit := fun w =>
  match m w with
  | ((.ok _, w'), notes) => ((.ok (), w'), notes)
  | ((.error fault, w'), notes) =>
    ((if conduct.persists w' fault then .ok () else .error fault, w'), notes)

/-- Steps made in turn, as by `Watched.makeAll`. -/
def makeAll (conduct : Conduct) (make : Step → Heard Answer) (entry : Text → Answer → Entry) :
    List Step → Heard Unit
  | [] => pure ()
  | s :: rest => do
    attempt conduct do
      let answer ← make s
      of (record (entry s.request.name answer))
    makeAll conduct make entry rest

/-- A message, and what the host does about it. -/
def say (conduct : Conduct) (make : Step → Heard Answer) (n : Nat) (voice : Voice)
    (message : Console.Level × Text) : Heard Unit := do
  of (Session.say voice message.1 message.2)
  let w ← of get
  makeAll conduct make .action (conduct.reply w n message)

/-- Messages in turn. -/
def sayAll (conduct : Conduct) (make : Step → Heard Answer) (n : Nat) (voice : Voice) :
    List (Console.Level × Text) → Heard Unit
  | [] => pure ()
  | message :: rest => do
    say conduct make n voice message
    sayAll conduct make n voice rest

/-! ## Batches -/

/-- Annotations kept for a document that has none, as by `Session.installIn`. -/
def install (runner : Option Nat) (s i : Nat) (batch : List Annotation) : Heard Unit := do
  of (installIn s i batch)
  tell (.placed runner s i batch)

/-- Annotations in the place of those of a document, as by `Session.replaceIn`. -/
def replace (runner : Option Nat) (s i : Nat) (make : Action (List Annotation)) :
    Heard (List Annotation) := do
  of (clearStore s i)
  let batch ← of make
  install runner s i batch
  pure batch

/-! ## Runs -/

/-- The outcome of an analysis, as by `Watched.outcomeOf`. -/
def outcomeOf (conduct : Conduct) (make : Step → Heard Answer) (n : Nat) (unitId : Text) :
    Heard Outcome := do
  let c ← of (controller n)
  match c.script with
  | [] => of (compilerOutcome c unitId)
  | run :: rest => do
    of (changeController n fun c => { c with script := if rest.isEmpty then [run] else rest })
    of (record (.runner unitId c.settings.detailLevel.val))
    makeAll conduct make .during run.during
    of (scriptedOutcome makeNone run.alone unitId)

/-- What a run does before an outcome is asked for, as by `Session.announce`. -/
def announce (conduct : Conduct) (make : Step → Heard Answer) (n : Nat) (c : Controller)
    (file : Path) : Heard Text := do
  let w ← of get
  let unitId ← of (orFault .tree (Package.ofFile w.host.tree w.host.cwd file))
  say conduct make n c.voice (.info, "Analysing ".toList ++ unitId ++ ['…'])
  pure unitId

/-- What a run does with an outcome, as by `Session.conclude`. -/
def conclude (conduct : Conduct) (make : Step → Heard Answer) (n : Nat) (c : Controller)
    (file : Path) (o : Outcome) : Heard (Option Outcome) := do
  let _ ← replace (some n) c.store c.document (renderIn c.document c.style o.diagnostics)
  of (changeController n fun c => { c with lastOutcome := some o })
  let c' ← of (controller n)
  sayAll conduct make n c.voice (verdict c'.settings file o)
  pure (some o)

/-- One run from the start to the end, as by `Watched.pipeline`. -/
def pipeline (conduct : Conduct) (make : Step → Heard Answer) (n : Nat) :
    Heard (Option Outcome) := do
  let c ← of (controller n)
  let d ← of (document c.document)
  match sourceFile d with
  | .error unfit => do
    say conduct make n c.voice (.warn, unfit.message)
    pure none
  | .ok file => do
    let unitId ← announce conduct make n c file
    let o ← outcomeOf conduct make n unitId
    conclude conduct make n c file o

/-- A run after which the controller is idle, whether it fails or not. -/
def finishing (n : Nat) (m : Heard α) : Heard α := fun w =>
  (((m w).1.1, (m w).1.2.idle n), (m w).2 ++ [.event (.ended n (m w).1.1.isOk)])

/-- One run, or nothing if one is in progress, as by `Watched.run`. -/
def run (conduct : Conduct) (make : Step → Heard Answer) (n : Nat) : Heard (Option Outcome) := do
  let c ← of (controller n)
  if c.running then do
    tell (.event (.dropped n))
    pure none
  else do
    tell (.event (.began n))
    of (changeController n fun c => { c with running := true })
    finishing n (pipeline conduct make n)

/-! ## Modes and saves -/

/-- The mode on, as by `Watched.enable`. -/
def enable (conduct : Conduct) (make : Step → Heard Answer) (n : Nat) : Heard Unit := do
  let c ← of (controller n)
  if c.on then pure ()
  else do
    tell (.event (.switched n true))
    of (switchOn n c)
    let _ ← run conduct make n
    pure ()

/-- The mode off, as by `Watched.disable`. -/
def disable (n : Nat) : Heard Unit :=
  ofWatched (Watched.disable n)

/-- The mode the other way, as by `Watched.toggle`. -/
def toggle (conduct : Conduct) (make : Step → Heard Answer) (n : Nat) : Heard Bool := do
  let c ← of (controller n)
  if c.on then disable n else enable conduct make n
  let c ← of (controller n)
  pure c.on

/-- What a listener does about a save, as by `Watched.notify`. -/
def notify (conduct : Conduct) (make : Step → Heard Answer) : Listener → Heard Unit
  | .callback name => do
    let steps ← of (told name)
    makeAll conduct make .action steps
  | .controller n => do
    let c ← of (controller n)
    if c.on then do
      let _ ← run conduct make n
      pure ()
    else pure ()

/-- Listeners told in turn, as by `Watched.notifyAll`. -/
def notifyAll (conduct : Conduct) (make : Step → Heard Answer) : List Listener → Heard Unit
  | [] => pure ()
  | l :: rest => do
    notify conduct make l
    notifyAll conduct make rest

/-- A document written and its listeners told, as by `Watched.save`. -/
def save (conduct : Conduct) (make : Step → Heard Answer) (n : Nat) : Heard Unit := do
  let d ← of (written n)
  notifyAll conduct make d.listeners

/-! ## Steps -/

/-- A watched step within which no other can be made. -/
def watchNone : Step → Watched Answer := fun _ => .of (throw .endless)

/-- One step, as by `Watched.perform`. -/
def perform (conduct : Conduct) (make : Step → Heard Answer) (s : Step) : Heard Answer :=
  match s.request with
  | .save => do
    save conduct make s.document
    pure .done
  | .enable => do
    enable conduct make s.controller
    pure .done
  | .disable => do
    disable s.controller
    pure .done
  | .toggle => do
    let on ← toggle conduct make s.controller
    pure (.mode on)
  | .run => do
    let o ← run conduct make s.controller
    pure (.outcome o)
  | .install slot => do
    let w ← of get
    install none 0 s.document ((w.slots.lookup slot).getD [])
    pure .done
  | .replace tables style failure => do
    let batch ← replace none 0 s.document (rendered s.document tables style failure)
    let shown ← of (showAll batch)
    pure (.annotations shown)
  | _ => ofWatched (Watched.perform watchNone s)

/-- One step, as by `Watched.step`. -/
def step (conduct : Conduct) : Nat → Step → Heard Answer
  | 0, _ => of (throw .endless)
  | depth + 1, s => perform conduct (step conduct depth) s

/-! ## Plain conduct -/

@[simp] theorem watched_of (a : Action α) : (of a).watched = .of a := rfl

@[simp] theorem watched_ofWatched (m : Watched α) : (ofWatched m).watched = m := by
  funext w
  simp [watched, ofWatched]

@[simp] theorem watched_event (e : Event) : (tell (.event e)).watched = .tell e := rfl

@[simp] theorem watched_pure (a : α) : (pure a : Heard α).watched = pure a := rfl

@[simp] theorem watched_bind (m : Heard α) (k : α → Heard β) :
    (m >>= k).watched = m.watched >>= fun a => (k a).watched := by
  funext w
  simp only [watched, bind]
  cases m w with
  | mk result notes =>
    obtain ⟨answer, w'⟩ := result
    cases answer with
    | ok a => simp
    | error fault => rfl

@[simp] theorem watched_ite (p : Prop) [Decidable p] (m m' : Heard α) :
    (if p then m else m').watched = if p then m.watched else m'.watched := by
  split <;> rfl

@[simp] theorem watched_finishing (n : Nat) (m : Heard α) :
    (finishing n m).watched = Watched.finishing n m.watched := by
  funext w
  simp [watched, finishing, Watched.finishing]

@[simp] theorem watched_attempt (m : Heard Unit) :
    (attempt .plain m).watched = m.watched := by
  funext w
  simp only [watched, attempt]
  cases m w with
  | mk result notes =>
    obtain ⟨answer, w'⟩ := result
    cases answer with
    | ok a => rfl
    | error fault => rfl

/-- What is kept is not an event. -/
@[simp] theorem watched_install (runner : Option Nat) (s i : Nat) (batch : List Annotation) :
    (install runner s i batch).watched = .of (installIn s i batch) := by
  funext w
  simp only [watched, install, of, tell, bind, Watched.of]
  cases (installIn s i batch).run w with
  | mk answer w' =>
    cases answer with
    | ok a => rfl
    | error fault => rfl

end Heard

/-! ### Watched sequences -/

namespace Watched
variable {α β : Type}

instance : LawfulMonad Watched := LawfulMonad.mk' Watched
  (by
    intro α m
    funext w
    show (m >>= pure) w = m w
    simp only [bind]
    cases m w with
    | mk result es =>
      obtain ⟨answer, w'⟩ := result
      cases answer with
      | ok a => simp [pure]
      | error fault => rfl)
  (fun _ _ => rfl)
  (by
    intro α β γ m k k'
    funext w
    simp only [bind]
    cases m w with
    | mk result es =>
      obtain ⟨answer, w'⟩ := result
      cases answer with
      | error fault => rfl
      | ok a =>
        simp only
        cases k a w' with
        | mk result' es' =>
          obtain ⟨answer', w''⟩ := result'
          cases answer' with
          | ok b => simp
          | error fault => rfl)

/-- Actions in turn, of none of which anything is noted. -/
theorem of_bind (act : Action α) (k : α → Action β) :
    (of (act >>= k)) = of act >>= fun a => of (k a) := by
  funext w
  show ((act >>= k).run w, _) = (of act >>= fun a => of (k a)) w
  rw [run_bind]
  simp only [of, bind]
  cases act.run w with
  | mk answer w' =>
    cases answer with
    | ok a => rfl
    | error fault => rfl

theorem of_map (f : α → β) (act : Action α) : of (f <$> act) = f <$> of act := by
  rw [map_eq_pure_bind, map_eq_pure_bind, of_bind]
  rfl

end Watched

/-! ### Parts of runs -/

namespace Heard

section
variable {make : Step → Heard Answer} {make' : Step → Watched Answer}

theorem watched_makeAll (h : ∀ s, (make s).watched = make' s) (entry : Text → Answer → Entry)
    (steps : List Step) :
    (makeAll .plain make entry steps).watched = Watched.makeAll make' entry steps := by
  induction steps with
  | nil => rfl
  | cons s rest ih => simp [makeAll, Watched.makeAll, h, ih]

/-- Nothing follows a message. -/
theorem watched_say (n : Nat) (voice : Voice) (message : Console.Level × Text) :
    (say .plain make n voice message).watched
      = .of (Session.say voice message.1 message.2) := rfl

theorem watched_sayAll (n : Nat) (voice : Voice) (messages : List (Console.Level × Text)) :
    (sayAll .plain make n voice messages).watched = .of (Session.sayAll voice messages) := by
  induction messages with
  | nil => rfl
  | cons message rest ih =>
    rw [sayAll, Session.sayAll, Watched.of_bind, watched_bind, watched_say]
    exact bind_congr fun _ => ih

theorem watched_replace (runner : Option Nat) (s i : Nat) (render : Action (List Annotation)) :
    (replace runner s i render).watched = .of (replaceIn s i render) := by
  simp [replace, replaceIn, Watched.of_bind, Watched.of_map]

theorem watched_announce (n : Nat) (c : Controller) (file : Path) :
    (announce .plain make n c file).watched = .of (Session.announce c file) := by
  simp [announce, Session.announce, watched_say, Watched.of_bind, Watched.of_map]

theorem watched_conclude (n : Nat) (c : Controller) (file : Path) (o : Outcome) :
    (conclude .plain make n c file o).watched = .of (Session.conclude n c file o) := by
  simp [conclude, Session.conclude, watched_replace, watched_sayAll, Watched.of_bind,
    Watched.of_map]

theorem watched_outcomeOf (h : ∀ s, (make s).watched = make' s) (n : Nat) (unitId : Text) :
    (outcomeOf .plain make n unitId).watched = Watched.outcomeOf make' n unitId := by
  simp only [outcomeOf, Watched.outcomeOf, watched_bind, watched_of]
  refine bind_congr fun c => ?_
  cases c.script with
  | nil => rfl
  | cons run rest => simp [watched_makeAll h]

theorem watched_pipeline (h : ∀ s, (make s).watched = make' s) (n : Nat) :
    (pipeline .plain make n).watched = Watched.pipeline make' n := by
  simp only [pipeline, Watched.pipeline, watched_bind, watched_of]
  refine bind_congr fun c => bind_congr fun d => ?_
  cases sourceFile d with
  | error unfit => simp [watched_say]
  | ok file => simp [watched_announce, watched_outcomeOf h, watched_conclude]

/-! ### Steps -/

theorem watched_run (h : ∀ s, (make s).watched = make' s) (n : Nat) :
    (run .plain make n).watched = Watched.run make' n := by
  simp [run, Watched.run, watched_pipeline h]

theorem watched_enable (h : ∀ s, (make s).watched = make' s) (n : Nat) :
    (enable .plain make n).watched = Watched.enable make' n := by
  simp [enable, Watched.enable, watched_run h]

theorem watched_toggle (h : ∀ s, (make s).watched = make' s) (n : Nat) :
    (toggle .plain make n).watched = Watched.toggle make' n := by
  simp [toggle, Watched.toggle, disable, watched_enable h]

theorem watched_notify (h : ∀ s, (make s).watched = make' s) (l : Listener) :
    (notify .plain make l).watched = Watched.notify make' l := by
  cases l with
  | callback name => simp [notify, Watched.notify, watched_makeAll h]
  | controller n => simp [notify, Watched.notify, watched_run h]

theorem watched_notifyAll (h : ∀ s, (make s).watched = make' s) (ls : List Listener) :
    (notifyAll .plain make ls).watched = Watched.notifyAll make' ls := by
  induction ls with
  | nil => rfl
  | cons l rest ih => simp [notifyAll, Watched.notifyAll, watched_notify h, ih]

theorem watched_save (h : ∀ s, (make s).watched = make' s) (n : Nat) :
    (save .plain make n).watched = Watched.save make' n := by
  simp [save, Watched.save, watched_notifyAll h]

theorem watched_perform (h : ∀ s, (make s).watched = make' s) (s : Step) :
    (perform .plain make s).watched = Watched.perform make' s := by
  obtain ⟨document, controller, request⟩ := s
  cases request with
  | save | enable | disable | toggle | run =>
    simp [perform, Watched.perform, disable, watched_save h, watched_enable h, watched_toggle h,
      watched_run h]
  | install slot =>
    simp [perform, Watched.perform, Session.perform, aboutAnnotations, Watched.of_bind,
      Watched.of_map]
  | replace tables style failure =>
    simp [perform, Watched.perform, Session.perform, aboutAnnotations, watched_replace,
      Watched.of_bind, Watched.of_map]
  | _ => exact watched_ofWatched _

end

/-- With a host of plain conduct, a step does what it does when the session is watched. -/
theorem watched_step (depth : Nat) (s : Step) :
    (step .plain depth s).watched = Watched.step depth s := by
  induction depth generalizing s with
  | zero => rfl
  | succ depth ih => exact watched_perform ih s

end Heard

/-! ## Sessions with such a host -/

/-- A step of a host of some conduct, with its notes. -/
def hear (conduct : Conduct) (s : Step) (w : World) : World × List Note :=
  let result := Heard.step conduct deepest s w.resumed
  (result.1.2.after (view s.document), result.2)

/-- The world that steps of a host of some conduct leave, with all notes. -/
def hearAll (conduct : Conduct) : List Step → World → World × List Note
  | [], w => (w, [])
  | s :: rest, w =>
    let first := hear conduct s w
    let others := hearAll conduct rest first.1
    (others.1, first.2 ++ others.2)

theorem hear_plain (s : Step) (w : World) :
    (hear .plain s w).1 = (advance s w).2 ∧
      eventsOf (hear .plain s w).2 = (Watched.step deepest s w.resumed).2 := by
  have hstep := congrFun (Heard.watched_step deepest s) w.resumed
  refine ⟨?_, congrArg Prod.snd hstep⟩
  have hworld : (Heard.step .plain deepest s w.resumed).1
      = (Session.step deepest s).run w.resumed := by
    rw [← Watched.step_eq]
    exact congrArg Prod.fst hstep
  show ((Heard.step .plain deepest s w.resumed).1.2).after (view s.document) = _
  rw [hworld]
  rfl

/-- With a host of plain conduct, a session goes on as it does without any. -/
theorem hearAll_plain (steps : List Step) (w : World) :
    (hearAll .plain steps w).1 = w.afterAll steps ∧
      eventsOf (hearAll .plain steps w).2 = history steps w := by
  induction steps generalizing w with
  | nil => exact ⟨rfl, rfl⟩
  | cons s rest ih =>
    obtain ⟨hworld, hevents⟩ := hear_plain s w
    obtain ⟨ihworld, ihevents⟩ := ih (hear .plain s w).1
    rw [hworld] at ihworld ihevents
    refine ⟨?_, ?_⟩
    · rw [hearAll, hworld]
      exact ihworld
    · rw [hearAll, eventsOf_append, hevents, hworld, ihevents]
      rfl

end Marginalia.Session

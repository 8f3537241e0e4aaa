import Marginalia.Session.World

/-!
# The mode of a controller

While its mode is on, a controller runs the analysis of its document after every save.  `enable`
subscribes to the saves and runs once; `disable` ends the subscription and takes the annotations
off.  A run that is asked for while another run of the same controller is in progress is dropped.

A runner may make steps of its own, and so may a callback.  How a step is made is an argument here,
`make`, since a step may ask for a run again.
-/

namespace Marginalia.Session

/-- How steps are made. -/
abbrev Make := Step → Action Answer

/-! ## Runs -/

/-- Why a document is not analysed. -/
inductive Unfit where
  /-- It is kept in no file. -/
  | noFile
  /-- It is no source file. -/
  | notSource (file : Path)

/-- The reason in words. -/
def Unfit.message : Unfit → Text
  | .noFile => "Buffer has no backing file".toList
  | .notSource file => file.toText ++ " is not a Go source file".toList

/-- The source file a document is kept in. -/
def sourceFile (d : Document) : Except Unfit Path :=
  match d.file with
  | none => .error .noFile
  | some file =>
    if file.suffix = Diagnostic.sourceSuffix then .ok file else .error (.notSource file)

/-- Steps made in turn, each recorded with its answer. -/
def makeAll (make : Make) (entry : Text → Answer → Entry) : List Step → Action Unit
  | [] => pure ()
  | step :: rest => do
    let answer ← make step
    record (entry step.request.name answer)
    makeAll make entry rest

/-- The outcome that the compiler leaves. -/
def compilerOutcome (c : Controller) (unitId : Text) : Action Outcome := do
  let d ← document c.document
  let (calls, result) := Analysis.analyse (← get).host d unitId c.settings
  recordCalls calls
  orFault .analysis result

/-- The outcome of a scripted run. -/
def scriptedOutcome (make : Make) (run : Run) (unitId : Text) : Action Outcome := do
  makeAll make .during run.during
  if let some message := run.failure then throw (.raised message)
  let name := "unit_id".toList
  if (run.outcome.get? name).isSome then throw (.givenTwice name)
  orFault .invalid (Outcome.ofFields ((name, .text unitId) :: run.outcome))

/-- The outcome of an analysis by a controller. -/
def outcomeOf (make : Make) (n : Nat) (unitId : Text) : Action Outcome := do
  let c ← controller n
  match c.script with
  | [] => compilerOutcome c unitId
  | run :: rest =>
    changeController n fun c => { c with script := if rest.isEmpty then [run] else rest }
    record (.runner unitId c.settings.detailLevel.val)
    scriptedOutcome make run unitId

/-- What a controller has to say about an outcome. -/
def verdict (settings : Settings) (file : Path) (o : Outcome) : List (Console.Level × Text) :=
  let failure :=
    o.error.toList.map fun error =>
      (Console.Level.warn, "Unable to run ".toList ++ settings.goBinary ++ ": ".toList ++ error)
  let finding :=
    if o.diagnostics.isEmpty then
      (Console.Level.info, "No escape diagnostics for ".toList ++ file.name)
    else
      (Console.Level.ok, "Found ".toList ++ Text.ofNat o.diagnostics.length
        ++ " escape diagnostic(s) in ".toList ++ file.name)
  failure ++ [finding]

/-- Messages said in turn. -/
def sayAll (voice : Voice) : List (Console.Level × Text) → Action Unit
  | [] => pure ()
  | (level, message) :: rest => do
    say voice level message
    sayAll voice rest

/-- One run of a controller from the start to the end. -/
def pipeline (make : Make) (n : Nat) : Action (Option Outcome) := do
  let c ← controller n
  match sourceFile (← document c.document) with
  | .error unfit =>
    say c.voice .warn unfit.message
    return none
  | .ok file =>
    let host := (← get).host
    let unitId ← orFault .tree (Package.ofFile host.tree host.cwd file)
    say c.voice .info ("Analysing ".toList ++ unitId ++ ['…'])
    let o ← outcomeOf make n unitId
    let _ ← replaceIn c.store c.document (renderIn c.document c.style o.diagnostics)
    changeController n fun c => { c with lastOutcome := some o }
    sayAll c.voice (verdict (← controller n).settings file o)
    return some o

/-- The world in which no run of a controller is in progress. -/
def World.idle (n : Nat) (w : World) : World :=
  { w with controllers := w.controllers.modify n fun c => { c with running := false } }

/-- One run of a controller, or nothing if one is in progress. -/
def run (make : Make) (n : Nat) : Action (Option Outcome) := do
  if (← controller n).running then return none
  changeController n fun c => { c with running := true }
  ensuring (pipeline make n) (World.idle n)

/-! ## Modes -/

/-- The mode on. -/
def enable (make : Make) (n : Nat) : Action Unit := do
  let c ← controller n
  if c.on then return
  changeController n fun c => { c with on := true, subscribed := true }
  setDocument c.document ((← document c.document).subscribe (.controller n))
  let _ ← run make n

/-- The mode off. -/
def disable (n : Nat) : Action Unit := do
  let c ← controller n
  if c.subscribed then
    setDocument c.document ((← document c.document).unsubscribe (.controller n))
  changeController n fun c => { c with on := false, subscribed := false }
  clearStore c.store c.document

/-- The mode the other way, and whether it is on then. -/
def toggle (make : Make) (n : Nat) : Action Bool := do
  if (← controller n).on then disable n else enable make n
  return (← controller n).on

/-! ## Saves -/

/-- What a listener does about a save. -/
def notify (make : Make) : Listener → Action Unit
  | .callback name => do
    record (.callback name)
    makeAll make .action (((← get).callbacks.lookup name).getD [])
  | .controller n => do
    if (← controller n).on then
      let _ ← run make n

/-- Listeners told in turn. -/
def notifyAll (make : Make) : List Listener → Action Unit
  | [] => pure ()
  | l :: rest => do
    notify make l
    notifyAll make rest

/-- A document written to its file, and its listeners told. -/
def save (make : Make) (n : Nat) : Action Unit := do
  let d ← document n
  let w ← get
  let tree ← orFault .tree (d.write w.host.tree w.host.cwd)
  set { w with host := { w.host with tree } }
  notifyAll make d.listeners

end Marginalia.Session

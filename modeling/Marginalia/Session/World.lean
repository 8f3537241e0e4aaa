import Marginalia.Analysis
import Marginalia.Session.Step
import Marginalia.Settings.Layers

/-!
# The state of a session

A session holds open documents, annotation stores and controllers.  A controller is bound to one
document and to one store; store zero is shared.

An action changes the state and either answers or fails.  What an action has changed stays changed
when it fails.
-/

namespace Marginalia.Session

/-- One run of a scripted runner. -/
structure Run where
  /-- The fields of the outcome. -/
  outcome : Fields
  /-- The steps made during the run. -/
  during : List Step
  /-- How the run fails after that, if it does. -/
  failure : Option Text

/-- Where the messages of a controller go. -/
inductive Voice where
  /-- They are recorded. -/
  | recorded
  /-- They are printed. -/
  | printed (m : Console.Messenger)

/-- What runs the analysis of a document again and again. -/
structure Controller where
  /-- The number of the document. -/
  document : Nat
  /-- The number of the store. -/
  store : Nat
  /-- The settings of the analysis. -/
  settings : Settings
  /-- What the settings take values with. -/
  works : Works
  /-- How annotations look. -/
  style : Style
  /-- Where messages go. -/
  voice : Voice
  /-- The runs to come, the last of which is repeated; the compiler runs if there are none. -/
  script : List Run
  /-- Whether the mode is on. -/
  on : Bool
  /-- Whether the controller holds a subscription. -/
  subscribed : Bool
  /-- Whether a run is in progress. -/
  running : Bool
  /-- The outcome of the latest run. -/
  lastOutcome : Option Outcome

/-- The state of a session. -/
structure World where
  /-- The files and programs. -/
  host : Host
  /-- Whether messages are printed to a terminal. -/
  terminal : Bool
  /-- The open documents. -/
  documents : Documents
  /-- The stores. -/
  stores : List Store
  /-- The controllers. -/
  controllers : List Controller
  /-- What each callback does. -/
  callbacks : List (Text × List Step)
  /-- The subscriptions of the host. -/
  subscriptions : List (Nat × Listener)
  /-- Annotations that are kept under a name. -/
  slots : List (Text × List Annotation)
  /-- The decorations that have been shown, the handle of each being its place. -/
  handles : List Mark
  /-- What has happened in the present step. -/
  trace : Trace

/-- Why a request is not answered. -/
inductive Fault where
  /-- The tree refuses. -/
  | tree (r : FileTree.Refusal)
  /-- Bytes are no text. -/
  | bytes (r : Utf8.Refusal)
  /-- A position does not fit a document. -/
  | range (r : Document.Refusal)
  /-- A value does not fit. -/
  | invalid (issues : List Issue)
  /-- A field that is computed cannot be set. -/
  | computed
  /-- A name stands for what a record is made of. -/
  | structural
  /-- A field is given by the run and by its script. -/
  | givenTwice (name : Text)
  /-- A style cannot be said in words. -/
  | noWords (r : Store.NoWords)
  /-- A document still has annotations. -/
  | notCleared (r : Store.NotCleared)
  /-- A runner or a factory fails. -/
  | raised (message : Text)
  /-- There is no outcome. -/
  | analysis (r : Analysis.Refusal)
  /-- There are no settings. -/
  | settings (r : Settings.Refusal)
  /-- A heading is not marked up well. -/
  | markup (r : Console.Markup.Refusal)
  /-- There is nothing of that number. -/
  | nothing
  /-- Steps make steps without end. -/
  | endless

/-- A fault in words. -/
def Fault.message : Fault → Text
  | .tree r => r.message
  | .bytes r => r.message
  | .range r => r.message
  | .invalid _ => "Invalid value".toList
  | .computed => "Computed field".toList
  | .structural => "Reserved name".toList
  | .givenTwice name => "Given twice: ".toList ++ name
  | .noWords _ => "Style without words".toList
  | .notCleared r => r.message
  | .raised message => message
  | .analysis r => r.message
  | .settings r => r.message
  | .markup r => r.message
  | .nothing => "Nothing of that number".toList
  | .endless => "Steps without end".toList

/-- A change of the state that answers or fails. -/
abbrev Action := ExceptT Fault (StateM World)

/-! ## Parts of the state -/

/-- What is there, or a fault. -/
def orNothing {α : Type} (x : Option α) : Action α :=
  match x with
  | some a => pure a
  | none => throw .nothing

/-- What a refusal does not prevent. -/
def orFault {ε α : Type} (fault : ε → Fault) (x : Except ε α) : Action α :=
  match x with
  | .ok a => pure a
  | .error r => throw (fault r)

/-- A document. -/
def document (n : Nat) : Action Document := do
  orNothing ((← get).documents : List Document)[n]?

/-- A change of a document. -/
def setDocument (n : Nat) (d : Document) : Action Unit :=
  modify fun w => { w with documents := List.set w.documents n d }

/-- A controller. -/
def controller (n : Nat) : Action Controller := do
  orNothing (← get).controllers[n]?

/-- A change of a controller. -/
def changeController (n : Nat) (change : Controller → Controller) : Action Unit :=
  modify fun w => { w with controllers := w.controllers.modify n change }

/-- A store. -/
def store (n : Nat) : Action Store := do
  orNothing (← get).stores[n]?

/-- An action after which a part of the state is set right, whether the action fails or not. -/
def ensuring {α : Type} (act : Action α) (after : World → World) : Action α :=
  ExceptT.mk fun w =>
    let (result, w) := act.run w
    (result, after w)

/-! ## Traces -/

/-- One more thing that happened. -/
def record (entry : Entry) : Action Unit :=
  modify fun w => { w with trace := { w.trace with log := w.trace.log ++ [entry] } }

/-- More attempts to start a process. -/
def recordCalls (calls : List Launch.Call) : Action Unit :=
  modify fun w =>
    let more := calls.map fun call => (call.words, call.directory)
    { w with trace := { w.trace with calls := w.trace.calls ++ more } }

/-- A message of a controller. -/
def say (voice : Voice) (level : Console.Level) (message : Text) : Action Unit :=
  modify fun w =>
    match voice with
    | .recorded =>
      { w with trace := { w.trace with messages := w.trace.messages ++ [(level, message)] } }
    | .printed m =>
      { w with trace := { w.trace with
          printed := w.trace.printed ++ m.emit w.terminal level message } }

/-! ## Handles -/

/-- The handle of a decoration, a new one if it has none yet. -/
def handle (mark : Mark) : Action Nat := do
  let w ← get
  match w.handles.findIdx? (· == mark) with
  | some n => return n
  | none =>
    set { w with handles := w.handles ++ [mark] }
    return w.handles.length

/-- An annotation as a host sees it. -/
def shown (a : Annotation) : Action Shown := do
  let n ← handle a.mark
  let decoration ← orNothing ((← get).documents.decoration? a.mark)
  return ⟨n, a.diagnostic, decoration⟩

/-! ## Annotations -/

/-- The annotations of a document taken off and no longer kept. -/
def clearStore (s n : Nat) : Action Unit := do
  let st ← store s
  let w ← get
  let (st, documents) := st.clear w.documents n
  set { w with stores := w.stores.set s st, documents }

/-- Annotations kept for a document that has none. -/
def installIn (s n : Nat) (batch : List Annotation) : Action Unit := do
  let st ← store s
  let d ← document n
  let st ← orFault .notCleared (st.install d.id batch)
  modify fun w => { w with stores := w.stores.set s st }

/-- Diagnostics shown in a document. -/
def renderIn (n : Nat) (style : Style) (xs : List Diagnostic) : Action (List Annotation) := do
  let w ← get
  let (documents, batch) ← orFault .noWords (Store.render w.documents n style xs)
  set { w with documents }
  return batch

/-- Annotations in the place of those of a document.  The old ones are taken off before the new ones
are made, and stay off if that fails. -/
def replaceIn (s n : Nat) (make : Action (List Annotation)) : Action (List Annotation) := do
  clearStore s n
  let batch ← make
  installIn s n batch
  return batch

end Marginalia.Session

import Marginalia.Session.World

/-!
# Opening a session

A session starts with documents that are read from files or given as texts, with one shared store,
and with controllers whose mode is off.
-/

namespace Marginalia.Session

/-! ## Documents -/

/-- Where a document comes from. -/
inductive Source where
  /-- It is read from a file. -/
  | file (path : Text)
  /-- It is given, perhaps with a file to be kept in and a name to be known by. -/
  | text (text : Text) (file : Option Text) (id : Text)

/-- Whether a document is named by counting. -/
def Source.isUntitled : Source → Bool
  | .text _ none id => id.isEmpty
  | _ => false

/-- A document, given the number of the next untitled one. -/
def Source.open (host : Host) (untitled : Nat) : Source → Except FileTree.TextRefusal Document
  | .file path => Document.ofFile host.tree host.cwd (Path.ofText path)
  | .text content path id =>
    let path := path.map Path.ofText
    .ok (Document.ofText (Document.nameOf host.cwd id path untitled) path content)

/-- Documents in turn. -/
def openAll (host : Host) (untitled : Nat) :
    List Source → Except FileTree.TextRefusal (List Document)
  | [] => .ok []
  | source :: rest => do
    let d ← source.open host untitled
    let ds ← openAll host (if source.isUntitled then untitled + 1 else untitled) rest
    .ok (d :: ds)

/-! ## Controllers -/

/-- What a controller is to be like. -/
structure Plan where
  /-- The number of its document. -/
  document : Nat
  /-- Whether it has a store to itself. -/
  own : Bool
  /-- Its settings. -/
  settings : Settings
  /-- How annotations look. -/
  style : Style
  /-- Where messages go, if not to where its settings say. -/
  voice : Option Voice
  /-- The runs of a scripted runner. -/
  script : List Run

/-- The controller of a plan, given the number of the store it would have to itself. -/
def Plan.controller (own : Nat) (p : Plan) : Controller where
  document := p.document
  store := if p.own then own else 0
  settings := p.settings
  works := .sound
  style := p.style
  voice := p.voice.getD (.printed ⟨p.settings.emoji, some p.settings.color⟩)
  script := p.script
  on := false
  subscribed := false
  running := false
  lastOutcome := none

/-- The state in which a session starts. -/
def World.start (host : Host) (terminal : Bool) (documents : List Document)
    (plans : List Plan) : World where
  host
  terminal
  documents
  stores := List.replicate (plans.length + 1) .empty
  controllers := plans.zipIdx.map fun (p, n) => p.controller (n + 1)
  callbacks := []
  subscriptions := []
  slots := []
  handles := []
  trace := .empty

end Marginalia.Session

import Marginalia.Session.Mode

/-!
# Sessions step by step

`perform` makes one step, given how the steps within it are made.  `step` ties the knot: steps
within steps are made in the same way, down to `deepest` levels.  `advance` makes a step of the host
and reports all that shows of it.
-/

namespace Marginalia.Session

/-! ## Requests -/

/-- The diagnostics that tables stand for; all of them are read before anything is done. -/
def diagnosticsOf (tables : List Fields) : Action (List Diagnostic) :=
  orFault .invalid (tables.mapM Diagnostic.ofFields)

/-- The diagnostics that tables stand for, shown in a document, unless that fails in the end. -/
def rendered (n : Nat) (tables : List Fields) (style : Style) (failure : Option Text) :
    Action (List Annotation) := do
  let batch ← renderIn n style (← diagnosticsOf tables)
  if let some message := failure then throw (.raised message)
  return batch

/-- The annotations as a host sees them. -/
def showAll : List Annotation → Action (List Shown)
  | [] => pure []
  | a :: rest => do
    let first ← shown a
    return first :: (← showAll rest)

/-- A change of the tree. -/
def setTree (tree : FileTree) : Action Unit :=
  modify fun w => { w with host := { w.host with tree } }

/-- A request about the text of a document. -/
def aboutText (n : Nat) (request : Request) : Action Answer := do
  let d ← document n
  match request with
  | .lineCount => return .number d.lineCount
  | .lines => return .texts d.lines
  | .lineEnd line => return .number (← orFault .range (d.lineEnd line))
  | .lineEnds => return .numbers (Document.lineEnds 0 d.lines)
  | .annotated lines => return .rows (← orFault .range (d.annotated (lines.getD d.lines)))
  | .insert offset text => do
    let edited ← orFault .range (d.insert offset (text.getD []))
    if text.isNone then throw (.range .unfit)
    setDocument n edited
    return .done
  | .delete start stop => do
    setDocument n (← orFault .range (d.delete start stop))
    return .done
  | .setText text => do
    setDocument n { d with text }
    return .done
  | .setFile file => do
    setDocument n { d with file }
    return .done
  | _ => throw .nothing

/-- A request about decorations. -/
def aboutDecorations (n : Nat) (request : Request) : Action Answer := do
  match request with
  | .decorate offset text style => do
    let (d, number) ← orFault .range ((← document n).decorate offset text style)
    setDocument n d
    return .number (← handle ⟨n, number⟩)
  | .remove number => do
    let w ← get
    let mark ← orNothing w.handles[number]?
    set { w with documents := w.documents.remove n mark }
    return .done
  | .handles => do
    let w ← get
    return .decorations (w.handles.filterMap w.documents.decoration?)
  | _ => throw .nothing

/-- A request about saves. -/
def aboutSaves (make : Make) (n : Nat) (request : Request) : Action Answer := do
  match request with
  | .save => do
    save make n
    return .done
  | .subscribe name actions => do
    setDocument n ((← document n).subscribe (.callback name))
    let w ← get
    let callbacks :=
      if (w.callbacks.lookup name).isSome then w.callbacks else w.callbacks ++ [(name, actions)]
    set { w with callbacks, subscriptions := w.subscriptions ++ [(n, Listener.callback name)] }
    return .number w.subscriptions.length
  | .unsubscribe number => do
    let (n, listener) ← orNothing (← get).subscriptions[number]?
    setDocument n ((← document n).unsubscribe listener)
    return .done
  | .subscriptions => do
    let w ← get
    return .truths (w.subscriptions.map fun (n, listener) =>
      ((w.documents : List Document)[n]?.map (·.listeners.contains listener)).getD false)
  | _ => throw .nothing

/-- A request about annotations. -/
def aboutAnnotations (n : Nat) (request : Request) : Action Answer := do
  match request with
  | .render tables style slot => do
    let batch ← rendered n tables style none
    modify fun w => { w with slots := (slot, batch) :: w.slots }
    return .annotations (← showAll batch)
  | .install slot => do
    installIn 0 n (((← get).slots.lookup slot).getD [])
    return .done
  | .clear | .forget => do
    clearStore 0 n
    return .done
  | .replace tables style failure => do
    let batch ← replaceIn 0 n (rendered n tables style failure)
    return .annotations (← showAll batch)
  | .annotations from? => do
    let s ←
      match from? with
      | none => store 0
      | some m => store (← controller m).store
    return .annotations (← showAll (s.annotations (← document n).id))
  | .size => return .number (← store 0).size
  | _ => throw .nothing

/-- A request about files. -/
def aboutFiles (request : Request) : Action Answer := do
  let host := (← get).host
  let cwd := host.cwd.names
  match request with
  | .putFile path content => do
    setTree (← orFault .tree (host.tree.make cwd (path.absolute host.cwd) content))
    return .done
  | .dropFile path => do
    setTree (← orFault .tree (host.tree.remove cwd path.toText))
    return .done
  | .fileText path => do
    let bytes ← orFault .tree (host.tree.read cwd path.toText)
    return .text (← orFault .bytes (Utf8.decode bytes))
  | .setProgram none => do
    setTree host.withoutPrograms
    return .done
  | .setProgram (some (path, program)) => do
    let tree := host.withoutPrograms
    setTree tree
    setTree (← orFault .tree (tree.make cwd (path.absolute host.cwd) (.program program)))
    return .done
  | _ => throw .nothing

/-- A request about a controller. -/
def aboutMode (make : Make) (n : Nat) (request : Request) : Action Answer := do
  match request with
  | .enable => do
    enable make n
    return .done
  | .disable => do
    disable n
    return .done
  | .toggle => return .mode (← toggle make n)
  | .run => return .outcome (← run make n)
  | .state => return .state (← controller n).on
  | .lastOutcome => return .outcome (← controller n).lastOutcome
  | .assign name value => do
    let c ← controller n
    match (Kept.mk c.settings c.works).assign Settings.assign name value with
    | .ok kept =>
      changeController n fun c => { c with settings := kept.record, works := kept.works }
      return .done
    | .error (.invalid issues) => throw (.invalid issues)
    | .error .computed => throw .computed
    | .error .structural => throw .structural
  | _ => throw .nothing

/-- One step, given how the steps within it are made. -/
def perform (make : Make) (s : Step) : Action Answer :=
  match s.request with
  | .lineCount | .lines | .lineEnd _ | .lineEnds | .annotated _ | .insert .. | .delete ..
  | .setText _ | .setFile _ => aboutText s.document s.request
  | .decorate .. | .remove _ | .handles => aboutDecorations s.document s.request
  | .save | .subscribe .. | .unsubscribe _ | .subscriptions =>
    aboutSaves make s.document s.request
  | .render .. | .install _ | .clear | .forget | .replace .. | .annotations _ | .size =>
    aboutAnnotations s.document s.request
  | .putFile .. | .dropFile _ | .fileText _ | .setProgram .. => aboutFiles s.request
  | .enable | .disable | .toggle | .run | .state | .lastOutcome | .assign .. =>
    aboutMode make s.controller s.request
  | .unfit _ => throw .structural

/-- How many steps may lie within each other. -/
def deepest : Nat := 200

/-- One step, within which at most so many steps lie within each other. -/
def step : Nat → Step → Action Answer
  | 0, _ => throw .endless
  | depth + 1, s => perform (step depth) s

/-! ## Reports -/

/-- All that shows of a step. -/
structure Report where
  /-- The answer. -/
  answer : Except Fault Answer
  /-- The document that the step was about, and the handles of its decorations. -/
  document : Option (Document × List Nat)
  /-- The number of annotations in the shared store. -/
  size : Nat
  /-- The modes of the controllers. -/
  modes : List Bool
  /-- What happened. -/
  trace : Trace

/-- The handles of the decorations of a document. -/
def handlesOf (n : Nat) : List (Nat × Decoration) → Action (List Nat)
  | [] => pure []
  | (number, _) :: rest => do
    let first ← handle ⟨n, number⟩
    return first :: (← handlesOf n rest)

/-- A document and the handles of its decorations. -/
def view (n : Nat) : Action (Document × List Nat) := do
  let d ← document n
  return (d, ← handlesOf n d.attached)

/-- A step of the host, and the state after it. -/
def advance (s : Step) (w : World) : Report × World :=
  let (answer, w) := (step deepest s).run { w with trace := .empty }
  let (seen, w) := (view s.document).run w
  let report : Report :=
    { answer
      document := seen.toOption
      size := (w.stores.head?.map Store.size).getD 0
      modes := w.controllers.map Controller.on
      trace := w.trace }
  (report, w)

/-- Steps of the host in turn. -/
def advanceAll : List Step → World → List Report
  | [], _ => []
  | s :: rest, w =>
    let (report, w) := advance s w
    report :: advanceAll rest w

end Marginalia.Session

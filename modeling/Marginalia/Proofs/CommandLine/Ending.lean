import Marginalia.CommandLine
import Marginalia.Proofs.Session.Recorded

/-!
# How a file is annotated

To annotate a file, a session of one document and one controller is made, and the controller runs
once.  What comes of it is said here without a session: the analysis is made with the settings of
the command, its diagnostics are shown in the file as it was opened, and the messages of the run and
the file are printed by the messenger of the command (`annotateWith_eq`).
-/

namespace Marginalia

namespace Session

/-! ## Printing runs -/

/-- Messages, printed in turn. -/
def printedAll (m : Console.Messenger) (terminal : Bool)
    (messages : List (Console.Level × Text)) : Text :=
  messages.flatMap fun message => m.emit terminal message.1 message.2

theorem printedAll_cons (m : Console.Messenger) (terminal : Bool)
    (message : Console.Level × Text) (rest : List (Console.Level × Text)) :
    printedAll m terminal (message :: rest)
      = m.emit terminal message.1 message.2 ++ printedAll m terminal rest :=
  List.flatMap_cons

/-- The world in which more has been printed. -/
def World.printing (text : Text) (w : World) : World :=
  { w with trace := { w.trace with printed := w.trace.printed ++ text } }

theorem run_sayAll_printed (m : Console.Messenger) (messages : List (Console.Level × Text))
    (w : World) :
    (sayAll (.printed m) messages).run w
      = (.ok (), w.printing (printedAll m w.terminal messages)) := by
  induction messages generalizing w with
  | nil =>
    rw [sayAll, printedAll, List.flatMap_nil, World.printing, List.append_nil]
    rfl
  | cons message rest ih =>
    have hsay : (say (.printed m) message.1 message.2).run w
        = (.ok (), w.printing (m.emit w.terminal message.1 message.2)) := rfl
    rw [sayAll, run_bind_ok hsay, ih, printedAll_cons]
    simp only [World.printing, List.append_assoc]

/-- What is printed and which processes are started in a run by the compiler that ends with an
outcome, and what becomes of the documents. -/
theorem pipeline_printed (make : Make) {w : World} {n : Nat} {c : Controller} {d : Document}
    {file : Path} {unitId : Text} {m : Console.Messenger} {calls : List Launch.Call} {o : Outcome}
    {st : Store} {docs : Documents} {batch : List Annotation}
    (hc : w.controllers[n]? = some c) (hvoice : c.voice = .printed m) (hscript : c.script = [])
    (hd : (w.documents : List Document)[c.document]? = some d) (hfile : sourceFile d = .ok file)
    (hunit : Package.ofFile w.host.tree w.host.cwd file = .ok unitId)
    (hanalyse : Analysis.analyse w.host d unitId c.settings = (calls, .ok o))
    (hst : w.stores[c.store]? = some st)
    (hrender : Store.render (Store.release w.documents c.document (st.annotations d.id))
      c.document c.style o.diagnostics = .ok (docs, batch)) :
    ∃ w', (pipeline make n).run w = (.ok (some o), w') ∧ w'.documents = docs ∧
      w'.trace = { w.trace with
        printed := w.trace.printed ++ printedAll m w.terminal
          ((.info, "Analysing ".toList ++ unitId ++ ['…']) :: verdict c.settings file o)
        calls := w.trace.calls ++ calls.map fun call => (call.words, call.directory) } := by
  let w₁ := w.printing (m.emit w.terminal .info ("Analysing ".toList ++ unitId ++ ['…']))
  have hannounce : (announce c file).run w = (.ok unitId, w₁) := by
    rw [announce, get_bind, orFault_bind, hunit, hvoice]
    rfl
  let w₂ : World := { w₁ with trace := { w₁.trace with
    calls := w.trace.calls ++ calls.map fun call => (call.words, call.directory) } }
  have houtcome : (outcomeOf make n unitId).run w₁ = (.ok o, w₂) := by
    have hd₁ : (w₁.documents : List Document)[c.document]? = some d := hd
    have hc₁ : w₁.controllers[n]? = some c := hc
    have hanalyse₁ : Analysis.analyse w₁.host d unitId c.settings = (calls, .ok o) := hanalyse
    rw [outcomeOf, controller_bind_some hc₁, hscript]
    simp only
    rw [compilerOutcome, document_bind_some hd₁, get_bind, hanalyse₁]
    rfl
  have hreplace := run_replaceIn (w := w₂) hst hd (Documents.shows_of_render hrender)
    ⟨_, run_clearStore hst hd, run_renderIn_ok hrender⟩
  let w₃ : World := { w₂ with
    documents := docs
    stores := w.stores.set c.store (st.keep d.id batch)
    controllers := w.controllers.modify n fun c => { c with lastOutcome := some o } }
  have hc₃ : w₃.controllers[n]? = some { c with lastOutcome := some o } := by
    show (w.controllers.modify n _)[n]? = _
    rw [List.getElem?_modify_eq, hc]
    rfl
  have hconclude : (conclude n c file o).run w₂
      = (.ok (some o), w₃.printing (printedAll m w.terminal (verdict c.settings file o))) := by
    rw [conclude, run_bind_ok hreplace, changeController, modify_bind, hvoice]
    refine (controller_bind_some hc₃ _).trans ?_
    rw [run_bind_ok (run_sayAll_printed m _ _)]
    rfl
  refine ⟨w₃.printing (printedAll m w.terminal (verdict c.settings file o)), ?_, rfl, ?_⟩
  · rw [Watched.pipeline_eq, controller_bind_some hc, document_bind_some hd, hfile]
    simp only
    rw [run_bind_ok hannounce, run_bind_ok houtcome, hconclude]
  · rw [printedAll_cons, ← List.append_assoc]
    rfl

end Session

namespace CommandLine

open Session (printedAll verdict)

/-- The session in which a file is annotated. -/
def alone (h : Host) (terminal : Bool) (m : Console.Messenger) (s : Settings) (d : Document) :
    Session.World :=
  .start h terminal [d] [⟨0, false, s, .standard, some (.printed m), []⟩]

/-- How a command ends whose run has ended so. -/
def endingOfRun (terminal : Bool) (m : Console.Messenger) (file : Path) (s : Settings)
    (d : Document) (trace : Session.Trace) (o : Option Outcome) : Except Session.Fault Ending :=
  match problem file s o with
  | some message => .ok (failing m terminal trace message)
  | none => (listing m terminal d).map fun text => ⟨0, some (trace.printed ++ text), trace.calls⟩

theorem annotateWith_of_run {h : Host} {terminal : Bool} {m : Console.Messenger} {file : Path}
    {s : Settings} {d : Document} (hopen : Document.ofFile h.tree h.cwd file = .ok d)
    {result : Except Session.Fault (Option Outcome)} {w : Session.World}
    (hrun : (Session.run (fun _ => throw .nothing) 0).run (alone h terminal m s d) = (result, w)) :
    annotateWith h terminal m file s
      = result.bind (endingOfRun terminal m file s (w.documents.headD d) w.trace) := by
  have hend : annotateWith h terminal m file s =
      let ran := (Session.run (fun _ => throw .nothing) 0).run (alone h terminal m s d)
      ran.1.bind (endingOfRun terminal m file s (ran.2.documents.headD d) ran.2.trace) := by
    rw [annotateWith, hopen]
    rfl
  rw [hend, hrun]

/-- How a command ends whose analysis is known, for the document that its file holds and for the
package of that.  The messages of the analysis are printed first, and behind them the file with the
diagnostics shown in it. -/
def endingOf (terminal : Bool) (m : Console.Messenger) (file : Path) (s : Settings) (d : Document)
    (unitId : Text) :
    List Launch.Call × Except Analysis.Refusal Outcome → Except Session.Fault Ending
  | (_, .error r) => .error (.analysis r)
  | (calls, .ok o) =>
    let shown := Annotation.render 0 "italic yellow".toList o.diagnostics d
    endingOfRun terminal m file s shown.1
      { Session.Trace.empty with
        printed := printedAll m terminal
          ((.info, "Analysing ".toList ++ unitId ++ ['…']) :: verdict s file o)
        calls := calls.map fun call => (call.words, call.directory) }
      (some o)

/-- A source file that can be opened and has a package is annotated with the settings of the
command: they are those of the analysis, whatever comes of it. -/
theorem annotateWith_eq {h : Host} {terminal : Bool} {m : Console.Messenger} {file : Path}
    {s : Settings} {d : Document} {unitId : Text}
    (hopen : Document.ofFile h.tree h.cwd file = .ok d)
    (hsuffix : file.suffix = Diagnostic.sourceSuffix)
    (hunit : Package.ofFile h.tree h.cwd file = .ok unitId) :
    annotateWith h terminal m file s
      = endingOf terminal m file s d unitId (Analysis.analyse h d unitId s) := by
  let c : Session.Controller :=
    Session.Plan.controller 1 ⟨0, false, s, .standard, some (.printed m), []⟩
  let w := alone h terminal m s d
  have hc : w.controllers[0]? = some c := rfl
  have hfile : Session.sourceFile d = .ok file := by
    refine Session.sourceFile_ok ?_ hsuffix
    rw [Document.ofFile] at hopen
    split at hopen
    · cases hopen
      rfl
    · cases hopen
  cases hanalyse : Analysis.analyse h d unitId s with
  | mk calls result =>
    cases result with
    | error r =>
      have hrun : ((Session.run (fun _ => throw .nothing) 0).run w).1 = .error (.analysis r) :=
        Session.run_of_analysis _ hc rfl hfile rfl rfl hunit (congrArg Prod.snd hanalyse)
      rw [annotateWith_of_run hopen (Prod.ext hrun rfl)]
      rfl
    | ok o =>
      have hlook : Style.standard.toText? = some "italic yellow".toList := by decide
      let shown := Annotation.render 0 "italic yellow".toList o.diagnostics d
      have hrender : Store.render [d] 0 .standard o.diagnostics = .ok ([shown.1], shown.2) := by
        rw [Store.render]
        simp only [List.getElem?_cons_zero, hlook]
        rfl
      have hbusy : (w.busy 0).controllers[0]? = some { c with running := true } := rfl
      obtain ⟨w', hpipeline, hdocuments, htrace⟩ := Session.pipeline_printed
        (fun _ => throw .nothing) hbusy rfl rfl rfl hfile hunit hanalyse rfl hrender
      have hrun : (Session.run (fun _ => throw .nothing) 0).run w = (.ok (some o), w'.idle 0) := by
        rw [Session.run_of_idle hc rfl, hpipeline]
      have hidle : (w'.idle 0).documents = w'.documents ∧ (w'.idle 0).trace = w'.trace := ⟨rfl, rfl⟩
      rw [annotateWith_of_run hopen hrun, hidle.1, hidle.2, hdocuments, htrace]
      rfl

end CommandLine

end Marginalia

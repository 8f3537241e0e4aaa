import Marginalia.Proofs.Analysis.Shapes
import Marginalia.Proofs.Session.Guard
import Marginalia.Proofs.Session.Run

/-!
# Recorded refusals

A refusal to start the compiler is recorded in the outcome and stops nothing.  There is one
exception: if the character that ends every word stands in the command or in the path of the
directory, and the program is found all the same, the command stops inside, and the analysis and the
run it belongs to fail.

The main statement is `refusals_are_recorded`, for analyses and for runs.  The name of a module may
hold that character, so a manifest is enough to make a run fail (`ended_module_fails`).
-/

namespace Marginalia

/-! ## Analyses -/

/-- What the compiler writes about a document can be read. -/
def Analysis.Readable (h : Host) (file : Path) (unitId : Text) (s : Settings) : Prop :=
  ∀ program, Launch.Launches h (s.command unitId) file.parent program →
    ∀ line ∈ Text.splitLines program.text, Report.Readable h.cwd file s.allowList line

/-- An outcome tells of the program that was launched for a document, or of the refusal of the
system to start one. -/
structure Outcome.TellsOf (h : Host) (file : Path) (unitId : Text) (s : Settings) (o : Outcome) :
    Prop where
  unitId_eq : o.unitId = unitId
  command_eq : o.command = s.command unitId
  shape : (∃ program, Launch.Launches h (s.command unitId) file.parent program ∧
      o.Started (Report.aliases h.cwd file) s.allowList program) ∨
    (∀ program, ¬ Launch.Launches h (s.command unitId) file.parent program) ∧
      ∃ r, (Launch.run h (s.command unitId) (some file.parent)).2 = .error r ∧ r.OfSystem ∧
        o.NotStarted r

namespace Analysis

section
variable {h : Host} {d : Document} {file : Path} {unitId : Text} {s : Settings}

/-- The command for a package stops inside if its compiler is found, or its path given, and the
ending character stands in the name of the package or in one of the two paths. -/
theorem stopsInside_command_iff {directory : Path} :
    Launch.StopsInside h (s.command unitId) directory ↔
      (∃ located, Launch.locate h (s.command unitId) = .ok located) ∧
        ('\u0000' ∈ s.goBinary ∨ '\u0000' ∈ unitId ∨ '\u0000' ∈ directory.toText) := by
  have hflags : '\u0000' ∉ s.flags := by
    rw [Settings.flags, Settings.flagsFor]
    split
    · decide
    · decide
  have hwords : (∃ word ∈ s.command unitId, ¬ Launch.IsUnended word) ↔
      '\u0000' ∈ s.goBinary ∨ '\u0000' ∈ unitId := by
    simp [Settings.command, Settings.scopedTo, Launch.IsUnended, hflags]
  rw [Launch.stopsInside_iff, hwords, or_assoc, Launch.IsUnended, Classical.not_not]

theorem analyse_of_stopsInside (hfile : d.file = some file)
    (hinside : Launch.StopsInside h (s.command unitId) file.parent) :
    (analyse h d unitId s).2 = .error .endsInside := by
  obtain ⟨path, hrun⟩ := Launch.run_of_stopsInside hinside
  rw [analyse_eq hfile, hrun]
  rfl

theorem exists_tellsOf (hfile : d.file = some file)
    (hinside : ¬ Launch.StopsInside h (s.command unitId) file.parent)
    (hread : Readable h file unitId s) :
    ∃ o, (analyse h d unitId s).2 = .ok o ∧ o.TellsOf h file unitId s := by
  by_cases hlaunches : ∃ program, Launch.Launches h (s.command unitId) file.parent program
  · obtain ⟨program, hprogram⟩ := hlaunches
    obtain ⟨o, hanalyse, hunit, hcommand, hstarted⟩ :=
      exists_started hfile hprogram (hread program hprogram)
    exact ⟨o, hanalyse, hunit, hcommand, .inl ⟨program, hprogram, hstarted⟩⟩
  · have hnone := not_exists.mp hlaunches
    obtain ⟨r, o, hrun, hsystem, hanalyse, hunit, hcommand, hnot⟩ :=
      exists_notStarted hfile hinside hnone
    exact ⟨o, hanalyse, hunit, hcommand, .inr ⟨hnone, r, hrun, hsystem, hnot⟩⟩

end

end Analysis

/-! ## Runs -/

/-- Nothing is shown in a style that cannot be said in words, as long as there is nothing to
show. -/
theorem Store.exists_render (docs : Documents) (n : Nat) {style : Style} {xs : List Diagnostic}
    (h : style.toText?.isSome ∨ xs = []) :
    ∃ docs' batch, Store.render docs n style xs = .ok (docs', batch) := by
  rw [Store.render]
  cases (docs : List Document)[n]? with
  | none => exact ⟨_, _, rfl⟩
  | some d =>
    cases hlook : style.toText? with
    | some look => exact ⟨_, _, rfl⟩
    | none =>
      have hnil : xs = [] := by simpa [hlook] using h
      subst hnil
      exact ⟨_, _, rfl⟩

namespace Session

theorem file_of_sourceFile {d : Document} {file : Path} (hfile : sourceFile d = .ok file) :
    d.file = some file := by
  rw [sourceFile] at hfile
  cases hd : d.file with
  | none =>
    rw [hd] at hfile
    cases hfile
  | some path =>
    simp only [hd] at hfile
    split at hfile
    · cases hfile
      rfl
    · cases hfile

section
variable (make : Make) {w : World} {n : Nat} {c : Controller} {d : Document} {file : Path}
  {unitId : Text} (hc : w.controllers[n]? = some c)
  (hd : (w.documents : List Document)[c.document]? = some d) (hfile : sourceFile d = .ok file)

theorem run_announce (c : Controller)
    (hunit : Package.ofFile w.host.tree w.host.cwd file = .ok unitId) :
    ∃ v, (announce c file).run w = (.ok unitId, v) ∧ Unaltered w v ∧
      v.controllers = w.controllers := by
  obtain ⟨v, hsay, hsame, hcontrollers⟩ := run_say c.voice .info
    ("Analysing ".toList ++ unitId ++ ['…']) w
  refine ⟨v, ?_, hsame, hcontrollers⟩
  rw [announce, get_bind, orFault_bind, hunit]
  exact run_bind_ok hsay _

include hc hd hfile

/-- A run ends if the tree does not say which package its document is in. -/
theorem pipeline_of_unpackaged {r : FileTree.Refusal}
    (hrefused : Package.ofFile w.host.tree w.host.cwd file = .error r) :
    (pipeline make n).run w = (.error (.tree r), w) := by
  have hannounce : (announce c file).run w = (.error (.tree r), w) := by
    rw [announce, get_bind, orFault_bind, hrefused]
  rw [Watched.pipeline_eq, controller_bind_some hc, document_bind_some hd, hfile]
  exact run_bind_error hannounce _

/-- A run ends if the analysis of its compiler fails. -/
theorem pipeline_of_analysis (hscript : c.script = [])
    (hunit : Package.ofFile w.host.tree w.host.cwd file = .ok unitId) {r : Analysis.Refusal}
    (hrefused : (Analysis.analyse w.host d unitId c.settings).2 = .error r) :
    ∃ w', (pipeline make n).run w = (.error (.analysis r), w') := by
  obtain ⟨v, hannounce, hsame, hcontrollers⟩ := run_announce c hunit
  have houtcome : ∃ w', (outcomeOf make n unitId).run v = (.error (.analysis r), w') := by
    rw [outcomeOf, controller_bind_some (hcontrollers ▸ hc), hscript]
    simp only
    rw [compilerOutcome, document_bind_some (hsame.documents ▸ hd), get_bind, hsame.host]
    cases hanalyse : Analysis.analyse w.host d unitId c.settings with
    | mk calls result =>
      rw [hanalyse] at hrefused
      cases hrefused
      exact ⟨_, rfl⟩
  obtain ⟨w', houtcome⟩ := houtcome
  refine ⟨w', pipeline_of_failed make hc hd hfile hunit ?_⟩
  rw [World.after, hannounce]
  exact houtcome

theorem run_of_analysis (hidle : c.running = false) (hscript : c.script = [])
    (hunit : Package.ofFile w.host.tree w.host.cwd file = .ok unitId) {r : Analysis.Refusal}
    (hrefused : (Analysis.analyse w.host d unitId c.settings).2 = .error r) :
    ((run make n).run w).1 = .error (.analysis r) := by
  obtain ⟨w', hpipeline⟩ :=
    pipeline_of_analysis make (busy_self hc) hd hfile hscript hunit hrefused
  rw [run_of_idle hc hidle, hpipeline]

end

/-! ## The main statement -/

/-- A refusal of the system to start the compiler is recorded, whatever refuses.  A command that
stops inside is the only one that makes an analysis of a report that can be read fail, and with the
package of the document it decides whether a run by the compiler fails. -/
theorem refusals_are_recorded (h : Host) (d : Document) (s : Settings) :
    -- analyses
    (∀ (file : Path) (unitId : Text), d.file = some file →
      (Launch.StopsInside h (s.command unitId) file.parent ↔
        (∃ located, Launch.locate h (s.command unitId) = .ok located) ∧
          ('\u0000' ∈ s.goBinary ∨ '\u0000' ∈ unitId ∨ '\u0000' ∈ file.parent.toText)) ∧
      (Launch.StopsInside h (s.command unitId) file.parent →
        (Analysis.analyse h d unitId s).2 = .error .endsInside) ∧
      (¬ Launch.StopsInside h (s.command unitId) file.parent →
        Analysis.Readable h file unitId s →
        ∃ o, (Analysis.analyse h d unitId s).2 = .ok o ∧ o.TellsOf h file unitId s)) ∧
    -- runs
    ∀ (make : Make) (w : World) (n : Nat) (c : Controller) (st : Store), w.host = h →
      w.controllers[n]? = some c → c.settings = s → c.running = false → c.script = [] →
      (w.documents : List Document)[c.document]? = some d → w.stores[c.store]? = some st →
      (∀ unfit, sourceFile d = .error unfit → ((run make n).run w).1 = .ok none) ∧
      ∀ file, sourceFile d = .ok file →
        (∀ r, Package.ofFile h.tree h.cwd file = .error r →
          ((run make n).run w).1 = .error (.tree r)) ∧
        ∀ unitId, Package.ofFile h.tree h.cwd file = .ok unitId →
          (Launch.StopsInside h (s.command unitId) file.parent →
            ((run make n).run w).1 = .error (.analysis .endsInside)) ∧
          (¬ Launch.StopsInside h (s.command unitId) file.parent →
            Analysis.Readable h file unitId s →
            (c.style.toText?.isSome ∨ ∀ program,
              ¬ Launch.Launches h (s.command unitId) file.parent program) →
            ∃ o, ((run make n).run w).1 = .ok (some o) ∧ o.TellsOf h file unitId s) := by
  refine ⟨fun file unitId hfile => ⟨Analysis.stopsInside_command_iff,
    Analysis.analyse_of_stopsInside hfile, Analysis.exists_tellsOf hfile⟩, ?_⟩
  rintro make w n c st rfl hc rfl hidle hscript hd hst
  have hbusy := busy_self hc
  refine ⟨fun unfit hunfit => ?_, fun file hfile => ⟨fun r hrefused => ?_, fun unitId hunit =>
    ⟨fun hinside => ?_, fun hinside hread hlook => ?_⟩⟩⟩
  · obtain ⟨trace, hpipeline⟩ := pipeline_of_unfit make hbusy hd hunfit
    rw [run_of_idle hc hidle, hpipeline]
  · rw [run_of_idle hc hidle, pipeline_of_unpackaged make hbusy hd hfile hrefused]
  · exact run_of_analysis make hc hd hfile hidle hscript hunit
      (Analysis.analyse_of_stopsInside (file_of_sourceFile hfile) hinside)
  · obtain ⟨o, hanalyse, htells⟩ :=
      Analysis.exists_tellsOf (file_of_sourceFile hfile) hinside hread
    have hreturns : Returns w c unitId o := by
      rw [Returns, hscript]
      exact ⟨d, hd, hanalyse⟩
    have hshown : c.style.toText?.isSome ∨ o.diagnostics = [] := by
      refine hlook.imp_right fun hnone => ?_
      rcases htells.shape with ⟨program, hprogram, -⟩ | ⟨-, r, -, -, hnot⟩
      · exact absurd hprogram (hnone program)
      · exact hnot.diagnostics
    obtain ⟨docs, batch, hrender⟩ := Store.exists_render
      (Store.release w.documents c.document (st.annotations d.id)) c.document hshown
    obtain ⟨w', hrun, -⟩ := run_run make hc hidle hd hfile hunit hreturns hst hrender
    exact ⟨o, by rw [hrun], htells⟩

/-- A session in a module whose name holds the ending character, with a compiler at `/g`. -/
def endedModule (goBinary : Text) : World :=
  let tree : FileTree := ⟨[([['w']], .directory),
    ([['w'], "go.mod".toList], .file ⟨Utf8.encode "module a\u0000b\n".toList, .plain, none⟩),
    ([['g']], .file ⟨[], .program, some Analysis.killedCompiler⟩)]⟩
  .start ⟨tree, ⟨.top, [['w']]⟩, []⟩ false
    [.ofText ['d'] (some ⟨.here, ["a.go".toList]⟩) "a\nb\n".toList]
    [⟨0, false, { Settings.standard with goBinary }, .standard, some .recorded, []⟩]

theorem package_endedModule (goBinary : Text) :
    Package.ofFile (endedModule goBinary).host.tree (endedModule goBinary).host.cwd
      ⟨.here, ["a.go".toList]⟩ = .ok "a\u0000b".toList := by
  show Package.ofFile (endedModule []).host.tree (endedModule []).host.cwd _ = _
  decide +kernel

theorem refusals_are_recorded_of_missingCompiler :
    ∃ o, ((run (step 3) 0).run (endedModule "go".toList)).1 = .ok (some o) ∧ o.status = none ∧
      o.error = some "Executable 'go' was not found on PATH".toList ∧ o.diagnostics = [] := by
  let w := endedModule "go".toList
  let settings : Settings := { Settings.standard with goBinary := "go".toList }
  have hlocate : Launch.locate w.host (settings.command "a\u0000b".toList)
      = .error (.notFound "go".toList) := by decide +kernel
  have hnone : ∀ program,
      ¬ Launch.Launches w.host (settings.command "a\u0000b".toList) ⟨.here, []⟩ program := by
    rintro program ⟨⟨located, _, hlocated, _⟩, _⟩
    rw [hlocate] at hlocated
    cases hlocated
  have hinside : ¬ Launch.StopsInside w.host (settings.command "a\u0000b".toList) ⟨.here, []⟩ := by
    rintro ⟨located, hlocated, _⟩
    rw [hlocate] at hlocated
    cases hlocated
  let d : Document := .ofText ['d'] (some ⟨.here, ["a.go".toList]⟩) "a\nb\n".toList
  obtain ⟨-, hruns⟩ := refusals_are_recorded w.host d settings
  obtain ⟨-, hfile⟩ := hruns (step 3) w 0 _ _ rfl rfl rfl rfl rfl rfl rfl
  obtain ⟨-, hunit⟩ := hfile ⟨.here, ["a.go".toList]⟩ rfl
  obtain ⟨-, hrecorded⟩ := hunit _ (package_endedModule _)
  obtain ⟨o, hrun, htells⟩ := hrecorded hinside
    (fun program hprogram => absurd hprogram (hnone program)) (.inr hnone)
  rcases htells.shape with ⟨program, hprogram, -⟩ | ⟨-, r, hr, -, hnot⟩
  · exact absurd hprogram (hnone program)
  · have hr : (Launch.run w.host (settings.command "a\u0000b".toList) (some ⟨.here, []⟩)).2
        = .error r := hr
    rw [Launch.run, hlocate] at hr
    cases hr
    exact ⟨o, hrun, hnot.status, hnot.error, hnot.diagnostics⟩

/-- A module whose name holds the ending character makes the analysis and the run fail, though the
compiler is there. -/
theorem ended_module_fails :
    let w := endedModule ['/', 'g']
    let settings : Settings := { Settings.standard with goBinary := ['/', 'g'] }
    let file : Path := ⟨.here, ["a.go".toList]⟩
    Package.ofFile w.host.tree w.host.cwd file = .ok "a\u0000b".toList ∧
      Launch.Starts w.host (settings.command "a\u0000b".toList) file.parent
        Analysis.killedCompiler ∧
      (∃ d, (w.documents : List Document)[0]? = some d ∧
        (Analysis.analyse w.host d "a\u0000b".toList settings).2 = .error .endsInside) ∧
      ((run (step 3) 0).run w).1 = .error (.analysis .endsInside) := by
  intro w settings file
  have hanalyse : (Analysis.analyse w.host
      (.ofText ['d'] (some file) "a\nb\n".toList) "a\u0000b".toList settings).2
      = .error .endsInside := by decide +kernel
  refine ⟨package_endedModule _, ⟨_, _, rfl, rfl, by decide, rfl⟩, ⟨_, rfl, hanalyse⟩, ?_⟩
  exact run_of_analysis (step 3) rfl rfl rfl rfl rfl (package_endedModule _) hanalyse

end Session

end Marginalia

import Marginalia.Analysis
import Marginalia.Proofs.Launch.Started
import Marginalia.Proofs.Report.Written

/-!
# The two shapes of an outcome

An outcome tells either of a program that was started (`Outcome.Started`) or of a refusal to start
one (`Outcome.NotStarted`).  What a started program reports is read as a whole, whatever status the
program ends with.

`analyse_has_shape` is the main statement.  The fields of an outcome are assigned one after another
and each is checked again as it is assigned; the checks change nothing (`Outcome.assign_started`).
-/

namespace Marginalia

/-! ## Shapes -/

namespace Outcome

/-- The outcome of a program that was started, for the document with these names. -/
structure Started (names wanted : List Text) (program : Program) (o : Outcome) : Prop where
  /-- The status is that of the program. -/
  status : o.status = some program.status
  /-- There is no error. -/
  error : o.error = none
  /-- The output is what the program wrote, cut into lines. -/
  output : o.output = Text.splitLines program.text
  /-- The diagnostics are those of all that the program wrote. -/
  diagnostics :
    Report.parse names wanted (Report.Output.text program.text).toLines = .ok o.diagnostics

/-- The outcome of a command that was not started. -/
structure NotStarted (r : Launch.Refusal) (o : Outcome) : Prop where
  /-- There is no status. -/
  status : o.status = none
  /-- The error is the refusal in words. -/
  error : o.error = some r.message
  /-- There is no output. -/
  output : o.output = []
  /-- There are no diagnostics. -/
  diagnostics : o.diagnostics = []

theorem Started.spawned {names wanted : List Text} {program : Program} {o : Outcome}
    (ho : o.Started names wanted program) : o.spawned = true := by
  rw [Outcome.spawned, ho.status, Option.isSome_some]

theorem NotStarted.spawned {r : Launch.Refusal} {o : Outcome} (ho : o.NotStarted r) :
    o.spawned = false := by
  rw [Outcome.spawned, ho.status, Option.isSome_none]

/-! ## Filling in an outcome -/

theorem items_toFields {xs : List Diagnostic} (hvalid : ∀ x ∈ xs, x.IsValid) (n : Nat) :
    Checked.items Diagnostic.ofValue n (xs.map fun x => .table x.toFields) = .ok xs := by
  induction xs generalizing n with
  | nil => rfl
  | cons x xs ih =>
    have hx : Diagnostic.ofValue (.table x.toFields) = .ok x := by
      rw [Diagnostic.ofValue, Diagnostic.ofFields_toFields,
        Diagnostic.isValid_iff.mp (hvalid x List.mem_cons_self)]
    rw [List.map_cons, Checked.items, hx, ih fun y hy => hvalid y (List.mem_cons_of_mem _ hy)]
    rfl

/-- Status, output and diagnostics may as well be assigned one after another as values. -/
theorem assign_started (o : Outcome) (status : Int) (text : Text) {xs : List Diagnostic}
    (hvalid : ∀ x ∈ xs, x.IsValid) :
    (do
      let o ← o.assign "returncode".toList (.integer status)
      let o ← o.assign "output".toList (.text text)
      o.assign "diagnostics".toList (.list (xs.map fun x => .table (Diagnostic.toFields x))))
      = .ok { o with
          status := some status
          output := Text.splitLines text
          diagnostics := xs } := by
  have hdiagnostics : diagnosticsOf (.list (xs.map fun x => .table x.toFields)) = .ok xs :=
    items_toFields hvalid 0
  simp only [assign, bind, Except.bind, hdiagnostics]
  rfl

end Outcome

/-! ## Analyses -/

namespace Analysis

section
variable {h : Host} {d : Document} {file : Path} {unitId : Text} {s : Settings}

theorem analyse_eq (hfile : d.file = some file) :
    (analyse h d unitId s).2 =
      match (Launch.run h (s.command unitId) (some file.parent)).2 with
      | .error r => notStarted (.begun unitId (s.command unitId)) r
      | .ok c => completed (.begun unitId (s.command unitId)) h.cwd file s.allowList c := by
  cases d
  cases hfile
  rfl

/-- An analysis whose command launches a program goes on with what the program did. -/
theorem analyse_of_launches (hfile : d.file = some file) {program : Program}
    (hlaunches : Launch.Launches h (s.command unitId) file.parent program) :
    (analyse h d unitId s).2 = completed (.begun unitId (s.command unitId)) h.cwd file s.allowList
      ⟨program.status, program.text⟩ := by
  rw [analyse_eq hfile, Launch.run_eq_ok_iff_launches.mpr ⟨program, hlaunches, rfl⟩]

/-- An analysis whose command starts a program goes on with what the program did. -/
theorem analyse_eq_completed (hfile : d.file = some file)
    (hwords : ∀ word ∈ s.command unitId, Launch.IsUnended word) {program : Program}
    (hstarts : Launch.Starts h (s.command unitId) file.parent program) :
    (analyse h d unitId s).2 = completed (.begun unitId (s.command unitId)) h.cwd file s.allowList
      ⟨program.status, program.text⟩ :=
  analyse_of_launches hfile (hstarts.launches hwords)

theorem notStarted_of_ofSystem (o : Outcome) {r : Launch.Refusal} (hr : r.OfSystem) :
    notStarted o r = .ok { o with error := some r.message } := by
  unfold notStarted
  split
  · exact absurd rfl hr
  · rfl

/-- What is written by a program that was launched is read, whatever status the program ends
with. -/
theorem exists_started (hfile : d.file = some file) {program : Program}
    (hlaunches : Launch.Launches h (s.command unitId) file.parent program)
    (hread : ∀ line ∈ Text.splitLines program.text,
      Report.Readable h.cwd file s.allowList line) :
    ∃ o, (analyse h d unitId s).2 = .ok o ∧ o.unitId = unitId ∧ o.command = s.command unitId ∧
      o.Started (Report.aliases h.cwd file) s.allowList program := by
  obtain ⟨xs, hparse, -⟩ := Report.parse_collected hread
  rw [analyse_of_launches hfile hlaunches]
  simp only [completed, hparse]
  exact ⟨_, rfl, rfl, rfl, rfl, rfl, rfl, hparse⟩

/-- A refusal to start a command that does not stop inside is recorded. -/
theorem exists_notStarted (hfile : d.file = some file)
    (hinside : ¬ Launch.StopsInside h (s.command unitId) file.parent)
    (hnone : ∀ program, ¬ Launch.Launches h (s.command unitId) file.parent program) :
    ∃ r o, (Launch.run h (s.command unitId) (some file.parent)).2 = .error r ∧ r.OfSystem ∧
      (analyse h d unitId s).2 = .ok o ∧ o.unitId = unitId ∧ o.command = s.command unitId ∧
      o.NotStarted r := by
  rw [analyse_eq hfile]
  cases hrun : (Launch.run h (s.command unitId) (some file.parent)).2 with
  | ok c =>
    obtain ⟨program, hprogram, -⟩ := Launch.run_eq_ok_iff_launches.mp hrun
    exact absurd hprogram (hnone program)
  | error r =>
    have hsystem := Launch.ofSystem_of_not_stopsInside (List.cons_ne_nil _ _) hinside hrun
    exact ⟨r, _, rfl, hsystem, notStarted_of_ofSystem _ hsystem, rfl, rfl, rfl, rfl, rfl, rfl⟩

/-- What is written by a program that was started is read, whatever status the program ends with. -/
theorem analyse_of_starts (hfile : d.file = some file)
    (hwords : ∀ word ∈ s.command unitId, Launch.IsUnended word) {program : Program}
    (hstarts : Launch.Starts h (s.command unitId) file.parent program)
    (hread : ∀ line ∈ Text.splitLines program.text,
      Report.Readable h.cwd file s.allowList line) :
    ∃ o, (analyse h d unitId s).2 = .ok o ∧ o.unitId = unitId ∧ o.command = s.command unitId ∧
      o.Started (Report.aliases h.cwd file) s.allowList program :=
  exists_started hfile (hstarts.launches hwords) hread

theorem analyse_of_not_starts (hfile : d.file = some file)
    (hpath : Launch.IsUnended file.toText)
    (hwords : ∀ word ∈ s.command unitId, Launch.IsUnended word)
    (hstarts : ∀ program, ¬ Launch.Starts h (s.command unitId) file.parent program) :
    ∃ r o, (Launch.run h (s.command unitId) (some file.parent)).2 = .error r ∧ r.OfSystem ∧
      (analyse h d unitId s).2 = .ok o ∧ o.unitId = unitId ∧ o.command = s.command unitId ∧
      o.NotStarted r := by
  have hdirectory := Path.notMem_parent_toText (by decide) (by decide) hpath
  exact exists_notStarted hfile (Launch.not_stopsInside_of_words hwords hdirectory)
    fun program hprogram => hstarts program hprogram.1

/-- An analysis has an outcome of one of two shapes.  Either the command starts a program, and the
outcome has its status, what it wrote and the diagnostics of all that; or it starts none, and the
outcome has nothing but the error of the system.  A program that writes the same but ends with
another status gives the same diagnostics. -/
theorem analyse_has_shape (hfile : d.file = some file) (hpath : Launch.IsUnended file.toText)
    (hwords : ∀ word ∈ s.command unitId, Launch.IsUnended word)
    (hread : ∀ program, Launch.Starts h (s.command unitId) file.parent program →
      ∀ line ∈ Text.splitLines program.text, Report.Readable h.cwd file s.allowList line) :
    ∃ o, (analyse h d unitId s).2 = .ok o ∧ o.unitId = unitId ∧ o.command = s.command unitId ∧
      ((∃ program, Launch.Starts h (s.command unitId) file.parent program ∧
          o.Started (Report.aliases h.cwd file) s.allowList program) ∨
        ∃ r, (∀ program, ¬ Launch.Starts h (s.command unitId) file.parent program) ∧
          (Launch.run h (s.command unitId) (some file.parent)).2 = .error r ∧ r.OfSystem ∧
          o.NotStarted r) ∧
      (o.spawned = true ↔ o.error = none) ∧
      ∀ (h' : Host) (program program' : Program), h'.cwd = h.cwd →
        Launch.Starts h (s.command unitId) file.parent program →
        Launch.Starts h' (s.command unitId) file.parent program' →
        program'.output = program.output →
        ∃ o', (analyse h' d unitId s).2 = .ok o' ∧ o'.status = some program'.status ∧
          o'.diagnostics = o.diagnostics := by
  by_cases hstarts : ∃ program, Launch.Starts h (s.command unitId) file.parent program
  · obtain ⟨program, hprogram⟩ := hstarts
    obtain ⟨o, hanalyse, hunit, hcommand, hstarted⟩ :=
      analyse_of_starts hfile hwords hprogram (hread program hprogram)
    refine ⟨o, hanalyse, hunit, hcommand, .inl ⟨program, hprogram, hstarted⟩, ?_, ?_⟩
    · exact iff_of_true hstarted.spawned hstarted.error
    · intro h' p p' hcwd hp hp' houtput
      obtain rfl := hp.unique hprogram
      have htext : p'.text = p.text := by rw [Program.text, Program.text, houtput]
      have hread' : ∀ line ∈ Text.splitLines p'.text,
          Report.Readable h'.cwd file s.allowList line := by
        rw [hcwd, htext]
        exact hread p hp
      obtain ⟨o', hanalyse', -, -, hstarted'⟩ := analyse_of_starts hfile hwords hp' hread'
      have hparse := hstarted'.diagnostics
      rw [hcwd, htext, hstarted.diagnostics] at hparse
      exact ⟨o', hanalyse', hstarted'.status, (Except.ok.inj hparse).symm⟩
  · have hnone := not_exists.mp hstarts
    obtain ⟨r, o, hrun, hsystem, hanalyse, hunit, hcommand, hnot⟩ :=
      analyse_of_not_starts hfile hpath hwords hnone
    refine ⟨o, hanalyse, hunit, hcommand, .inr ⟨r, hnone, hrun, hsystem, hnot⟩, ?_, ?_⟩
    · rw [hnot.spawned, hnot.error]
      exact iff_of_false Bool.false_ne_true (Option.some_ne_none _)
    · intro h' p p' hcwd hp
      exact absurd hp (hnone p)

end

/-- A compiler that writes one diagnostic and is then killed. -/
def killedCompiler : Program :=
  ⟨Utf8.encode "./a.go:2:3: x escapes to heap\n".toList, -9⟩

/-- A host with a directory `/w`, in which it works, and a compiler at `/g` that is killed. -/
def killingHost : Host :=
  ⟨⟨[([['w']], .directory), ([['g']], .file ⟨[], .program, some killedCompiler⟩)]⟩,
    ⟨.top, [['w']]⟩, []⟩

/-- The settings for a compiler at `/g`. -/
def killingSettings : Settings :=
  { Settings.standard with goBinary := ['/', 'g'] }

theorem unended_killingSettings :
    ∀ word ∈ killingSettings.command ['m'], Launch.IsUnended word := by
  decide

theorem starts_killedCompiler :
    Launch.Starts killingHost (killingSettings.command ['m']) ⟨.here, []⟩ killedCompiler :=
  ⟨_, _, rfl, rfl, by decide, rfl⟩

theorem analyse_has_shape_of_killedCompiler :
    let d := Document.ofText ['d'] (some ⟨.here, ["a.go".toList]⟩) []
    ∃ o, (analyse killingHost d ['m'] killingSettings).2 = .ok o ∧ o.spawned = true ∧
      o.error = none ∧ o.status = some (-9) ∧ o.diagnostics
        = [⟨"./a.go".toList, ⟨2, by decide⟩, ⟨3, by decide⟩, "x escapes to heap".toList⟩] := by
  intro d
  have hfile : d.file = some ⟨.here, ["a.go".toList]⟩ := rfl
  have hpath : Launch.IsUnended (Path.toText ⟨.here, ["a.go".toList]⟩) := by decide
  have hlines : Text.splitLines killedCompiler.text = ["./a.go:2:3: x escapes to heap".toList] := by
    decide +kernel
  have hread : ∀ program,
      Launch.Starts killingHost (killingSettings.command ['m']) ⟨.here, []⟩ program →
      ∀ line ∈ Text.splitLines program.text,
        Report.Readable killingHost.cwd ⟨.here, ["a.go".toList]⟩ killingSettings.allowList
          line := by
    intro program hprogram line hline p hp
    cases hprogram.unique starts_killedCompiler
    rw [hlines] at hline
    cases List.mem_singleton.mp hline
    cases Diagnostic.parts?_eq_some_iff.mpr hp.shortest
    exact ⟨by decide, by decide⟩
  obtain ⟨o, hanalyse, -, -, hshape, -⟩ :=
    analyse_has_shape hfile hpath unended_killingSettings hread
  rcases hshape with ⟨program, hprogram, ho⟩ | ⟨-, hnone, -⟩
  · cases hprogram.unique starts_killedCompiler
    refine ⟨o, hanalyse, ho.spawned, ho.error, ho.status, ?_⟩
    have hparse := ho.diagnostics
    rw [show (Report.Output.text killedCompiler.text).toLines = _ from hlines] at hparse
    exact (Except.ok.inj hparse).symm
  · exact absurd starts_killedCompiler (hnone _)

end Analysis

end Marginalia

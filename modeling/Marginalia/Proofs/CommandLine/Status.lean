import Marginalia.Proofs.CommandLine.Precedence
import Marginalia.Proofs.Document.Indexed
import Marginalia.Proofs.Document.Opened

/-!
# The status of a command

A command to annotate a file, without settings files, ought to end with a status: with one if the
file is no source file or the compiler cannot be launched, and with zero otherwise.  Whenever it
ends with a status, it is that one.  But there is no status if the command stumbles (`Stumbles`):
the bytes of the file must be a text even if it is no source file, the tree must say whether there
are settings files and manifests, and on a terminal the name of the file must be marked up well.

The main statement is `annotate_status`; `malformed_file_has_no_status` is a file whose bytes are no
text.
-/

namespace Marginalia

/-- A document is kept in the same file when diagnostics are shown in it. -/
theorem Document.file_render (d : Document) (n : Nat) (look : Text) (xs : List Diagnostic) :
    Document.file ( Annotation.render n look xs d).1 = d.file := by
  rw [ Annotation.render_eq]
  rfl

namespace CommandLine

/-! ## Commands without settings files -/

/-- The settings of a command if no file has a say in them. -/
def ownSettings (a : Annotate) : Settings where
  allowList := if a.allow.isEmpty then Settings.standard.allowList else a.allow
  detailLevel := a.detail.getD Settings.standard.detailLevel
  goBinary := Settings.standard.goBinary
  emoji := a.emoji
  color := a.color

/-- Which files hold settings for a command. -/
def layersOf (h : Host) (a : Annotate) : Except FileTree.Refusal (List Settings.Layer) :=
  Settings.layersAbove h.tree h.cwd (a.root.getD a.file.parent)

section
variable {level? : LevelReading} {h : Host} {words : List Text} {a : Annotate}
  (hcommand : annotate? level? h words = some (.annotate a))

theorem settings_of_untold {r : FileTree.Refusal} (hlayers : layersOf h a = .error r) :
    settings h a = .error (.tree r) := by
  rw [layersOf] at hlayers
  rw [settings, Settings.above, hlayers]
  rfl

include hcommand

theorem settings_of_bare (hlayers : layersOf h a = .ok []) : settings h a = .ok (ownSettings a) := by
  obtain ⟨items, -, hkeeps⟩ := exists_items_of_annotate? hcommand
  have habove : Settings.above h.tree h.cwd (a.root.getD a.file.parent)
      = .ok Settings.standard := by
    rw [layersOf] at hlayers
    rw [Settings.above, hlayers]
    rfl
  rw [settings, habove]
  refine (override_changes hkeeps _).trans (congrArg _ ?_)
  rw [ownSettings, hkeeps.allow_eq, hkeeps.detail_eq, hkeeps.emoji_eq, hkeeps.color_eq]
  rw [Settings.Choice.onto, imposed, hkeeps.goBinary_eq]
  rcases hallow : (choiceOf level? items).allowList with _ | _ | ⟨text, rest⟩
  · rfl
  · exact absurd hallow hkeeps.allow_ne
  · rfl

/-- The file of a command is there and may be read. -/
theorem exists_file_of_annotate? :
    ∃ place f, h.tree.locate h.cwd.names a.file.toText = .ok (place, .file f) ∧
      f.mode.readable = true := by
  obtain ⟨word, hword⟩ : ∃ word, file? h word = some a.file := by
    rw [annotate?_eq, Option.bind_eq_some_iff] at hcommand
    obtain ⟨g, -, hcommand⟩ := hcommand
    split at hcommand
    · simp only [Option.bind_eq_some_iff] at hcommand
      obtain ⟨file, hfile, detail, -, root, -, hcommand⟩ := hcommand
      cases hcommand
      exact ⟨_, hfile⟩
    · cases hcommand
  simp only [file?] at hword
  split at hword
  · next place f hlocate =>
    split at hword
    · next hmode =>
      rw [Option.some.inj hword] at hlocate
      exact ⟨place, f, hlocate, hmode⟩
    · cases hword
  · cases hword

end

/-! ## Annotating a file -/

section
variable {h : Host} {terminal : Bool} {m : Console.Messenger} {file : Path} {s : Settings}
  {d : Document}

/-- A document that was opened from a file is kept there, and has its text. -/
theorem file_of_ofFile (hopen : Document.ofFile h.tree h.cwd file = .ok d) :
    d.file = some file := by
  rw [Document.ofFile] at hopen
  split at hopen
  · cases hopen
    rfl
  · cases hopen

/-- The rows of a file are printed behind its heading. -/
theorem listing_eq : listing m terminal d =
    match m.heading terminal ((d.file.map Path.name).getD d.id) with
    | .ok title =>
      .ok (title ++ rows m terminal (Text.ofNat d.lineCount).length d.rows)
    | .error r => .error (.markup r) := by
  have hnumbered : (Indexed.numbered.run (Indexed.ofDocument d)).1 = .ok (d.lineCount, d.rows) :=
    (Indexed.gives_numbered (Indexed.sound_ofDocument d)).answer
  rw [listing, hnumbered]
  rfl

theorem annotateWith_of_malformed {bytes : List UInt8} {r : Utf8.Refusal}
    (hread : h.tree.read h.cwd.names file.toText = .ok bytes)
    (hdecode : Utf8.decode bytes = .error r) :
    annotateWith h terminal m file s = .error (.bytes r) := by
  have htext : h.tree.readText h.cwd.names file.toText = .error (.bytes r) := by
    rw [FileTree.readText, hread]
    simp only [hdecode]
  rw [annotateWith, Document.ofFile, htext]
  rfl

/-- A file that is no source file is not analysed. -/
theorem annotateWith_of_unfit (hopen : Document.ofFile h.tree h.cwd file = .ok d)
    (hsuffix : file.suffix ≠ Diagnostic.sourceSuffix) :
    ∃ trace, annotateWith h terminal m file s
      = .ok (failing m terminal trace ("Cannot analyse ".toList ++ file.toText)) := by
  let w := alone h terminal m s d
  have hc : w.controllers[0]?
      = some (Session.Plan.controller 1 ⟨0, false, s, .standard, some (.printed m), []⟩) := rfl
  have hunfit : Session.sourceFile d = .error (.notSource file) := by
    rw [Session.sourceFile, file_of_ofFile hopen]
    exact if_neg hsuffix
  obtain ⟨trace, hpipeline⟩ := Session.pipeline_of_unfit (fun _ => throw .nothing)
    (Session.busy_self hc) rfl hunfit
  refine ⟨trace, ?_⟩
  rw [annotateWith_of_run hopen (Session.run_of_idle hc rfl _), hpipeline]
  rfl

theorem annotateWith_of_unpackaged {r : FileTree.Refusal}
    (hopen : Document.ofFile h.tree h.cwd file = .ok d)
    (hsuffix : file.suffix = Diagnostic.sourceSuffix)
    (hunit : Package.ofFile h.tree h.cwd file = .error r) :
    annotateWith h terminal m file s = .error (.tree r) := by
  let w := alone h terminal m s d
  have hc : w.controllers[0]?
      = some (Session.Plan.controller 1 ⟨0, false, s, .standard, some (.printed m), []⟩) := rfl
  have hfile := Session.sourceFile_ok (file_of_ofFile hopen) hsuffix
  have hpipeline := Session.pipeline_of_unpackaged (fun _ => throw .nothing)
    (Session.busy_self hc) rfl hfile hunit
  rw [annotateWith_of_run hopen (Session.run_of_idle hc rfl _), hpipeline]
  rfl

section
variable {unitId : Text} (hopen : Document.ofFile h.tree h.cwd file = .ok d)
  (hsuffix : file.suffix = Diagnostic.sourceSuffix)
  (hunit : Package.ofFile h.tree h.cwd file = .ok unitId)
  (hinside : ¬ Launch.StopsInside h (s.command unitId) file.parent)
  (hread : Analysis.Readable h file unitId s)
include hopen hsuffix hunit hinside hread

/-- A compiler that is not launched is a failure. -/
theorem annotateWith_of_not_launched
    (hnone : ∀ program, ¬ Launch.Launches h (s.command unitId) file.parent program) :
    ∃ trace message, annotateWith h terminal m file s = .ok (failing m terminal trace message) := by
  obtain ⟨o, hanalyse, htells⟩ := Analysis.exists_tellsOf (file_of_ofFile hopen) hinside hread
  have hspawned : o.spawned = false := by
    rcases htells.shape with ⟨program, hprogram, -⟩ | ⟨-, r, -, -, hnot⟩
    · exact absurd hprogram (hnone program)
    · exact hnot.spawned
  rw [annotateWith_eq hopen hsuffix hunit]
  cases hcalls : Analysis.analyse h d unitId s with
  | mk calls result =>
    rw [hcalls] at hanalyse
    cases hanalyse
    rw [endingOf, endingOfRun, problem, hspawned]
    exact ⟨_, _, rfl⟩

/-- The file is printed once the compiler is launched, whatever it reports and however it ends, if
the heading can be printed. -/
theorem annotateWith_of_launched {program : Program}
    (hprogram : Launch.Launches h (s.command unitId) file.parent program) :
    (∀ r, m.heading terminal file.name = .error r →
      annotateWith h terminal m file s = .error (.markup r)) ∧
    ∀ title, m.heading terminal file.name = .ok title →
      ∃ e, annotateWith h terminal m file s = .ok e ∧ e.status = 0 := by
  have hfile := file_of_ofFile hopen
  obtain ⟨o, hanalyse, htells⟩ := Analysis.exists_tellsOf hfile hinside hread
  have hspawned : o.spawned = true := by
    rcases htells.shape with ⟨_, -, hstarted⟩ | ⟨hnone, -⟩
    · exact hstarted.spawned
    · exact absurd hprogram (hnone program)
  rw [annotateWith_eq hopen hsuffix hunit]
  cases hcalls : Analysis.analyse h d unitId s with
  | mk calls result =>
    rw [hcalls] at hanalyse
    cases hanalyse
    let shown := Annotation.render 0 "italic yellow".toList o.diagnostics d
    have hname : (shown.1.file.map Path.name).getD shown.1.id = file.name := by
      have hshown : shown.1.file = some file := (d.file_render 0 _ _).trans hfile
      rw [hshown]
      rfl
    rw [endingOf, endingOfRun, problem, if_pos hspawned, listing_eq, hname]
    constructor
    · intro r hheading
      rw [hheading]
      rfl
    · intro title hheading
      rw [hheading]
      exact ⟨_, rfl, rfl⟩

end

end

/-! ## Stumbling -/

/-- The compiler is launched for the file of a command. -/
def IsLaunched (h : Host) (a : Annotate) : Prop :=
  ∃ unitId program, Package.ofFile h.tree h.cwd a.file = .ok unitId ∧
    Launch.Launches h ((ownSettings a).command unitId) a.file.parent program

/-- A command fails: its file is no source file, or the compiler is not launched for it. -/
def Fails (h : Host) (a : Annotate) : Prop :=
  a.file.suffix ≠ Diagnostic.sourceSuffix ∨ ¬ IsLaunched h a

/-- A command whose file has these bytes stumbles over a fault, and there is no settings file. -/
inductive Stumbles (h : Host) (terminal : Bool) (a : Annotate) (bytes : List UInt8) :
    Session.Fault → Prop where
  /-- The tree does not say whether there are settings files. -/
  | layers {r} : layersOf h a = .error r → Stumbles h terminal a bytes (.tree r)
  /-- The bytes of the file are no text, whatever the file is called. -/
  | content {r} : layersOf h a = .ok [] → Utf8.decode bytes = .error r →
      Stumbles h terminal a bytes (.bytes r)
  /-- The tree does not say whether there is a manifest for the source file. -/
  | package {text r} : layersOf h a = .ok [] → Utf8.decode bytes = .ok text →
      a.file.suffix = Diagnostic.sourceSuffix → Package.ofFile h.tree h.cwd a.file = .error r →
      Stumbles h terminal a bytes (.tree r)
  /-- The compiler has been launched, but the name of the file is not marked up well. -/
  | title {text r} : layersOf h a = .ok [] → Utf8.decode bytes = .ok text →
      a.file.suffix = Diagnostic.sourceSuffix → IsLaunched h a →
      (messenger a).heading terminal a.file.name = .error r →
      Stumbles h terminal a bytes (.markup r)

/-- What the compiler is asked holds no ending character, and its report can be read. -/
def Answerable (h : Host) (a : Annotate) : Prop :=
  ∀ unitId, Package.ofFile h.tree h.cwd a.file = .ok unitId →
    '\u0000' ∉ unitId ∧ Analysis.Readable h a.file unitId (ownSettings a)

section
variable {level? : LevelReading} {h : Host} {terminal : Bool} {words : List Text} {a : Annotate}
  (hcommand : annotate? level? h words = some (.annotate a))
include hcommand

theorem execute_eq :
    execute h terminal ("annotate".toList :: words) level? = annotate h terminal a := by
  have hnamed : command? level? h ("annotate".toList :: words) = some (.annotate a) := hcommand
  rw [execute, hnamed]

theorem execute_of_bare (hlayers : layersOf h a = .ok []) :
    execute h terminal ("annotate".toList :: words) level?
      = annotateWith h terminal (messenger a) a.file (ownSettings a) := by
  rw [execute_eq hcommand, annotate, settings_of_bare hcommand hlayers]

/-- The command for the package does not stop inside, since the directory of a file that is there
holds no ending character. -/
theorem not_stopsInside {unitId : Text} (hunit : '\u0000' ∉ unitId) :
    ¬ Launch.StopsInside h ((ownSettings a).command unitId) a.file.parent := by
  obtain ⟨place, f, hlocate, -⟩ := exists_file_of_annotate? hcommand
  have hparent : '\u0000' ∉ a.file.parent.toText :=
    Path.notMem_parent_toText (by decide) (by decide) (FileTree.notMem_of_locate hlocate)
  rw [Analysis.stopsInside_command_iff]
  rintro ⟨-, hgo | hends | hdirectory⟩
  · have hstandard : '\u0000' ∉ Settings.standard.goBinary := by decide
    exact hstandard hgo
  · exact hunit hends
  · exact hparent hdirectory

section
variable {bytes : List UInt8} (hread : h.tree.read h.cwd.names a.file.toText = .ok bytes)
  (hanswer : Answerable h a)
include hread hanswer

theorem execute_of_stumbles {fault : Session.Fault} (hstumbles : Stumbles h terminal a bytes fault) :
    execute h terminal ("annotate".toList :: words) level? = .error fault := by
  cases hstumbles with
  | layers hlayers =>
    rw [execute_eq hcommand, annotate, settings_of_untold hlayers]
  | content hlayers hdecode =>
    rw [execute_of_bare hcommand hlayers]
    exact annotateWith_of_malformed hread hdecode
  | package hlayers hdecode hsuffix hunit =>
    rw [execute_of_bare hcommand hlayers]
    exact annotateWith_of_unpackaged (Document.ofFile_eq hread hdecode) hsuffix hunit
  | title hlayers hdecode hsuffix hlaunched hheading =>
    obtain ⟨unitId, program, hunit, hprogram⟩ := hlaunched
    obtain ⟨hends, hreadable⟩ := hanswer unitId hunit
    rw [execute_of_bare hcommand hlayers]
    exact (annotateWith_of_launched (Document.ofFile_eq hread hdecode) hsuffix hunit
      (not_stopsInside hcommand hends) hreadable hprogram).1 _ hheading

/-- A command that stumbles over nothing ends with a status. -/
theorem execute_of_not_stumbles (terminal : Bool)
    (hbare : ∀ layers, layersOf h a = .ok layers → layers = [])
    (hstumbles : ∀ fault, ¬ Stumbles h terminal a bytes fault) :
    ∃ e, execute h terminal ("annotate".toList :: words) level? = .ok e ∧
      (Fails h a ∧ e.status = 1 ∨ ¬ Fails h a ∧ e.status = 0) := by
  obtain ⟨layers, hlayers⟩ : ∃ layers, layersOf h a = .ok layers := by
    cases hlayers : layersOf h a with
    | ok layers => exact ⟨layers, rfl⟩
    | error r => exact absurd (.layers hlayers) (hstumbles _)
  obtain rfl := hbare layers hlayers
  obtain ⟨text, hdecode⟩ : ∃ text, Utf8.decode bytes = .ok text := by
    cases hdecode : Utf8.decode bytes with
    | ok text => exact ⟨text, rfl⟩
    | error r => exact absurd (.content hlayers hdecode) (hstumbles _)
  have hopen := Document.ofFile_eq hread hdecode
  rw [execute_of_bare hcommand hlayers]
  by_cases hsuffix : a.file.suffix = Diagnostic.sourceSuffix
  · obtain ⟨unitId, hunit⟩ : ∃ unitId, Package.ofFile h.tree h.cwd a.file = .ok unitId := by
      cases hunit : Package.ofFile h.tree h.cwd a.file with
      | ok unitId => exact ⟨unitId, rfl⟩
      | error r => exact absurd (.package hlayers hdecode hsuffix hunit) (hstumbles _)
    obtain ⟨hends, hreadable⟩ := hanswer unitId hunit
    have hinside := not_stopsInside hcommand hends
    by_cases hlaunched : IsLaunched h a
    · obtain ⟨title, hheading⟩ : ∃ title, (messenger a).heading terminal a.file.name = .ok title := by
        cases hheading : (messenger a).heading terminal a.file.name with
        | ok title => exact ⟨title, rfl⟩
        | error r => exact absurd (.title hlayers hdecode hsuffix hlaunched hheading) (hstumbles _)
      obtain ⟨unitId', program, hunit', hprogram⟩ := hlaunched
      cases hunit.symm.trans hunit'
      obtain ⟨e, hends, hstatus⟩ :=
        (annotateWith_of_launched hopen hsuffix hunit hinside hreadable hprogram).2 title hheading
      have hlaunched : IsLaunched h a := ⟨unitId, program, hunit, hprogram⟩
      exact ⟨e, hends, .inr ⟨not_or.mpr ⟨not_not.mpr hsuffix, not_not.mpr hlaunched⟩, hstatus⟩⟩
    · obtain ⟨trace, message, hends⟩ := annotateWith_of_not_launched hopen hsuffix hunit hinside
        hreadable fun program hprogram => hlaunched ⟨unitId, program, hunit, hprogram⟩
      exact ⟨_, hends, .inl ⟨.inr hlaunched, rfl⟩⟩
  · obtain ⟨trace, hends⟩ := annotateWith_of_unfit hopen hsuffix
    exact ⟨_, hends, .inl ⟨.inl hsuffix, rfl⟩⟩

end

end

/-! ## The main statement -/

/-- A command to annotate a file, without settings files, ends with a status unless it stumbles, and
it does not end with one if it stumbles.  The status is one exactly if the file is no source file or
the compiler is not launched, and otherwise it is zero: also if the compiler fails, if there is
nothing to report, and if the file is empty. -/
theorem annotate_status {level? : LevelReading} {h : Host} {words : List Text} {a : Annotate}
    (hcommand : annotate? level? h words = some (.annotate a))
    (hbare : ∀ layers, layersOf h a = .ok layers → layers = []) (hanswer : Answerable h a)
    (terminal : Bool) :
    ∃ bytes, h.tree.read h.cwd.names a.file.toText = .ok bytes ∧
      (∀ fault, execute h terminal ("annotate".toList :: words) level? = .error fault ↔
        Stumbles h terminal a bytes fault) ∧
      ∀ e, execute h terminal ("annotate".toList :: words) level? = .ok e →
        (e.status = 0 ∨ e.status = 1) ∧
        (e.status = 1 ↔ a.file.suffix ≠ Diagnostic.sourceSuffix ∨ ¬ IsLaunched h a) := by
  obtain ⟨place, f, hlocate, hmode⟩ := exists_file_of_annotate? hcommand
  have hread : h.tree.read h.cwd.names a.file.toText = .ok f.content := by
    rw [FileTree.read, hlocate]
    exact if_pos hmode
  have hstumbles : ∀ fault, Stumbles h terminal a f.content fault →
      execute h terminal ("annotate".toList :: words) level? = .error fault :=
    fun _ => execute_of_stumbles hcommand hread hanswer
  have hstatus := execute_of_not_stumbles hcommand hread hanswer terminal hbare
  refine ⟨f.content, hread, fun fault => ⟨fun hends => ?_, hstumbles fault⟩, fun e hends => ?_⟩
  · by_contra hnot
    have hnone : ∀ other, ¬ Stumbles h terminal a f.content other := by
      intro other hother
      cases hends.symm.trans (hstumbles other hother)
      exact hnot hother
    obtain ⟨e, hok, -⟩ := hstatus hnone
    cases hends.symm.trans hok
  · have hnone : ∀ fault, ¬ Stumbles h terminal a f.content fault := by
      intro fault hfault
      cases hends.symm.trans (hstumbles fault hfault)
    obtain ⟨e', hok, hcase⟩ := hstatus hnone
    cases hends.symm.trans hok
    rcases hcase with ⟨hfails, hone⟩ | ⟨hfails, hzero⟩
    · exact ⟨.inr hone, iff_of_true hone hfails⟩
    · exact ⟨.inl hzero, iff_of_false (by omega) hfails⟩

/-- A host with one file in its directory, and a compiler that fails without a word. -/
def failingHost (name : Text) (bytes : List UInt8) : Host :=
  ⟨⟨[([['w']], .directory), ([['w'], name], .file ⟨bytes, .plain, none⟩), ([['b']], .directory),
      ([['b'], "go".toList], .file ⟨[], .program, some ⟨[], 2⟩⟩)]⟩,
    ⟨.top, [['w']]⟩, [⟨.top, [['b']]⟩]⟩

/-- The command without options for a file in the directory `/w`. -/
def plainCommand (name : Text) : Annotate :=
  ⟨⟨.top, [['w'], name]⟩, none, [], none, true, true⟩

/-- An empty file is printed, though the compiler fails. -/
theorem annotate_status_of_emptyFile :
    ∃ e, execute (failingHost "a.go".toList []) false (["annotate", "a.go"].map String.toList)
      detail? = .ok e ∧ e.status = 0 := by
  let h := failingHost "a.go".toList []
  let a := plainCommand "a.go".toList
  have hcommand : annotate? detail? h ["a.go".toList] = some (.annotate a) := by decide +kernel
  have hlayers : layersOf h a = .ok [] := eq_ok_of_toOption (by decide +kernel)
  have hunit : Package.ofFile h.tree h.cwd a.file = .ok ['w'] := by decide +kernel
  have hstarts : Launch.Starts h ((ownSettings a).command ['w']) a.file.parent ⟨[], 2⟩ :=
    ⟨_, _, rfl, rfl, by decide, rfl⟩
  have hanswer : Answerable h a := by
    intro unitId hunit'
    cases hunit.symm.trans hunit'
    refine ⟨by decide, fun program hprogram line hline => ?_⟩
    cases hprogram.1.unique hstarts
    have hsilent : Text.splitLines (Program.text ⟨[], 2⟩) = [] := by decide +kernel
    rw [hsilent] at hline
    cases hline
  have hbare : ∀ layers, layersOf h a = .ok layers → layers = [] := by
    intro layers hfound
    cases hlayers.symm.trans hfound
    rfl
  have hlaunched : IsLaunched h a := ⟨_, _, hunit, hstarts.launches (by decide)⟩
  obtain ⟨bytes, hread, hstumbles, hstatus⟩ := annotate_status hcommand hbare hanswer false
  cases hread
  have hdecode : Utf8.decode [] = .ok [] := by decide +kernel
  cases hends : execute h false ("annotate".toList :: ["a.go".toList]) detail? with
  | ok e =>
    obtain ⟨hzero | hone, hfails⟩ := hstatus e hends
    · exact ⟨e, hends, hzero⟩
    · exact absurd hlaunched ((hfails.mp hone).resolve_left (not_not.mpr (by decide)))
  | error fault =>
    cases (hstumbles fault).mp hends with
    | layers h' => cases hlayers.symm.trans h'
    | content _ h' => cases hdecode.symm.trans h'
    | package _ _ _ h' => cases hunit.symm.trans h'
    | title _ _ _ _ h' => cases h'

/-- The command for a file that is no source file does not end with a status if the bytes of the
file are no text. -/
theorem malformed_file_has_no_status :
    let name := "notes.txt".toList
    let h := failingHost name [0xFF]
    let a := plainCommand name
    annotate? detail? h [name] = some (.annotate a) ∧ layersOf h a = .ok [] ∧
      h.tree.read h.cwd.names a.file.toText = .ok [0xFF] ∧
      a.file.suffix ≠ Diagnostic.sourceSuffix ∧
      execute h false ["annotate".toList, name] detail?
        = .error (.bytes ⟨0, 1, 0xFF, .invalidStart⟩) := by
  intro name h a
  have hcommand : annotate? detail? h [name] = some (.annotate a) := by decide +kernel
  have hlayers : layersOf h a = .ok [] := eq_ok_of_toOption (by decide +kernel)
  have hdecode : Utf8.decode [0xFF] = .error ⟨0, 1, 0xFF, .invalidStart⟩ := by decide +kernel
  refine ⟨hcommand, hlayers, rfl, by decide, ?_⟩
  rw [execute_of_bare hcommand hlayers]
  exact annotateWith_of_malformed rfl hdecode

end CommandLine

end Marginalia

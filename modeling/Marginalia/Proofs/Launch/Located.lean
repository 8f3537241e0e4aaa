import Marginalia.Proofs.Launch.Started

/-!
# Programs that are found and programs that are executed

The path that a program is found by is read twice: from the working directory of the host when the
program is looked up, and from the directory of the process when it is executed.  A path from the
top means the same file both times, and a directory of the search path that is given from the top
leads to such a path.  Any other path means the same file only if its names lead to one place from
both directories, and then by accident: `tools/go` is one file in one directory and another file, or
none, in the next (`slash_leads_elsewhere`).

The main statement is `executed_as_found`.  It rests on the names alone deciding where a walk
arrives, if it arrives at all (`eq_follow_of_walk`).
-/

namespace Marginalia

/-! ## Following names -/

namespace Path

/-- The place that names lead to from a place, if nothing is in the way. -/
def follow (place names : List Text) : List Text :=
  names.foldl
    (fun place name =>
      if isIdle name then place
      else if name = ['.', '.'] then place.dropLast
      else place ++ [name])
    place

/-- Names that do not lead back lead from different places to different places. -/
theorem follow_of_notMem {names : List Text} (hnames : ['.', '.'] ∉ names) (place : List Text) :
    follow place names = place ++ names.filter fun name => !isIdle name := by
  induction names generalizing place with
  | nil => exact (List.append_nil place).symm
  | cons name rest ih =>
    obtain ⟨hname, hrest⟩ := List.ne_and_not_mem_of_not_mem_cons hnames
    rw [follow, List.foldl_cons, ← follow, ih hrest, if_neg (Ne.symm hname)]
    cases hidle : isIdle name with
    | true => simp [hidle]
    | false => simp [hidle]

/-- A path leads to one place from two places: it starts from the top, or its names lead there. -/
def ReadsAlike (path : Text) (place other : List Text) : Prop :=
  path.head? = some '/' ∨ follow place (path.splitOn '/') = follow other (path.splitOn '/')

theorem readsAlike_iff_eq {path : Text} (hslash : path.head? ≠ some '/')
    (hdots : ['.', '.'] ∉ path.splitOn '/') {place other : List Text} :
    ReadsAlike path place other ↔ place = other := by
  rw [ReadsAlike, or_iff_right hslash, follow_of_notMem hdots, follow_of_notMem hdots]
  exact List.append_left_inj _

theorem isAbsolute_ofText_iff {s : Text} : (ofText s).isAbsolute = true ↔ s.head? = some '/' := by
  rw [isAbsolute, ofText, bne_iff_ne]
  simp only
  fun_cases Root.ofText s with
  | case1 => simp
  | case2 => simp
  | case3 => simp
  | case4 s _ _ hslash =>
    refine iff_of_false (fun h => h rfl) fun hhead => ?_
    obtain ⟨rest, rfl⟩ := List.head?_eq_some_iff.mp hhead
    exact hslash rest rfl

end Path

namespace FileTree

section
variable {t : FileTree} {start place : List Text}

/-- Where a walk arrives is where its names lead. -/
theorem eq_follow_of_walk {names : List Text} (h : t.walk start names = .ok place) :
    place = Path.follow start names := by
  induction names generalizing start with
  | nil =>
    cases h
    rfl
  | cons name rest ih =>
    rw [walk] at h
    split at h
    · cases h
    · cases h
    · split at h
      · cases h
      · exact ih h

theorem eq_follow_of_locate {path : Text} {node : Node} (hpath : path.head? ≠ some '/')
    (h : t.locate start path = .ok (place, node)) :
    place = Path.follow start (path.splitOn '/') := by
  obtain ⟨hplace, -⟩ := locate_eq_ok_iff.mp h
  rw [placeOf] at hplace
  split at hplace
  · cases hplace
  · split at hplace
    · cases hplace
    · split at hplace
      · cases hplace
      · exact eq_follow_of_walk hplace

end

end FileTree

namespace Launch

/-! ## Files that are run -/

/-- A path leads from a place to a file that may be run. -/
structure LeadsTo (t : FileTree) (start : List Text) (path : Text) (place : List Text) (f : File) :
    Prop where
  located : t.locate start path = .ok (place, .file f)
  executable : f.mode.executable = true

section
variable {t : FileTree} {start place : List Text} {path : Text} {f : File}

theorem exists_leadsTo_of_isProgram {h : Host} (hpath : isProgram h path = true) :
    ∃ place f, LeadsTo h.tree h.cwd.names path place f := by
  unfold isProgram at hpath
  split at hpath
  · next place f hlocate => exact ⟨place, f, hlocate, hpath⟩
  · cases hpath

theorem exists_leadsTo_of_programAt {program : Program}
    (hprogram : programAt t start path = .ok program) :
    ∃ place f, LeadsTo t start path place f := by
  unfold programAt at hprogram
  split at hprogram
  · cases hprogram
  · cases hprogram
  · next place f hlocate =>
    split at hprogram
    · cases hprogram
    · next hexecutable => exact ⟨place, f, hlocate, by simpa using hexecutable⟩

/-- Of a file that is there and may be run, only the reader of its script can be missing. -/
theorem exists_script_of_missing (hleads : LeadsTo t start path place f) {p : Text}
    (hmissing : programAt t start path = .error ⟨.missing, p⟩) :
    f.program = none ∧
      ∃ script, Script.ofBytes? f.content = some script ∧ script.program? path = none := by
  obtain ⟨hlocate, hexecutable⟩ := hleads
  simp only [programAt, hlocate, hexecutable, Bool.not_true, Bool.false_eq_true, if_false]
    at hmissing
  split at hmissing
  · cases hmissing
  · cases hmissing
  · next script hprogram hscript =>
    split at hmissing
    · cases hmissing
    · next hreader => exact ⟨hprogram, script, hscript, hreader⟩

/-- A path leads to the same file from every place if it starts from the top. -/
theorem LeadsTo.of_same {other : List Text} (hsame : path.head? = some '/' ∨ start = other)
    (hleads : LeadsTo t start path place f) : LeadsTo t other path place f := by
  rcases hsame with hslash | rfl
  · exact ⟨(FileTree.locate_of_slash hslash).trans hleads.located, hleads.executable⟩
  · exact hleads

/-- A path leads to one file from two places exactly if it is read alike from them. -/
theorem LeadsTo.eq_iff_readsAlike {start' place' : List Text} {f' : File}
    (hleads : LeadsTo t start path place f) (hleads' : LeadsTo t start' path place' f') :
    place = place' ↔ Path.ReadsAlike path start start' := by
  by_cases hslash : path.head? = some '/'
  · have hsame := (hleads.of_same (.inl hslash)).located.symm.trans hleads'.located
    cases hsame
    exact iff_of_true rfl (.inl hslash)
  · rw [Path.ReadsAlike, or_iff_right hslash,
      FileTree.eq_follow_of_locate hslash hleads.located,
      FileTree.eq_follow_of_locate hslash hleads'.located]

end

section
variable {h : Host} {name path : Text}

/-! ## Finding -/

/-- A name with a slash is a path as it stands.  Any other name is looked up in directories. -/
theorem lookUp_cases (hfound : lookUp h name = some path) :
    ('/' ∈ name ∧ path = name) ∨
      ('/' ∉ name ∧ ∃ directory ∈ h.searchPath, path = inside directory name) := by
  unfold lookUp at hfound
  split at hfound
  · next hslash =>
    split at hfound
    · cases hfound
      exact .inl ⟨List.contains_iff_mem.mp hslash, rfl⟩
    · cases hfound
  · next hslash =>
    obtain ⟨directory, hmem, rfl⟩ := List.mem_map.mp (List.mem_of_find?_eq_some hfound)
    exact .inr ⟨mt List.contains_iff_mem.mpr hslash, directory, hmem, rfl⟩

theorem head?_inside {directory : Path} (habs : directory.isAbsolute = true) (name : Text) :
    (inside directory name).head? = some '/' := by
  unfold inside
  split
  · rw [List.head?_append, Path.head?_toText habs]
    rfl
  · rw [List.head?_append, Path.head?_toText habs]
    rfl

/-! ## Running -/

/-- A process that has ended did what the program does that its first word leads to. -/
theorem exists_program_of_start {call : Call} {c : Completed} (hstart : start h call = .ok c) :
    ∃ place program, startPlace h call.directory = .ok place ∧
      programAt h.tree place (call.words.headD []) = .ok program ∧
      c = ⟨program.status, program.text⟩ := by
  rw [start] at hstart
  split at hstart
  · cases hstart
  · cases hplace : startPlace h call.directory with
    | error r =>
      rw [hplace] at hstart
      cases hstart
    | ok place =>
      simp only [hplace, bind, Except.bind] at hstart
      split at hstart
      · cases hstart
      · cases hprogram : programAt h.tree place (call.words.headD []) with
        | error r =>
          rw [hprogram] at hstart
          cases hstart
        | ok program =>
          rw [hprogram] at hstart
          cases hstart
          exact ⟨place, program, rfl, hprogram, rfl⟩

/-- Where the directory of a process is there, only what its first word leads to can be missing. -/
theorem programAt_of_start_missing {call : Call} {place : List Text} {p : Text}
    (hplace : startPlace h call.directory = .ok place)
    (hstart : start h call = .error ⟨.missing, p⟩) :
    programAt h.tree place (call.words.headD []) = .error ⟨.missing, p⟩ := by
  rw [start] at hstart
  split at hstart
  · cases hstart
  · simp only [hplace, bind, Except.bind] at hstart
    split at hstart
    · cases hstart
    · cases hprogram : programAt h.tree place (call.words.headD []) with
      | error r =>
        rw [hprogram] at hstart
        cases hstart
        rfl
      | ok program =>
        rw [hprogram] at hstart
        cases hstart

theorem run_eq_of_lookUp (hname : (Path.ofText name).isAbsolute = false)
    (hfound : lookUp h name = some path) (rest : List Text) (directory : Option Path) :
    run h (name :: rest) directory =
      ([⟨path :: rest, directory⟩], (start h ⟨path :: rest, directory⟩).mapError .notStarted) := by
  simp only [run, locate, hname, Bool.false_eq_true, if_false, hfound]
  cases start h ⟨path :: rest, directory⟩ with
  | error r => rfl
  | ok c => rfl

end

/-- A command whose first word is no path from the top starts nothing if no program is found for
that word.  Otherwise the path that is found is what is started, and a process that has ended
executed the file that was found exactly if the path is read alike from its directory.  If the
path is from the top, or the directory is that of the host, nothing is missing but the reader of a
script.

A path that is found in a directory given from the top is read alike from everywhere.  A name with a
slash is its own path, and is read alike only in the directory of the host unless it leads back. -/
theorem executed_as_found {h : Host} {name : Text} (hname : (Path.ofText name).isAbsolute = false)
    (rest : List Text) (directory : Option Path) :
    (lookUp h name = none → run h (name :: rest) directory = ([], .error (.notFound name))) ∧
    ∀ path, lookUp h name = some path → ∃ found f, LeadsTo h.tree h.cwd.names path found f ∧
      (run h (name :: rest) directory).1 = [⟨path :: rest, directory⟩] ∧
      -- the process has ended
      (∀ c, (run h (name :: rest) directory).2 = .ok c →
        ∃ start executed g program, startPlace h directory = .ok start ∧
          LeadsTo h.tree start path executed g ∧ programAt h.tree start path = .ok program ∧
          c = ⟨program.status, program.text⟩ ∧
          (executed = found ↔ Path.ReadsAlike path start h.cwd.names)) ∧
      -- the process is not started
      (∀ start p, startPlace h directory = .ok start →
        path.head? = some '/' ∨ start = h.cwd.names →
        (run h (name :: rest) directory).2 = .error (.notStarted ⟨.missing, p⟩) →
        f.program = none ∧
          ∃ script, Script.ofBytes? f.content = some script ∧ script.program? path = none) ∧
      -- the paths that are found
      ('/' ∉ name → ∃ d ∈ h.searchPath, path = inside d name ∧
        (d.isAbsolute = true → path.head? = some '/')) ∧
      ('/' ∈ name → path = name ∧ (['.', '.'] ∉ path.splitOn '/' →
        ∀ start, Path.ReadsAlike path start h.cwd.names ↔ start = h.cwd.names)) := by
  refine ⟨fun hnone => ?_, fun path hfound => ?_⟩
  · simp only [run, locate, hname, Bool.false_eq_true, if_false, hnone]
  · obtain ⟨found, f, hleads⟩ := exists_leadsTo_of_isProgram (isProgram_of_lookUp hfound)
    have hrun := run_eq_of_lookUp hname hfound rest directory
    refine ⟨found, f, hleads, congrArg Prod.fst hrun, fun c hc => ?_,
      fun place p hplace hsame hp => ?_, fun hslash => ?_, fun hslash => ?_⟩
    · rw [hrun] at hc
      cases hstart : start h ⟨path :: rest, directory⟩ with
      | error r =>
        rw [hstart] at hc
        cases hc
      | ok c' =>
        rw [hstart] at hc
        cases hc
        obtain ⟨place, program, hplace, hprogram, hc⟩ := exists_program_of_start hstart
        obtain ⟨executed, g, hexecuted⟩ := exists_leadsTo_of_programAt hprogram
        exact ⟨place, executed, g, program, hplace, hexecuted, hprogram, hc,
          hexecuted.eq_iff_readsAlike hleads⟩
    · rw [hrun] at hp
      cases hstart : start h ⟨path :: rest, directory⟩ with
      | ok c =>
        rw [hstart] at hp
        cases hp
      | error r =>
        rw [hstart] at hp
        cases hp
        exact exists_script_of_missing (hleads.of_same (hsame.imp_right Eq.symm))
          (programAt_of_start_missing hplace hstart)
    · rcases lookUp_cases hfound with ⟨hmem, -⟩ | ⟨-, d, hd, rfl⟩
      · exact absurd hmem hslash
      · exact ⟨d, hd, rfl, fun habs => head?_inside habs name⟩
    · rcases lookUp_cases hfound with ⟨-, rfl⟩ | ⟨hmem, -⟩
      · have hhead : path.head? ≠ some '/' := by
          rw [ne_eq, ← Path.isAbsolute_ofText_iff, hname]
          exact Bool.false_ne_true
        exact ⟨rfl, fun hdots start => Path.readsAlike_iff_eq hhead hdots⟩
      · exact absurd hslash hmem

/-- A program that ends with a status. -/
def ending (status : Int) : File :=
  ⟨[], .program, some ⟨[], status⟩⟩

/-- A host in `/w`, with a program `tools/go` there and another one in `/w/sub`, and a program `go`
in the directory `/bin` of the search path. -/
def twoTools : Host :=
  { tree := ⟨[([['b']], .directory), ([['b'], "go".toList], .file (ending 0)),
      ([['w']], .directory),
      ([['w'], "tools".toList], .directory),
      ([['w'], "tools".toList, "go".toList], .file (ending 1)),
      ([['w'], "sub".toList], .directory),
      ([['w'], "sub".toList, "tools".toList], .directory),
      ([['w'], "sub".toList, "tools".toList, "go".toList], .file (ending 2)),
      ([['w'], "bare".toList], .directory)]⟩
    cwd := ⟨.top, [['w']]⟩
    searchPath := [⟨.top, [['b']]⟩] }

theorem executed_as_found_of_plainName :
    let directory : Path := ⟨.top, [['w'], "sub".toList]⟩
    (Path.ofText "go".toList).isAbsolute = false ∧
      lookUp twoTools "go".toList = some "/b/go".toList ∧
      ∃ c start found f g, (run twoTools ["go".toList, "build".toList] (some directory)).2 = .ok c ∧
        c.status = 0 ∧
        startPlace twoTools (some directory) = .ok start ∧ start ≠ twoTools.cwd.names ∧
        LeadsTo twoTools.tree twoTools.cwd.names "/b/go".toList found f ∧
        LeadsTo twoTools.tree start "/b/go".toList found g := by
  intro directory
  have hname : (Path.ofText "go".toList).isAbsolute = false := rfl
  have hfound : lookUp twoTools "go".toList = some "/b/go".toList := rfl
  obtain ⟨found, f, hleads, -, hended, -, hplain, -⟩ :=
    (executed_as_found hname ["build".toList] (some directory)).2 _ hfound
  obtain ⟨d, hd, -, habs⟩ := hplain (by decide)
  cases List.mem_singleton.mp hd
  obtain ⟨start, executed, g, -, hstart, hexecuted, -, -, hsame⟩ := hended _ rfl
  cases hsame.mpr (.inl (habs rfl))
  have hstart' : start = [['w'], "sub".toList] := (Except.ok.inj hstart).symm
  refine ⟨hname, hfound, _, start, found, f, g, rfl, rfl, hstart, ?_, hleads, hexecuted⟩
  rw [hstart']
  decide

/-- A program in `tools` is found in the directory of the host.  From another directory another
program is executed, or none is there. -/
theorem slash_leads_elsewhere :
    let name := "tools/go".toList
    (Path.ofText name).isAbsolute = false ∧
      lookUp twoTools name = some name ∧
      (∃ f, LeadsTo twoTools.tree twoTools.cwd.names name [['w'], "tools".toList, "go".toList] f) ∧
      (∃ c, (run twoTools [name] none).2 = .ok c ∧ c.status = 1) ∧
      -- another program
      (∃ start f, startPlace twoTools (some ⟨.top, [['w'], "sub".toList]⟩) = .ok start ∧
        LeadsTo twoTools.tree start name [['w'], "sub".toList, "tools".toList, "go".toList] f) ∧
      (∃ c, (run twoTools [name] (some ⟨.top, [['w'], "sub".toList]⟩)).2 = .ok c ∧ c.status = 2) ∧
      -- no program
      (∃ start, startPlace twoTools (some ⟨.top, [['w'], "bare".toList]⟩) = .ok start) ∧
      (run twoTools [name] (some ⟨.top, [['w'], "bare".toList]⟩)).2
        = .error (.notStarted ⟨.missing, name⟩) :=
  ⟨rfl, rfl, ⟨_, rfl, rfl⟩, ⟨_, rfl, rfl⟩, ⟨_, _, rfl, rfl, rfl⟩, ⟨_, rfl, rfl⟩, ⟨_, rfl⟩, rfl⟩

end Launch

end Marginalia

import Marginalia.Launch
import Marginalia.Proofs.Files.Reach

/-!
# Commands that start

A command starts a program in a directory if its first word leads to a program, the directory is
there, and no word is too long (`Starts`).

The character that ends every path stands in no path that leads anywhere.  A command with a program
that holds it, or is to run in a directory that does, stops inside (`StopsInside`), and no process
is made for it.  Of every other command that starts a program there is what the program writes and the
status it ends with (`run_eq_ok_iff_launches`), and every other refusal is an error of the system
(`ofSystem_of_not_stopsInside`).
-/

namespace Marginalia

/-- What a program writes, as it is captured: U+FFFD for malformed bytes, and each line end a
newline. -/
def Program.text (p : Program) : Text :=
  Text.foldNewlines (Utf8.decodeLossy p.output)

/-! ## The character that ends every path -/

namespace Path

theorem notMem_parent_toText {p : Path} {c : Char} (hslash : c ≠ '/') (hdot : c ≠ '.')
    (h : c ∉ p.toText) : c ∉ p.parent.toText := by
  rw [mem_toText hslash hdot] at h ⊢
  rintro ⟨name, hname, hc⟩
  exact h ⟨name, List.dropLast_subset _ hname, hc⟩

/-- A character that does not belong to the notation of paths stands in a text if it stands in the
path that the text writes. -/
theorem mem_ofText_toText {s : Text} {c : Char} (hslash : c ≠ '/') (hdot : c ≠ '.') :
    c ∈ (ofText s).toText ↔ c ∈ s := by
  have hidle : ∀ name : Text, isIdle name = true → c ∉ name := by
    intro name hname
    rw [isIdle, Bool.or_eq_true, beq_iff_eq, beq_iff_eq] at hname
    rcases hname with rfl | rfl
    · exact List.not_mem_nil
    · simpa using hdot
  have hjoin : c ∈ Text.join ['/'] (s.splitOn '/') ↔ ∃ name ∈ s.splitOn '/', c ∈ name :=
    Text.mem_join hslash
  rw [Text.join_eq_intercalate, List.intercalate_splitOn] at hjoin
  rw [mem_toText hslash hdot, hjoin]
  constructor
  · rintro ⟨name, hname, hc⟩
    exact ⟨name, (List.mem_filter.mp hname).1, hc⟩
  · rintro ⟨name, hname, hc⟩
    refine ⟨name, List.mem_filter.mpr ⟨hname, ?_⟩, hc⟩
    rw [Bool.not_eq_true', ← Bool.not_eq_true]
    exact fun hname => hidle name hname hc

end Path

namespace Launch

/-- A word does not hold the character that ends every word. -/
def IsUnended (word : Text) : Prop :=
  '\u0000' ∉ word

instance (word : Text) : Decidable (IsUnended word) :=
  inferInstanceAs (Decidable ('\u0000' ∉ word))

/-! ## Finding programs -/

theorem notMem_of_isProgram {h : Host} {path : Text} (hpath : isProgram h path = true) :
    IsUnended path := by
  unfold isProgram at hpath
  split at hpath
  · next hlocate => exact FileTree.notMem_of_locate hlocate
  · cases hpath

theorem isProgram_of_lookUp {h : Host} {name found : Text} (hfound : lookUp h name = some found) :
    isProgram h found = true := by
  unfold lookUp at hfound
  split at hfound
  · split at hfound
    · next hprogram =>
      cases hfound
      exact hprogram
    · cases hfound
  · exact List.find?_some hfound

theorem subset_inside (directory : Path) (name : Text) : name ⊆ inside directory name := by
  unfold inside
  split
  · exact List.subset_append_right _ _
  · exact List.Subset.trans (List.subset_cons_self _ _) (List.subset_append_right _ _)

/-- A program is found by a path that its name is part of. -/
theorem subset_of_lookUp {h : Host} {name found : Text} (hfound : lookUp h name = some found) :
    name ⊆ found := by
  unfold lookUp at hfound
  split at hfound
  · split at hfound
    · cases hfound
      exact List.Subset.refl _
    · cases hfound
  · obtain ⟨directory, -, rfl⟩ := List.mem_map.mp (List.mem_of_find?_eq_some hfound)
    exact subset_inside directory name

/-- The path that a program is found by holds the ending character if its name does. -/
theorem locate_cons_eq_ok {h : Host} {name : Text} {rest located : List Text}
    (hlocate : locate h (name :: rest) = .ok located) :
    ∃ path, located = path :: rest ∧ (IsUnended path ↔ IsUnended name) := by
  simp only [locate] at hlocate
  split at hlocate
  · cases hlocate
    exact ⟨_, rfl, not_congr (Path.mem_ofText_toText (by decide) (by decide))⟩
  · split at hlocate
    · next found hfound =>
      cases hlocate
      have hunended := notMem_of_isProgram (isProgram_of_lookUp hfound)
      refine ⟨found, rfl, iff_of_true hunended fun hmem => hunended ?_⟩
      exact subset_of_lookUp hfound hmem
    · cases hlocate

theorem unended_of_locate {h : Host} {words located : List Text}
    (hwords : ∀ word ∈ words, IsUnended word) (hlocate : locate h words = .ok located) :
    ∀ word ∈ located, IsUnended word := by
  cases words with
  | nil => cases hlocate
  | cons name rest =>
    obtain ⟨path, rfl, hpath⟩ := locate_cons_eq_ok hlocate
    rw [List.forall_mem_cons] at hwords ⊢
    exact ⟨hpath.mpr hwords.1, hwords.2⟩

/-! ## Starting programs -/

/-- The refusal is an error of the system: no program is found, or it cannot be started for another
reason than the character that ends every word. -/
def Refusal.OfSystem : Refusal → Prop
  | .noWords => False
  | .notFound _ => True
  | .notStarted r => r.cause ≠ .endsInside

/-- A command starts a program in a directory: its first word leads to a program from the place of
the directory, and none of its words is too long. -/
def Starts (h : Host) (words : List Text) (directory : Path) (program : Program) : Prop :=
  ∃ located place, locate h words = .ok located ∧ startPlace h (some directory) = .ok place ∧
    (∀ word ∈ located, FileTree.bytesOf word ≤ wordLimit) ∧
    programAt h.tree place (located.headD []) = .ok program

/-- A command starts one program at most. -/
theorem Starts.unique {h : Host} {words : List Text} {directory : Path} {program other : Program}
    (hprogram : Starts h words directory program) (hother : Starts h words directory other) :
    program = other := by
  obtain ⟨_, _, hlocate, hplace, -, hat⟩ := hprogram
  obtain ⟨_, _, hlocate', hplace', -, hat'⟩ := hother
  cases hlocate.symm.trans hlocate'
  cases hplace.symm.trans hplace'
  cases hat.symm.trans hat'
  rfl

/-- A command stops inside: its program is found, or its path given, and then a word or the path of
the directory holds the character that ends every word. -/
def StopsInside (h : Host) (words : List Text) (directory : Path) : Prop :=
  ∃ located, locate h words = .ok located ∧
    ((∃ word ∈ located, ¬ IsUnended word) ∨ ¬ IsUnended directory.toText)

theorem not_stopsInside_iff {h : Host} {words : List Text} {directory : Path} :
    ¬ StopsInside h words directory ↔ ∀ located, locate h words = .ok located →
      (∀ word ∈ located, IsUnended word) ∧ IsUnended directory.toText := by
  constructor
  · intro hinside located hlocate
    refine ⟨fun word hword => ?_, ?_⟩
    · exact Classical.not_not.mp fun hends => hinside ⟨located, hlocate, .inl ⟨word, hword, hends⟩⟩
    · exact Classical.not_not.mp fun hends => hinside ⟨located, hlocate, .inr hends⟩
  · rintro hall ⟨located, hlocate, ⟨word, hword, hends⟩ | hends⟩
    · exact hends ((hall located hlocate).1 word hword)
    · exact hends (hall located hlocate).2

/-- A command stops inside if its program is found, or its path given, and the ending character
stands in the command or in the path of the directory. -/
theorem stopsInside_iff {h : Host} {words : List Text} {directory : Path} :
    StopsInside h words directory ↔ (∃ located, locate h words = .ok located) ∧
      ((∃ word ∈ words, ¬ IsUnended word) ∨ ¬ IsUnended directory.toText) := by
  have hsame : ∀ located, locate h words = .ok located →
      ((∃ word ∈ located, ¬ IsUnended word) ↔ ∃ word ∈ words, ¬ IsUnended word) := by
    intro located hlocate
    cases words with
    | nil => cases hlocate
    | cons name rest =>
      obtain ⟨path, rfl, hpath⟩ := locate_cons_eq_ok hlocate
      simp only [List.mem_cons, exists_eq_or_imp, hpath]
  constructor
  · rintro ⟨located, hlocate, hends⟩
    exact ⟨⟨located, hlocate⟩, hends.imp_left (hsame located hlocate).mp⟩
  · rintro ⟨⟨located, hlocate⟩, hends⟩
    exact ⟨located, hlocate, hends.imp_left (hsame located hlocate).mpr⟩

theorem not_stopsInside_of_words {h : Host} {words : List Text} {directory : Path}
    (hwords : ∀ word ∈ words, IsUnended word) (hdirectory : IsUnended directory.toText) :
    ¬ StopsInside h words directory :=
  not_stopsInside_iff.mpr fun _ hlocate => ⟨unended_of_locate hwords hlocate, hdirectory⟩

/-- A command launches a program: it starts it, and does not stop inside. -/
def Launches (h : Host) (words : List Text) (directory : Path) (program : Program) : Prop :=
  Starts h words directory program ∧ ¬ StopsInside h words directory

theorem Starts.launches {h : Host} {words : List Text} {directory : Path} {program : Program}
    (hstarts : Starts h words directory program) (hwords : ∀ word ∈ words, IsUnended word) :
    Launches h words directory program := by
  have hdirectory : IsUnended directory.toText := by
    obtain ⟨_, place, -, hplace, -, -⟩ := hstarts
    unfold startPlace at hplace
    split at hplace
    · next h => cases h
    · next hsome =>
      cases hsome
      split at hplace
      · next hlocate => exact FileTree.notMem_of_locate hlocate
      · cases hplace
      · cases hplace
  exact ⟨hstarts, not_stopsInside_of_words hwords hdirectory⟩

theorem startPlace_of_ends {h : Host} {directory : Path} (hends : ¬ IsUnended directory.toText) :
    startPlace h (some directory) = .error ⟨.endsInside, directory.toText⟩ := by
  have hlocate : h.tree.locate h.cwd.names directory.toText = .error .endsInside := by
    have hcontains : directory.toText.contains '\u0000' = true := by
      simpa [IsUnended] using hends
    rw [FileTree.locate, FileTree.placeOf, if_pos hcontains]
    rfl
  rw [startPlace, hlocate]

theorem cause_of_startPlace {h : Host} {directory : Path} {r : FileTree.Refusal}
    (hdirectory : IsUnended directory.toText) (hplace : startPlace h (some directory) = .error r) :
    r.cause ≠ .endsInside := by
  unfold startPlace at hplace
  split at hplace
  · cases hplace
  · next other hother =>
    cases hother
    split at hplace
    · cases hplace
    · cases hplace
      exact nofun
    · next hlocate =>
      cases hplace
      rintro rfl
      exact FileTree.locate_ne_endsInside hdirectory hlocate

theorem cause_of_programAt {t : FileTree} {place : List Text} {path : Text} {r : FileTree.Refusal}
    (hpath : IsUnended path) (hprogram : programAt t place path = .error r) :
    r.cause ≠ .endsInside := by
  unfold programAt at hprogram
  split at hprogram
  · next hlocate =>
    cases hprogram
    rintro rfl
    exact FileTree.locate_ne_endsInside hpath hlocate
  · cases hprogram
    exact nofun
  · split at hprogram
    · cases hprogram
      exact nofun
    · split at hprogram
      · cases hprogram
      · cases hprogram
        exact nofun
      · split at hprogram
        · cases hprogram
        · cases hprogram
          exact nofun

section
variable {h : Host} {located words : List Text} {directory : Path}

/-- Starting, step by step, where no word holds the ending character. -/
theorem start_eq (hlocated : ∀ word ∈ located, IsUnended word) :
    start h ⟨located, some directory⟩ =
      match startPlace h (some directory) with
      | .error r => .error r
      | .ok place =>
        if ∃ word ∈ located, wordLimit < FileTree.bytesOf word then
          .error ⟨.wordTooLong, located.headD []⟩
        else
          match programAt h.tree place (located.headD []) with
          | .error r => .error r
          | .ok program => .ok ⟨program.status, program.text⟩ := by
  have hends : ¬ located.any (·.contains '\u0000') = true := by
    rw [List.any_eq_true]
    rintro ⟨word, hword, hmem⟩
    exact hlocated word hword (List.contains_iff_mem.mp hmem)
  rw [start]
  simp only [hends, Bool.false_eq_true, if_false]
  cases startPlace h (some directory) with
  | error r => rfl
  | ok place =>
    simp only [bind, Except.bind, List.any_eq_true, decide_eq_true_eq]
    split
    · rfl
    · cases programAt h.tree place (located.headD []) <;> rfl

/-- What comes of a command is what the program does that it starts, if no word holds the ending
character once the program is located. -/
theorem run_eq_ok_iff
    (hunended : ∀ located, locate h words = .ok located → ∀ word ∈ located, IsUnended word)
    {c : Completed} :
    (run h words (some directory)).2 = .ok c ↔
      ∃ program, Starts h words directory program ∧ c = ⟨program.status, program.text⟩ := by
  unfold run Starts
  cases hlocate : locate h words with
  | error r =>
    constructor
    · intro hrun
      cases hrun
    · rintro ⟨_, ⟨_, _, hlocated, _⟩, _⟩
      cases hlocated
  | ok located =>
    simp only [start_eq (hunended located hlocate)]
    constructor
    · intro hrun
      cases hplace : startPlace h (some directory) with
      | error r => rw [hplace] at hrun; cases hrun
      | ok place =>
        simp only [hplace] at hrun
        split at hrun
        · next hstart =>
          cases hrun
          split at hstart
          · cases hstart
          · next hshort =>
            cases hprogram : programAt h.tree place (located.headD []) with
            | error r => rw [hprogram] at hstart; cases hstart
            | ok program =>
              rw [hprogram] at hstart
              cases hstart
              refine ⟨program, ⟨located, place, rfl, rfl, ?_, hprogram⟩, rfl⟩
              exact fun word hword => Nat.le_of_not_lt fun hlong => hshort ⟨word, hword, hlong⟩
        · cases hrun
    · rintro ⟨program, ⟨_, place, hlocated, hplace, hshort, hprogram⟩, rfl⟩
      cases hlocated
      have hlong : ¬ ∃ word ∈ located, wordLimit < FileTree.bytesOf word := by
        rintro ⟨word, hword, hlong⟩
        exact Nat.not_lt.mpr (hshort word hword) hlong
      rw [hplace]
      simp only [if_neg hlong, hprogram]

theorem ofSystem_of_locate {r : Refusal} (hne : words ≠ []) (hlocate : locate h words = .error r) :
    r.OfSystem := by
  cases words with
  | nil => exact absurd rfl hne
  | cons name rest =>
    simp only [locate] at hlocate
    split at hlocate
    · cases hlocate
    · split at hlocate
      · cases hlocate
      · cases hlocate
        trivial

theorem unended_headD (hwords : ∀ word ∈ words, IsUnended word) : IsUnended (words.headD []) := by
  cases words with
  | nil => exact List.not_mem_nil
  | cons word rest => exact hwords word List.mem_cons_self

theorem cause_of_start (hlocated : ∀ word ∈ located, IsUnended word)
    (hdirectory : IsUnended directory.toText) {r : FileTree.Refusal}
    (hstart : start h ⟨located, some directory⟩ = .error r) : r.cause ≠ .endsInside := by
  rw [start_eq hlocated] at hstart
  cases hplace : startPlace h (some directory) with
  | error r' =>
    rw [hplace] at hstart
    cases hstart
    exact cause_of_startPlace hdirectory hplace
  | ok place =>
    simp only [hplace] at hstart
    split at hstart
    · cases hstart
      exact nofun
    · cases hprogram : programAt h.tree place (located.headD []) with
      | ok program =>
        rw [hprogram] at hstart
        cases hstart
      | error r' =>
        rw [hprogram] at hstart
        cases hstart
        exact cause_of_programAt (unended_headD hlocated) hprogram

/-- A command that does not stop inside is refused by the system alone. -/
theorem ofSystem_of_not_stopsInside (hne : words ≠ []) (hinside : ¬ StopsInside h words directory)
    {r : Refusal} (hrun : (run h words (some directory)).2 = .error r) : r.OfSystem := by
  unfold run at hrun
  cases hlocate : locate h words with
  | error r' =>
    rw [hlocate] at hrun
    cases hrun
    exact ofSystem_of_locate hne hlocate
  | ok located =>
    obtain ⟨hlocated, hdirectory⟩ := not_stopsInside_iff.mp hinside located hlocate
    simp only [hlocate] at hrun
    split at hrun
    · cases hrun
    · next hstart =>
      cases hrun
      exact cause_of_start hlocated hdirectory hstart

/-- A command that stops inside is refused for that reason, whatever its program is. -/
theorem run_of_stopsInside (hinside : StopsInside h words directory) :
    ∃ path, (run h words (some directory)).2 = .error (.notStarted ⟨.endsInside, path⟩) := by
  obtain ⟨located, hlocate, hends⟩ := hinside
  obtain ⟨path, hstart⟩ :
      ∃ path, start h ⟨located, some directory⟩ = .error ⟨.endsInside, path⟩ := by
    by_cases hlocated : ∀ word ∈ located, IsUnended word
    · have hdirectory : ¬ IsUnended directory.toText :=
        hends.resolve_left fun ⟨word, hword, hword'⟩ => hword' (hlocated word hword)
      exact ⟨_, by rw [start_eq hlocated, startPlace_of_ends hdirectory]⟩
    · have hany : located.any (·.contains '\u0000') = true := by
        simpa [IsUnended] using hlocated
      exact ⟨_, by rw [start, if_pos hany]⟩
  refine ⟨path, ?_⟩
  rw [run, hlocate]
  simp only [hstart]

/-- Whatever the command is, what comes of it is what the program does that it launches. -/
theorem run_eq_ok_iff_launches {c : Completed} :
    (run h words (some directory)).2 = .ok c ↔
      ∃ program, Launches h words directory program ∧ c = ⟨program.status, program.text⟩ := by
  by_cases hinside : StopsInside h words directory
  · obtain ⟨path, hrun⟩ := run_of_stopsInside hinside
    rw [hrun]
    constructor
    · intro h
      cases h
    · rintro ⟨program, hlaunches, -⟩
      exact absurd hinside hlaunches.2
  · rw [run_eq_ok_iff fun located hlocate =>
      (not_stopsInside_iff.mp hinside located hlocate).1]
    simp only [Launches, hinside, not_false_eq_true, and_true]

end

end Launch

end Marginalia

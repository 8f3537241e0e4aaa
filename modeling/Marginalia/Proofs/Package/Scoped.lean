import Marginalia.Proofs.Package.Dominating
import Marginalia.Settings

/-!
# Flags for one package

The compiler is given its flags and the package they are meant for as one value, with an equals sign
between the two.  The tool takes a value apart at its first equals sign, but takes a value that
starts with a dash for flags that are not meant for any package in particular (`Scope.ofText?`).  So
the flags are read as meant exactly if the name of the package neither starts with a dash nor holds
an equals sign (`ofText?_scopedTo_iff`).  The names of modules and directories are free to do both,
and nothing checks them.

Still no two packages, and no two sets of flags, share a value: the flags are what stands behind the
last equals sign (`scopedTo_inj`).  The main statement, `scope_of_command`, puts this together for
the commands that documents lead to.
-/

namespace Marginalia

/-! ## Reading values -/

/-- Whom the flags of a value are for. -/
inductive Scope where
  /-- The flags are for the packages that the command itself names. -/
  | named (flags : Text)
  /-- The flags are for the packages that a pattern stands for. -/
  | only (pattern flags : Text)
deriving DecidableEq, Repr

namespace Scope

/-- How the tool reads a value of flags. -/
def ofText? (value : Text) : Option Scope :=
  if value.head? = some '-' then some (.named value)
  else if '=' ∈ value then
    some (.only (value.takeWhile (· != '=')) ((value.dropWhile (· != '=')).drop 1))
  else none

theorem ofText?_of_notMem {front back : Text} (hdash : front.head? ≠ some '-')
    (hequals : '=' ∉ front) : ofText? (front ++ '=' :: back) = some (.only front back) := by
  have hall : ∀ c ∈ front, (c != '=') = true := by
    intro c hc
    rw [bne_iff_ne]
    rintro rfl
    exact hequals hc
  have hhead : (front ++ '=' :: back).head? ≠ some '-' := by
    cases front with
    | nil => exact fun h => absurd (Option.some.inj h) (by decide)
    | cons c rest => exact hdash
  rw [ofText?, if_neg hhead, if_pos (by simp), List.takeWhile_append_of_pos hall,
    List.dropWhile_append_of_pos hall]
  simp

end Scope

namespace Settings

/-- A name is taken off a value again: it does not start like flags and does not end early. -/
def IsScopable (unitId : Text) : Prop :=
  unitId.head? ≠ some '-' ∧ '=' ∉ unitId

section
variable {unitId other flags flags' : Text}

/-- A value that starts with a dash is flags as a whole. -/
theorem ofText?_scopedTo_of_dash (hdash : unitId.head? = some '-') :
    Scope.ofText? (scopedTo unitId flags) = some (.named (scopedTo unitId flags)) := by
  obtain ⟨rest, rfl⟩ := List.head?_eq_some_iff.mp hdash
  exact if_pos rfl

/-- A name with an equals sign is cut short, and the rest of it becomes flags. -/
theorem exists_cut (flags : Text) (hdash : unitId.head? ≠ some '-') (hequals : '=' ∈ unitId) :
    ∃ front back, unitId = front ++ '=' :: back ∧
      Scope.ofText? (scopedTo unitId flags) = some (.only front (scopedTo back flags)) := by
  obtain ⟨front, back, rfl, hfront⟩ := List.eq_append_cons_of_mem hequals
  refine ⟨front, back, rfl, ?_⟩
  have hhead : front.head? ≠ some '-' := by
    cases front with
    | nil => exact nofun
    | cons c rest => exact hdash
  rw [scopedTo, List.append_assoc, List.cons_append, Scope.ofText?_of_notMem hhead hfront, scopedTo]

theorem ofText?_scopedTo_iff :
    Scope.ofText? (scopedTo unitId flags) = some (.only unitId flags) ↔ IsScopable unitId := by
  constructor
  · intro h
    by_cases hdash : unitId.head? = some '-'
    · rw [ofText?_scopedTo_of_dash hdash] at h
      cases h
    · refine ⟨hdash, fun hequals => ?_⟩
      obtain ⟨front, back, hunit, hread⟩ := exists_cut flags hdash hequals
      rw [hread, Option.some.injEq, Scope.only.injEq] at h
      have hlength := congrArg List.length hunit
      rw [← h.1] at hlength
      simp at hlength
  · rintro ⟨hdash, hequals⟩
    exact Scope.ofText?_of_notMem hdash hequals

/-- Flags without an equals sign stand behind the last one. -/
theorem scopedTo_inj (hflags : '=' ∉ flags) (hflags' : '=' ∉ flags') :
    scopedTo unitId flags = scopedTo other flags' ↔ unitId = other ∧ flags = flags' := by
  refine ⟨fun h => ?_, fun ⟨hunit, hflags⟩ => by rw [hunit, hflags]⟩
  rcases List.append_eq_append_iff.mp h with ⟨between, rfl, hrest⟩ | ⟨between, rfl, hrest⟩
  · cases between with
    | nil =>
      cases hrest
      exact ⟨(List.append_nil _).symm, rfl⟩
    | cons c between =>
      cases hrest
      exact absurd (by simp) hflags
  · cases between with
    | nil =>
      cases hrest
      exact ⟨List.append_nil _, rfl⟩
    | cons c between =>
      cases hrest
      exact absurd (by simp) hflags'

theorem notMem_flags (s : Settings) : '=' ∉ s.flags := by
  rw [Settings.flags, flagsFor]
  split <;> decide

end

end Settings

namespace Package

open Settings (IsScopable scopedTo)

/-! ## Names of packages -/

/-- The nearest manifest of a directory names a module, and `names` lead from there to the
directory. -/
def LiesIn (t : FileTree) (directory : Path) (moduleName : Text) (names : List Text) : Prop :=
  ∃ manifest, Manifest.find t [] directory (Path.ofText Manifest.fileName) = .ok manifest ∧
    Manifest.moduleName t [] manifest = .ok moduleName ∧
    manifest.parent.below? directory = some names

section
variable {t : FileTree} {directory : Path} {moduleName unit : Text} {names : List Text}

theorem ofDirectory_cases (h : ofDirectory t directory = .ok unit) :
    (∃ moduleName names, LiesIn t directory moduleName names ∧ unit = within moduleName names) ∨
      (¬ ∃ moduleName names, LiesIn t directory moduleName names) ∧ unit = fallback directory := by
  unfold ofDirectory at h
  split at h
  · cases h
  · next hfind =>
    cases h
    refine .inr ⟨?_, rfl⟩
    rintro ⟨_, _, _, hfound, -, -⟩
    cases hfind.symm.trans hfound
  · next manifest hfind =>
    split at h
    · next moduleName names hname hbelow =>
      cases h
      exact .inl ⟨moduleName, names, ⟨manifest, hfind, hname, hbelow⟩, rfl⟩
    · next hnone =>
      cases h
      refine .inr ⟨?_, rfl⟩
      rintro ⟨_, _, _, hfound, hname, hbelow⟩
      cases hfind.symm.trans hfound
      exact hnone _ _ hname hbelow

theorem LiesIn.ne_nil (h : LiesIn t directory moduleName names) : moduleName ≠ [] := by
  obtain ⟨manifest, -, hname, -⟩ := h
  unfold Manifest.moduleName at hname
  split at hname
  · cases hname
  · cases hname
  · split at hname
    · next hname' =>
      cases hname
      exact Manifest.ne_nil_of_moduleName? hname'
    · cases hname

theorem isScopable_within (hne : moduleName ≠ []) :
    IsScopable (within moduleName names) ↔
      IsScopable moduleName ∧ ∀ name ∈ names, '=' ∉ name := by
  have hhead : (within moduleName names).head? = moduleName.head? := by
    rw [within]
    split
    · rfl
    · cases moduleName with
      | nil => exact absurd rfl hne
      | cons => rfl
  have hmem : '=' ∈ within moduleName names ↔ '=' ∈ moduleName ∨ ∃ name ∈ names, '=' ∈ name := by
    rw [within]
    split
    · next hnil =>
      cases List.isEmpty_iff.mp hnil
      simp
    · rw [List.mem_append, List.mem_cons, Path.joined, Text.mem_join (by decide)]
      simp
  rw [IsScopable, IsScopable, hhead, hmem, not_or, not_exists, and_assoc]
  simp only [not_and]

theorem isScopable_fallback : IsScopable (fallback directory) ↔ IsScopable directory.name := by
  rw [fallback]
  split
  · next hnil =>
    rw [List.isEmpty_iff.mp hnil]
    exact iff_of_true ⟨by decide, by decide⟩ ⟨by decide, List.not_mem_nil⟩
  · exact Iff.rfl

end

theorem ofDirectory_of_ofDocument {t : FileTree} {cwd : Path} {name unit : Text}
    (h : ofDocument t cwd (some name) = .ok unit) :
    ofDirectory t ((Path.ofText name).absolute cwd).parent = .ok unit := by
  cases name with
  | nil => cases h
  | cons c rest =>
    simp only [ofDocument, Option.getD_some, ofFile] at h
    split at h
    · next hunit =>
      cases h
      exact hunit
    · cases h

/-! ## Commands -/

/-- The third word of the command for a document gives the flags together with the package of the
document.  The tool reads them as flags for that package exactly if its name is scopable.  If the
name starts with a dash, it reads flags for no package in particular; if there is an equals sign in
it, flags for what stands before that sign, the rest of the name being the first of them.  The name
is scopable if what it is made of is: the name of the module and the names that lead down from it,
or the name of the directory where there is no module.

No other package has the same value, and no other flags. -/
theorem scope_of_command {t : FileTree} {cwd : Path} {name unit : Text}
    (hunit : ofDocument t cwd (some name) = .ok unit) (s : Settings) :
    let directory := ((Path.ofText name).absolute cwd).parent
    let value := scopedTo unit s.flags
    let Scoped := Scope.ofText? value = some (.only unit s.flags)
    (s.command unit)[2]? = some ("-gcflags=".toList ++ value) ∧ unit ≠ [] ∧
      -- how the value is read
      (Scoped ↔ IsScopable unit) ∧
      (unit.head? = some '-' → Scope.ofText? value = some (.named value)) ∧
      (unit.head? ≠ some '-' → '=' ∈ unit → ∃ front back, unit = front ++ '=' :: back ∧
        Scope.ofText? value = some (.only front (scopedTo back s.flags))) ∧
      -- where the package has its name from
      ((∃ moduleName names, LiesIn t directory moduleName names ∧ unit = within moduleName names ∧
          (Scoped ↔ IsScopable moduleName ∧ ∀ n ∈ names, '=' ∉ n)) ∨
        (¬ ∃ moduleName names, LiesIn t directory moduleName names) ∧ unit = fallback directory ∧
          (Scoped ↔ IsScopable directory.name)) ∧
      -- other values
      ∀ (other : Text) (s' : Settings),
        scopedTo other s'.flags = value ↔ other = unit ∧ s'.flags = s.flags := by
  intro directory value Scoped
  have hscoped : Scoped ↔ IsScopable unit := Settings.ofText?_scopedTo_iff
  have hcases := ofDirectory_cases (ofDirectory_of_ofDocument hunit)
  refine ⟨rfl, ?_, hscoped, Settings.ofText?_scopedTo_of_dash, Settings.exists_cut s.flags, ?_,
    fun other s' => Settings.scopedTo_inj s'.notMem_flags s.notMem_flags⟩
  · rcases hcases with ⟨m, names, hlies, rfl⟩ | ⟨-, rfl⟩
    · exact within_ne_nil hlies.ne_nil names
    · exact fallback_ne_nil _
  · rcases hcases with ⟨m, names, hlies, hunit⟩ | ⟨hnone, hunit⟩
    · refine .inl ⟨m, names, hlies, hunit, ?_⟩
      rw [hscoped, hunit, isScopable_within hlies.ne_nil]
    · refine .inr ⟨hnone, hunit, ?_⟩
      rw [hscoped, hunit, isScopable_fallback]

/-- A tree with a module `m` at `/w`, a directory `a=b` without a module, and a directory `-x` with
none either. -/
def oddNames : FileTree :=
  ⟨[([['w']], .directory), ([['w'], ['s']], .directory),
    ([['w'], "go.mod".toList], .file ⟨Utf8.encode "module m\n".toList, .plain, none⟩),
    (["a=b".toList], .directory), (["-x".toList], .directory)]⟩

theorem scope_of_command_of_module :
    ofDocument oddNames ⟨.top, [['w']]⟩ (some "s/x.go".toList) = .ok "m/s".toList ∧
      Settings.standard.command "m/s".toList
        = ["go".toList, "build".toList, "-gcflags=m/s=-m".toList, ['.']] ∧
      Scope.ofText? "m/s=-m".toList = some (.only "m/s".toList "-m".toList) := by
  have hunit : ofDocument oddNames ⟨.top, [['w']]⟩ (some "s/x.go".toList) = .ok "m/s".toList := by
    decide +kernel
  obtain ⟨-, -, hscoped, -⟩ := scope_of_command hunit Settings.standard
  exact ⟨hunit, rfl, hscoped.mpr ⟨by decide, by decide⟩⟩

/-- The flags for a directory `a=b` are read as flags for `a`, and those for `-x` as flags for no
package in particular. -/
theorem scope_is_lost :
    ofDocument oddNames ⟨.top, []⟩ (some "/a=b/x.go".toList) = .ok "a=b".toList ∧
      (Settings.standard.command "a=b".toList)[2]? = some "-gcflags=a=b=-m".toList ∧
      Scope.ofText? "a=b=-m".toList = some (.only ['a'] "b=-m".toList) ∧
      ofDocument oddNames ⟨.top, []⟩ (some "/-x/x.go".toList) = .ok "-x".toList ∧
      (Settings.standard.command "-x".toList)[2]? = some "-gcflags=-x=-m".toList ∧
      Scope.ofText? "-x=-m".toList = some (.named "-x=-m".toList) :=
  ⟨by decide +kernel, rfl, by decide, by decide +kernel, rfl, by decide⟩

end Package

end Marginalia

import Mathlib.Data.Nat.Find
import Marginalia.Package
import Marginalia.Proofs.Files.Reach

/-!
# Dominating manifests

The manifest that dominates a directory is the nearest one: it stands in the directory or in one of
its ancestors, and no manifest stands nearer.  `ofDocument_dominated` says that it alone decides
what the package of a file is.  If it names a module, the package is that name and the way down from
it; if it cannot be read or names none, the package is the name of the directory, whatever stands
further out.
-/

namespace Marginalia

/-! ## The module of a manifest -/

namespace Manifest

/-- The module that a file names as a manifest, if it can be read and names one. -/
def moduleOf? (f : File) : Option Text :=
  if f.mode.readable then
    match Utf8.decode f.content with
    | .ok s => moduleName? (Text.foldNewlines s)
    | .error _ => none
  else none

theorem ne_nil_of_moduleName? {text name : Text} (h : moduleName? text = some name) :
    name ≠ [] := by
  have hfound := List.find?_some h
  rintro rfl
  cases hfound

theorem ne_nil_of_moduleOf? {f : File} {name : Text} (h : moduleOf? f = some name) : name ≠ [] := by
  simp only [moduleOf?] at h
  split at h
  · split at h
    · exact ne_nil_of_moduleName? h
    · cases h
  · cases h

/-- Reading the name of a module either gives the one that the file names, or fails. -/
theorem toOption_moduleName {t : FileTree} {manifest : Path} {f : File} {denied : FileTree.Refusal}
    (hread : t.read [] manifest.toText
      = if f.mode.readable then .ok f.content else .error denied) :
    (moduleName t [] manifest).toOption = moduleOf? f := by
  simp only [moduleName, FileTree.readText, hread, moduleOf?]
  by_cases hmode : f.mode.readable = true
  · simp only [hmode, if_true]
    cases Utf8.decode f.content with
    | error r => rfl
    | ok s =>
      simp only
      cases moduleName? (Text.foldNewlines s) <;> rfl
  · simp only [hmode]
    obtain ⟨cause, path⟩ := denied
    cases cause <;> rfl

@[simp] theorem ofText_fileName : Path.ofText fileName = ⟨.here, [fileName]⟩ := by decide

theorem paths_of_manifests (directory : Path) :
    directory.selfAndParents.map (·.join (Path.ofText fileName))
      = (List.range (directory.names.length + 1)).map fun i =>
          (directory.ancestor i).child fileName := by
  simp [Path.selfAndParents_eq, Path.join, Path.isAbsolute, Path.child]

end Manifest

namespace Package

/-! ## The nearest manifest -/

/-- The manifest `f` stands `i` levels above a directory, and none stands nearer. -/
structure Dominates (t : FileTree) (directory : Path) (i : Nat) (f : File) : Prop where
  within : i ≤ directory.names.length
  holds : t.Holds (directory.ancestor i) Manifest.fileName f
  nearest : ∀ j g, j < i → ¬ t.Holds (directory.ancestor j) Manifest.fileName g

/-- Either a manifest dominates a directory, or none stands above it. -/
theorem dominates_or (t : FileTree) (directory : Path) :
    (∃ i f, Dominates t directory i f) ∨
      ∀ i f, i ≤ directory.names.length →
        ¬ t.Holds (directory.ancestor i) Manifest.fileName f := by
  classical
  by_cases h : ∃ i, i ≤ directory.names.length ∧
      ∃ f, t.Holds (directory.ancestor i) Manifest.fileName f
  · obtain ⟨hle, f, hf⟩ := Nat.find_spec h
    refine .inl ⟨Nat.find h, f, hle, hf, ?_⟩
    intro j g hj hg
    exact Nat.find_min h hj ⟨by omega, g, hg⟩
  · refine .inr fun i f hi hf => h ⟨i, hi, f, hf⟩

section Search

variable {t : FileTree} {directory : Path} (hplain : directory.IsPlain)
  (habs : directory.isAbsolute = true) (hdots : ['.', '.'] ∉ directory.names)
  (haccess : ∀ i, i ≤ directory.names.length →
    ∃ b, t.isFile [] ((directory.ancestor i).child Manifest.fileName).toText = .ok b)

include hplain

theorem isPlain_manifest (i : Nat) : ((directory.ancestor i).child Manifest.fileName).IsPlain :=
  (hplain.ancestor i).child (by decide) (by decide)

theorem fallback_eq : fallback directory = directory.names.getLastD ['.'] := by
  obtain ⟨root, names⟩ := directory
  rcases List.eq_nil_or_concat names with rfl | ⟨front, last, rfl⟩
  · rfl
  · have hlast : last ≠ [] := by
      rintro rfl
      have := (hplain [] (by simp)).1
      cases this
    simp [fallback, Path.name, List.getLastD_eq_getLast?, hlast]

include habs hdots

theorem isFile_manifest {i : Nat} {b : Bool}
    (h : t.isFile [] ((directory.ancestor i).child Manifest.fileName).toText = .ok b) :
    b = true ↔ ∃ f, t.Holds (directory.ancestor i) Manifest.fileName f := by
  refine FileTree.isFile_child (isPlain_manifest hplain i) habs ?_ h
  intro hmem
  rcases List.mem_append.mp hmem with hmem | hmem
  · exact hdots (List.mem_of_mem_take hmem)
  · exact absurd hmem (by decide)

include haccess

theorem isFile_of_holds {i : Nat} {f : File} (hi : i ≤ directory.names.length)
    (h : t.Holds (directory.ancestor i) Manifest.fileName f) :
    t.isFile [] ((directory.ancestor i).child Manifest.fileName).toText = .ok true := by
  obtain ⟨b, hb⟩ := haccess i hi
  have := (isFile_manifest hplain habs hdots hb).mpr ⟨f, h⟩
  rw [hb, this]

theorem isFile_of_not_holds {i : Nat} (hi : i ≤ directory.names.length)
    (h : ∀ f, ¬ t.Holds (directory.ancestor i) Manifest.fileName f) :
    t.isFile [] ((directory.ancestor i).child Manifest.fileName).toText = .ok false := by
  obtain ⟨b, hb⟩ := haccess i hi
  cases b with
  | false => exact hb
  | true =>
    obtain ⟨f, hf⟩ := (isFile_manifest hplain habs hdots hb).mp rfl
    exact absurd hf (h f)

theorem find_of_dominates {i : Nat} {f : File} (h : Dominates t directory i f) :
    Manifest.find t [] directory (Path.ofText Manifest.fileName)
      = .ok ((directory.ancestor i).child Manifest.fileName) := by
  have hlt : i < directory.names.length + 1 := Nat.lt_succ_of_le h.within
  rw [Manifest.find, FileTree.nearestFile?, Manifest.paths_of_manifests,
    FileTree.firstFile?_of_first (i := i)
      (by rw [List.getElem?_map, List.getElem?_range hlt, Option.map_some])
      (isFile_of_holds hplain habs hdots haccess h.within h.holds)]
  intro j other hj hother
  have hlt : j < directory.names.length + 1 := by omega
  rw [List.getElem?_map, List.getElem?_range hlt, Option.map_some] at hother
  cases hother
  exact isFile_of_not_holds hplain habs hdots haccess (by omega) fun g => h.nearest j g hj

theorem find_of_none (h : ∀ i f, i ≤ directory.names.length →
      ¬ t.Holds (directory.ancestor i) Manifest.fileName f) :
    Manifest.find t [] directory (Path.ofText Manifest.fileName)
      = .error (.notFound directory) := by
  rw [Manifest.find, FileTree.nearestFile?, Manifest.paths_of_manifests,
    FileTree.firstFile?_eq_none]
  intro path hpath
  obtain ⟨i, hi, rfl⟩ := List.mem_map.mp hpath
  have hi : i ≤ directory.names.length := by
    have := List.mem_range.mp hi
    omega
  exact isFile_of_not_holds hplain habs hdots haccess hi fun f => h i f hi

/-! ## Packages -/

theorem ofDirectory_of_dominates {i : Nat} {f : File} (h : Dominates t directory i f) :
    ofDirectory t directory = .ok ((Manifest.moduleOf? f).elim (fallback directory) fun m =>
      within m (directory.names.drop (directory.names.length - i))) := by
  have hfile := isFile_of_holds hplain habs hdots haccess h.within h.holds
  have hdots' : ['.', '.'] ∉ ((directory.ancestor i).child Manifest.fileName).names := by
    intro hmem
    rcases List.mem_append.mp hmem with hmem | hmem
    · exact hdots (List.mem_of_mem_take hmem)
    · exact absurd hmem (by decide)
  have hread := FileTree.read_child (isPlain_manifest hplain i) habs hdots' hfile h.holds
  have hname := Manifest.toOption_moduleName hread
  simp only [ofDirectory, find_of_dominates hplain habs hdots haccess h, Path.parent_child,
    Path.below?_ancestor]
  cases hmodule : Manifest.moduleName t [] ((directory.ancestor i).child Manifest.fileName) with
  | error r =>
    rw [hmodule] at hname
    simp only [Except.toOption] at hname
    simp [← hname]
  | ok m =>
    rw [hmodule] at hname
    simp only [Except.toOption] at hname
    simp [← hname]

theorem ofDirectory_of_none (h : ∀ i f, i ≤ directory.names.length →
      ¬ t.Holds (directory.ancestor i) Manifest.fileName f) :
    ofDirectory t directory = .ok (fallback directory) := by
  rw [ofDirectory, find_of_none hplain habs hdots haccess h]

end Search

theorem fallback_ne_nil (directory : Path) : fallback directory ≠ [] := by
  unfold fallback
  split
  · simp
  · next h => simpa using h

theorem within_ne_nil {m : Text} (h : m ≠ []) (names : List Text) : within m names ≠ [] := by
  unfold within
  split <;> simp [h]

theorem within_eq (m : Text) {names : List Text} {i : Nat} (hi : i ≤ names.length) :
    within m (names.drop (names.length - i))
      = if i = 0 then m else m ++ '/' :: Path.joined (names.drop (names.length - i)) := by
  have hempty : (names.drop (names.length - i)).isEmpty = decide (i = 0) := by
    rw [Bool.eq_iff_iff, List.isEmpty_iff, List.drop_eq_nil_iff, decide_eq_true_eq]
    omega
  simp [within, hempty]

/-- The nearest manifest above a file decides what its package is, and nothing else does. -/
theorem ofDocument_dominated {t : FileTree} {cwd directory : Path} {name : Text}
    (hname : name ≠ []) (hcwd : cwd.IsPlain) (htop : cwd.isAbsolute = true)
    (hdots : ['.', '.'] ∉ ((Path.ofText name).absolute cwd).names)
    (hdirectory : ((Path.ofText name).absolute cwd).parent = directory)
    (haccess : ∀ i, i ≤ directory.names.length →
      ∃ b, t.isFile [] ((directory.ancestor i).child Manifest.fileName).toText = .ok b) :
    -- a manifest that names a module
    (∀ i f m, Dominates t directory i f → Manifest.moduleOf? f = some m →
      ofDocument t cwd (some name) = .ok (if i = 0 then m
        else m ++ '/' :: Path.joined (directory.names.drop (directory.names.length - i)))) ∧
    -- a manifest that names none, and no manifest at all
    (∀ i f, Dominates t directory i f → Manifest.moduleOf? f = none →
      ofDocument t cwd (some name) = .ok (directory.names.getLastD ['.'])) ∧
    ((∀ i f, i ≤ directory.names.length →
        ¬ t.Holds (directory.ancestor i) Manifest.fileName f) →
      ofDocument t cwd (some name) = .ok (directory.names.getLastD ['.'])) ∧
    -- one of the three is the case, and the package is never empty
    ((∃ i f, Dominates t directory i f) ∨
      ∀ i f, i ≤ directory.names.length →
        ¬ t.Holds (directory.ancestor i) Manifest.fileName f) ∧
    (∃ package, ofDocument t cwd (some name) = .ok package ∧ package ≠ []) ∧
    -- the manifest that is found stands above the file
    (∀ manifest, Manifest.find t [] directory (Path.ofText Manifest.fileName) = .ok manifest →
      ∃ names, manifest.parent.below? directory = some names) ∧
    -- only a document without a file has no package
    ofDocument t cwd none = .error (.noFile "<unsaved>".toList) ∧
    ofDocument t cwd (some []) = .error (.noFile "<unsaved>".toList) := by
  have hplain : directory.IsPlain := hdirectory ▸ ((Path.isPlain_ofText name).absolute hcwd).parent
  have habs : directory.isAbsolute = true := by
    have : (((Path.ofText name).absolute cwd).parent).isAbsolute = true :=
      Path.isAbsolute_absolute htop
    rwa [hdirectory] at this
  have hdots : ['.', '.'] ∉ directory.names := by
    rw [← hdirectory]
    exact fun hmem => hdots (List.dropLast_subset _ hmem)
  have hpackage : ∀ s, ofDirectory t directory = .ok s → ofDocument t cwd (some name) = .ok s := by
    intro s hs
    cases name with
    | nil => exact absurd rfl hname
    | cons c rest => simp [ofDocument, ofFile, hdirectory, hs]
  have hdominated := fun i f => ofDirectory_of_dominates (i := i) (f := f) hplain habs hdots haccess
  have hnone := ofDirectory_of_none hplain habs hdots haccess
  refine ⟨?_, ?_, ?_, dominates_or t directory, ?_, ?_, rfl, rfl⟩
  · intro i f m h hm
    rw [hpackage _ (hdominated i f h), hm, Option.elim_some, within_eq m h.within]
  · intro i f h hm
    rw [hpackage _ (hdominated i f h), hm, Option.elim_none, fallback_eq hplain]
  · intro h
    rw [hpackage _ (hnone h), fallback_eq hplain]
  · rcases dominates_or t directory with ⟨i, f, h⟩ | h
    · refine ⟨_, hpackage _ (hdominated i f h), ?_⟩
      cases hm : Manifest.moduleOf? f with
      | none => exact fallback_ne_nil directory
      | some m => exact within_ne_nil (Manifest.ne_nil_of_moduleOf? hm) _
    · exact ⟨_, hpackage _ (hnone h), fallback_ne_nil directory⟩
  · intro manifest hfind
    rcases dominates_or t directory with ⟨i, f, h⟩ | h
    · rw [find_of_dominates hplain habs hdots haccess h] at hfind
      cases hfind
      exact ⟨_, by rw [Path.parent_child, Path.below?_ancestor]⟩
    · rw [find_of_none hplain habs hdots haccess h] at hfind
      cases hfind

/-- A tree with a manifest at `/w`, one that is no text at `/w/a`, and a directory in the place of
one at `/w/b`. -/
def nestedManifests : FileTree :=
  let manifest : Text := "go.mod".toList
  ⟨[([['w']], .directory),
    ([['w'], manifest], .file ⟨Utf8.encode "module m".toList, .plain, none⟩),
    ([['w'], ['a']], .directory), ([['w'], ['a'], manifest], .file ⟨[0xff], .plain, none⟩),
    ([['w'], ['b']], .directory), ([['w'], ['b'], manifest], .directory)]⟩

theorem ofDocument_dominated_of_nestedManifests :
    ofDocument nestedManifests ⟨.top, [['w']]⟩ (some "b/x".toList) = .ok "m/b".toList ∧
      ofDocument nestedManifests ⟨.top, [['w']]⟩ (some "a/x".toList) = .ok ['a'] := by
  have hcwd : Path.IsPlain ⟨.top, [['w']]⟩ := by simp [Path.IsPlain, Path.isIdle]
  have haccess : ∀ c, c = 'a' ∨ c = 'b' → ∀ i, i ≤ 2 → ∃ b, nestedManifests.isFile []
      ((Path.ancestor ⟨.top, [['w'], [c]]⟩ i).child Manifest.fileName).toText = .ok b := by
    rintro c (rfl | rfl) i hi
    · rcases (by omega : i = 0 ∨ i = 1 ∨ i = 2) with rfl | rfl | rfl
      · exact ⟨true, by decide⟩
      · exact ⟨true, by decide⟩
      · exact ⟨false, by decide⟩
    · rcases (by omega : i = 0 ∨ i = 1 ∨ i = 2) with rfl | rfl | rfl
      · exact ⟨false, by decide⟩
      · exact ⟨true, by decide⟩
      · exact ⟨false, by decide⟩
  constructor
  · obtain ⟨hnamed, -⟩ := ofDocument_dominated
      (show "b/x".toList ≠ [] by decide) hcwd rfl (by decide) rfl (haccess 'b' (.inr rfl))
    have hholds : nestedManifests.Holds ⟨.top, [['w']]⟩ Manifest.fileName
        ⟨Utf8.encode "module m".toList, .plain, none⟩ :=
      ⟨by decide, by rintro (_ | _ | k) <;> rfl, by decide⟩
    refine hnamed 1 _ ['m'] ⟨by decide, hholds, ?_⟩ (by decide +kernel)
    intro j g hj hg
    cases (by omega : j = 0)
    cases hg.stands
  · obtain ⟨-, hunnamed, -⟩ := ofDocument_dominated
      (show "a/x".toList ≠ [] by decide) hcwd rfl (by decide) rfl (haccess 'a' (.inl rfl))
    have hholds : nestedManifests.Holds ⟨.top, [['w'], ['a']]⟩ Manifest.fileName
        ⟨[0xff], .plain, none⟩ :=
      ⟨by decide, by rintro (_ | _ | _ | k) <;> rfl, by decide⟩
    exact hunnamed 0 _ ⟨by decide, hholds, by omega⟩ (by decide +kernel)

end Package

end Marginalia

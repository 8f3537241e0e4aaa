import Marginalia.Proofs.Package.Spelling

/-!
# Packages of one module

The packages of a module are told apart by their names: two documents with the same manifest have
packages of the same name just when they lie in the same directory.  The place of the manifest is
one for both of them, so their directories differ in what leads down from there, and the name of a
package keeps all of that, since no name on the way is empty or holds a slash.

A directory further down has the manifest of the one above it, from whatever depth it is looked for,
unless a manifest lies between.  Its package is then the one above with the way down behind it.  The
main statement is `packages_of_one_module`.
-/

namespace Marginalia.Package

/-! ## Names of packages -/

/-- The names on the way down, each with a slash in front of it. -/
def descent (names : List Text) : Text :=
  names.flatMap ('/' :: ·)

theorem descent_append (names more : List Text) :
    descent (names ++ more) = descent names ++ descent more :=
  List.flatMap_append

theorem slash_joined (name : Text) (rest : List Text) :
    '/' :: Path.joined (name :: rest) = descent (name :: rest) := by
  induction rest generalizing name with
  | nil => simp [Path.joined, Text.join, descent]
  | cons next rest ih =>
    have hjoined : Path.joined (name :: next :: rest)
        = name ++ '/' :: Path.joined (next :: rest) := by
      simp [Path.joined, Text.join]
    rw [hjoined, ih next]
    rfl

/-- The name of a package is that of the module with the way down behind it. -/
theorem within_eq_descent (m : Text) (names : List Text) : within m names = m ++ descent names := by
  cases names with
  | nil => simp [within, descent]
  | cons name rest =>
    rw [← slash_joined]
    rfl

/-! ## The manifest of a directory -/

/-- The manifest of a directory is found `i` levels above it: the file `f` at `place`.  There is
none nearer. -/
structure FindsManifest (t : FileTree) (directory : Path) (i : Nat) (place : List Text)
    (f : File) : Prop where
  within : i ≤ directory.names.length
  found : t.locate [] ((directory.ancestor i).child Manifest.fileName).toText
    = .ok (place, .file f)
  nearer : ∀ j, j < i →
    t.isFile [] ((directory.ancestor j).child Manifest.fileName).toText = .ok false

/-- The manifest of a directory is the file `f` at `place`. -/
def HasManifest (t : FileTree) (directory : Path) (place : List Text) (f : File) : Prop :=
  ∃ i, FindsManifest t directory i place f

section
variable {t : FileTree} {directory : Path} {i : Nat} {place : List Text} {f : File} {m : Text}

theorem FindsManifest.find (h : FindsManifest t directory i place f) :
    Manifest.find t [] directory (Path.ofText Manifest.fileName)
      = .ok ((directory.ancestor i).child Manifest.fileName) := by
  have hlt : i < directory.names.length + 1 := Nat.lt_succ_of_le h.within
  have hfile : t.isFile [] ((directory.ancestor i).child Manifest.fileName).toText = .ok true := by
    rw [FileTree.isFile, h.found]
  rw [Manifest.find, FileTree.nearestFile?, Manifest.paths_of_manifests,
    FileTree.firstFile?_of_first (i := i)
      (by rw [List.getElem?_map, List.getElem?_range hlt, Option.map_some]) hfile]
  intro j other hj hother
  have hlt : j < directory.names.length + 1 := by omega
  rw [List.getElem?_map, List.getElem?_range hlt, Option.map_some] at hother
  cases hother
  exact h.nearer j hj

theorem FindsManifest.moduleName (h : FindsManifest t directory i place f)
    (hm : Manifest.moduleOf? f = some m) :
    Manifest.moduleName t [] ((directory.ancestor i).child Manifest.fileName) = .ok m := by
  have hread : t.read [] ((directory.ancestor i).child Manifest.fileName).toText
      = if f.mode.readable then .ok f.content
        else .error ⟨.denied, ((directory.ancestor i).child Manifest.fileName).toText⟩ := by
    rw [FileTree.read, h.found]
  have hname := Manifest.toOption_moduleName hread
  rw [hm] at hname
  cases hmodule : Manifest.moduleName t [] ((directory.ancestor i).child Manifest.fileName) with
  | error r =>
    rw [hmodule] at hname
    cases hname
  | ok other =>
    rw [hmodule] at hname
    cases hname
    rfl

theorem FindsManifest.ofDirectory (h : FindsManifest t directory i place f)
    (hm : Manifest.moduleOf? f = some m) :
    ofDirectory t directory
      = .ok (m ++ descent (directory.names.drop (directory.names.length - i))) := by
  simp only [Package.ofDirectory, h.find, h.moduleName hm, Path.parent_child, Path.below?_ancestor,
    within_eq_descent]

/-- A manifest stands where the names in front of the way down lead to. -/
theorem FindsManifest.place_eq (h : FindsManifest t directory i place f)
    (hplain : directory.IsPlain) (habs : directory.isAbsolute = true)
    (hdots : ['.', '.'] ∉ directory.names) :
    place = directory.names.take (directory.names.length - i) ++ [Manifest.fileName] := by
  obtain ⟨-, hplace, -⟩ :=
    FileTree.reached_of_locate_child (isPlain_manifest hplain i) habs h.found
  rw [hplace]
  refine Path.collapse_of_notMem fun hmem => ?_
  rcases List.mem_append.mp hmem with hmem | hmem
  · exact hdots (List.mem_of_mem_take hmem)
  · exact absurd (List.mem_singleton.mp hmem) (by decide)

/-- The names of a directory lead to the top of its module and then down. -/
theorem HasManifest.exists_descent (h : HasManifest t directory place f)
    (hm : Manifest.moduleOf? f = some m) (hplain : directory.IsPlain)
    (habs : directory.isAbsolute = true) (hdots : ['.', '.'] ∉ directory.names) :
    ∃ top names, directory.names = top ++ names ∧ place = top ++ [Manifest.fileName] ∧
      ofDirectory t directory = .ok (m ++ descent names) := by
  obtain ⟨i, h⟩ := h
  exact ⟨_, _, (List.take_append_drop _ _).symm, h.place_eq hplain habs hdots, h.ofDirectory hm⟩

/-- A directory further down has the manifest of the one above, unless one lies between. -/
theorem FindsManifest.descend (h : FindsManifest t directory i place f) (names : List Text)
    (hbetween : ∀ k, k < names.length → t.isFile []
      ((Path.ancestor ⟨directory.root, directory.names ++ names⟩ k).child Manifest.fileName).toText
        = .ok false) :
    FindsManifest t ⟨directory.root, directory.names ++ names⟩ (i + names.length) place f := by
  have habove : ∀ j, Path.ancestor ⟨directory.root, directory.names ++ names⟩ (j + names.length)
      = directory.ancestor j := by
    intro j
    have hlength : (directory.names ++ names).length - (j + names.length)
        = directory.names.length - j := by
      rw [List.length_append]
      omega
    rw [Path.ancestor, Path.ancestor]
    simp only [hlength, List.take_append_of_le_length (Nat.sub_le _ _)]
  refine ⟨?_, ?_, fun j hj => ?_⟩
  · rw [List.length_append]
    exact Nat.add_le_add_right h.within _
  · rw [habove]
    exact h.found
  · rcases Nat.lt_or_ge j names.length with hlt | hge
    · exact hbetween j hlt
    · obtain ⟨k, rfl⟩ : ∃ k, j = k + names.length := ⟨j - names.length, by omega⟩
      rw [habove]
      exact h.nearer k (by omega)

theorem FindsManifest.ofDirectory_append (h : FindsManifest t directory i place f)
    (hm : Manifest.moduleOf? f = some m) {names : List Text} {unit : Text}
    (hunit : Package.ofDirectory t directory = .ok unit)
    (hlow : FindsManifest t ⟨directory.root, directory.names ++ names⟩ (i + names.length) place f) :
    Package.ofDirectory t ⟨directory.root, directory.names ++ names⟩
      = .ok (unit ++ descent names) := by
  have hdrop : (directory.names ++ names).drop
      ((directory.names ++ names).length - (i + names.length))
        = directory.names.drop (directory.names.length - i) ++ names := by
    have hlength : (directory.names ++ names).length - (i + names.length)
        = directory.names.length - i := by
      rw [List.length_append]
      omega
    rw [hlength, List.drop_append_of_le_length (Nat.sub_le _ _)]
  rw [h.ofDirectory hm] at hunit
  cases hunit
  rw [hlow.ofDirectory hm, hdrop, descent_append, List.append_assoc]

end

/-! ## Documents -/

theorem ofDocument_of_absolute {t : FileTree} {cwd : Path} {name unit : Text}
    (habs : (Path.ofText name).isAbsolute = true)
    (hunit : ofDirectory t (Path.ofText name).parent = .ok unit) :
    ofDocument t cwd (some name) = .ok unit := by
  have hfile : (Path.ofText name).absolute cwd = Path.ofText name := if_pos habs
  cases name with
  | nil => cases habs
  | cons c rest => simp [ofDocument, ofFile, hfile, hunit]

/-- Documents with one manifest that names a module, their paths being absolute and without `..`,
have packages, and these have one name just when the documents lie in the same directory.  As long
as no manifest lies between, a document further down has the same manifest, and its package is the
one above with the names behind it that lead down from there, each with a slash in front. -/
theorem packages_of_one_module {t : FileTree} {cwd : Path} {name : Text} {place : List Text}
    {f : File} {m : Text} (habs : (Path.ofText name).isAbsolute = true)
    (hdots : ['.', '.'] ∉ (Path.ofText name).names)
    (hmanifest : HasManifest t (Path.ofText name).parent place f)
    (hm : Manifest.moduleOf? f = some m) :
    ∃ unit, ofDocument t cwd (some name) = .ok unit ∧
      -- documents with the same manifest
      (∀ other, (Path.ofText other).isAbsolute = true → ['.', '.'] ∉ (Path.ofText other).names →
        HasManifest t (Path.ofText other).parent place f →
        ∃ unit', ofDocument t cwd (some other) = .ok unit' ∧
          (unit' = unit ↔ (Path.ofText other).parent.names = (Path.ofText name).parent.names)) ∧
      -- documents further down
      ∀ other names, (Path.ofText name).parent.below? (Path.ofText other).parent = some names →
        (∀ k, k < names.length → t.isFile []
          (((Path.ofText other).parent.ancestor k).child Manifest.fileName).toText = .ok false) →
        HasManifest t (Path.ofText other).parent place f ∧
          ofDocument t cwd (some other) = .ok (unit ++ names.flatMap ('/' :: ·)) := by
  have hplain : ∀ s : Text, (Path.ofText s).parent.IsPlain :=
    fun s => (Path.isPlain_ofText s).parent
  have hdotless : ∀ s : Text, ['.', '.'] ∉ (Path.ofText s).names →
      ['.', '.'] ∉ (Path.ofText s).parent.names :=
    fun s hdots hmem => hdots (List.dropLast_subset _ hmem)
  obtain ⟨top, names, hnames, hplace, hunit⟩ :=
    hmanifest.exists_descent hm (hplain name) habs (hdotless name hdots)
  refine ⟨_, ofDocument_of_absolute habs hunit, fun other habs' hdots' hmanifest' => ?_,
    fun other down hbelow hbetween => ?_⟩
  · obtain ⟨top', names', hnames', hplace', hunit'⟩ :=
      hmanifest'.exists_descent hm (hplain other) habs' (hdotless other hdots')
    obtain rfl : top' = top := List.append_cancel_right (hplace'.symm.trans hplace)
    refine ⟨_, ofDocument_of_absolute habs' hunit', ?_⟩
    have hback : ∀ n ∈ names, Path.isIdle n = false ∧ '/' ∉ n := fun n hn =>
      hplain name n (hnames ▸ List.mem_append_right _ hn)
    have hback' : ∀ n ∈ names', Path.isIdle n = false ∧ '/' ∉ n := fun n hn =>
      hplain other n (hnames' ▸ List.mem_append_right _ hn)
    rw [← within_eq_descent, ← within_eq_descent, within_inj hback' hback, hnames, hnames',
      List.append_cancel_left_eq]
  · have hdown := Path.below?_eq_some_iff.mp hbelow
    have habs' : (Path.ofText other).isAbsolute = true := by
      have hroot : (Path.ofText other).parent.root = (Path.ofText name).parent.root := by rw [hdown]
      exact (congrArg (· != Path.Root.here) hroot).trans habs
    obtain ⟨i, hfinds⟩ := hmanifest
    rw [hdown] at hbetween
    have hlow := hfinds.descend down hbetween
    refine ⟨hdown ▸ ⟨_, hlow⟩, ofDocument_of_absolute habs' ?_⟩
    rw [hdown]
    exact hfinds.ofDirectory_append hm hunit hlow

/-- A tree with a module at `/w` and two directories below it. -/
def deepModule : FileTree :=
  ⟨[([['w']], .directory),
    ([['w'], "go.mod".toList], .file ⟨Utf8.encode "module m\n".toList, .plain, none⟩),
    ([['w'], ['a']], .directory), ([['w'], ['a'], ['b']], .directory)]⟩

/-- Of three documents, two lie at the top of the module, the path of one of them being spelled with
two slashes, and one lies two directories further down. -/
theorem packages_of_one_module_of_deepModule :
    ∃ unit, ofDocument deepModule ⟨.top, []⟩ (some "/w/x.go".toList) = .ok unit ∧
      ofDocument deepModule ⟨.top, []⟩ (some "//w/y.go".toList) = .ok unit ∧
      ofDocument deepModule ⟨.top, []⟩ (some "/w/a/b/z.go".toList)
        = .ok (unit ++ "/a/b".toList) := by
  let f : File := ⟨Utf8.encode "module m\n".toList, .plain, none⟩
  have hmanifest : ∀ s ∈ ["/w/x.go".toList, "//w/y.go".toList],
      HasManifest deepModule (Path.ofText s).parent [['w'], "go.mod".toList] f := by
    intro s hs
    refine ⟨0, Nat.zero_le _, ?_, fun j hj => absurd hj (Nat.not_lt_zero j)⟩
    rcases List.mem_pair.mp hs with rfl | rfl
    · decide +kernel
    · decide +kernel
  obtain ⟨unit, hunit, hbeside, hdown⟩ := @packages_of_one_module deepModule ⟨.top, []⟩
    "/w/x.go".toList _ f ['m'] (by decide) (by decide) (hmanifest _ List.mem_cons_self)
    (by decide +kernel)
  obtain ⟨unit', hunit', hsame⟩ := hbeside "//w/y.go".toList (by decide) (by decide)
    (hmanifest _ (List.mem_cons_of_mem _ List.mem_cons_self))
  obtain ⟨-, hlow⟩ := hdown "/w/a/b/z.go".toList [['a'], ['b']] (by decide) fun k hk => by
    have hk : k < 2 := hk
    obtain rfl | rfl : k = 0 ∨ k = 1 := by omega
    · decide +kernel
    · decide +kernel
  exact ⟨unit, hunit, hsame.mpr (by decide) ▸ hunit', hlow⟩

end Marginalia.Package

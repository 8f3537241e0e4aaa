import Mathlib.Data.List.Forall2
import Marginalia.Proofs.Files.Spelled
import Marginalia.Proofs.Package.Dominating
import Marginalia.Proofs.Settings.Choice

/-!
# How the spelling of a path matters

The package of a file and the settings for a directory ought not to depend on whether their paths
are spelled with `..`.  But manifests and settings files are looked for in every directory that a
path passes, also in one that it leaves again, and what a path adds to the name of a module is taken
as it is spelled.

The main statement is `spelling_of_paths`: which files count for a spelled path, and when the
package and the settings are those of the path without `..`.  `left_manifest_counts` is a file whose
package is that of a directory which its path has left again.
-/

namespace Marginalia

open Marginalia.Path (collapse)
open FileTree (Reached HasRoom IsFileName bytesOf front)

/-! ## Packages -/

namespace Package

/-- The package of a directory, given the manifest that is passed last on the way along its
names. -/
def along (t : FileTree) (d : Path) : Text :=
  match t.passed? Manifest.fileName d.names with
  | none => fallback d
  | some (k, f) => (Manifest.moduleOf? f).elim (fallback d) fun m => within m (d.names.drop k)

/-- The path without `..` that leads to the same directory. -/
def straight (d : Path) : Path :=
  ⟨d.root, collapse d.names⟩

section
variable {t : FileTree} {d : Path} (hd : Reached t d) (hroom : HasRoom d Manifest.fileName)

theorem isFileName_manifest : IsFileName Manifest.fileName := by
  decide

include hd hroom

theorem ofDirectory_of_reached : ofDirectory t d = .ok (along t d) := by
  have hsearch := FileTree.nearestFile?_of_reached hd isFileName_manifest hroom
  rw [ofDirectory, Manifest.find, Manifest.ofText_fileName, hsearch, along]
  cases hfile : t.passed? Manifest.fileName d.names with
  | none => rfl
  | some found =>
    obtain ⟨k, f⟩ := found
    obtain ⟨hk, hf, -⟩ := FileTree.lastPassed?_eq_some_iff.mp hfile
    have hread := FileTree.read_front hd isFileName_manifest hroom hf
    have hname := Manifest.toOption_moduleName hread
    have hbelow : (front d k).below? d = some (d.names.drop k) :=
      Path.below?_eq_some_iff.mpr (by rw [front, List.take_append_drop])
    simp only [Option.map_some, Path.parent_child, hbelow]
    cases hmodule : Manifest.moduleName t [] ((front d k).child Manifest.fileName) with
    | error r =>
      rw [hmodule] at hname
      rw [← hname]
      rfl
    | ok m =>
      rw [hmodule] at hname
      rw [← hname]
      rfl

end

/-- Different names add different things to the name of a module. -/
theorem within_inj {m : Text} {names others : List Text}
    (hnames : ∀ n ∈ names, Path.isIdle n = false ∧ '/' ∉ n)
    (hothers : ∀ n ∈ others, Path.isIdle n = false ∧ '/' ∉ n) :
    within m names = within m others ↔ names = others := by
  refine ⟨fun heq => ?_, congrArg _⟩
  cases names with
  | nil =>
    cases others with
    | nil => rfl
    | cons => simp [within] at heq
  | cons first rest =>
    cases others with
    | nil => simp [within] at heq
    | cons first' rest' =>
      have hjoined : Path.joined (first :: rest) = Path.joined (first' :: rest') := by
        simpa [within] using heq
      rw [Path.joined, Path.joined, Text.join_eq_intercalate, Text.join_eq_intercalate] at hjoined
      rw [← List.splitOn_intercalate '/' (fun n hn => (hnames n hn).2) (List.cons_ne_nil _ _),
        hjoined, List.splitOn_intercalate '/' (fun n hn => (hothers n hn).2) (List.cons_ne_nil _ _)]

section
variable {t : FileTree} {d : Path} (hplain : d.IsPlain)
include hplain

theorem isPlain_straight : (straight d).IsPlain :=
  fun n hn => hplain n ((Path.collapse_sublist d.names).subset hn)

/-- The name of a directory is the one it is spelled with, unless that leads back. -/
theorem fallback_straight : fallback d = fallback (straight d) ↔
    d.names.getLast? ≠ some ['.', '.'] := by
  rw [fallback_eq hplain, fallback_eq (isPlain_straight hplain), straight]
  rcases List.eq_nil_or_concat d.names with hnil | ⟨names, last, hlast⟩
  · rw [hnil]
    exact iff_of_true rfl nofun
  · rw [List.concat_eq_append] at hlast
    rw [hlast, List.getLast?_concat, ne_eq, Option.some.injEq, List.getLastD_concat]
    by_cases hdots : last = ['.', '.']
    · refine iff_of_false (fun heq => ?_) (not_not.mpr hdots)
      have hlast : last = (collapse (names ++ [last])).getLastD ['.'] := heq
      have hmem : (collapse (names ++ [last])).getLastD ['.'] ∈ ['.'] :: collapse (names ++ [last]) :=
        List.getLastD_mem_cons
      rw [← hlast] at hmem
      rcases List.mem_cons.mp hmem with hidle | hmem
      · exact absurd (hdots.symm.trans hidle) (by decide)
      · exact Path.notMem_collapse _ (hdots ▸ hmem)
    · refine iff_of_true ?_ hdots
      rw [Path.collapse_concat, if_neg hdots, List.getLastD_concat]

/-- What a path adds to the name of a module that stands in one of its ancestors is what the path
without `..` adds, as long as the names behind the module do not lead back. -/
theorem within_straight {m : Text} {k : Nat} :
    within m (d.names.drop k)
        = within m ((straight d).names.drop (collapse (d.names.take k)).length) ↔
      ['.', '.'] ∉ d.names.drop k := by
  rw [within_inj (fun n hn => hplain n (List.mem_of_mem_drop hn))
    (fun n hn => isPlain_straight hplain n (List.mem_of_mem_drop hn))]
  constructor
  · intro heq hmem
    rw [heq] at hmem
    exact Path.notMem_collapse d.names (List.mem_of_mem_drop hmem)
  · intro hdots
    have hplace := Path.collapse_append_of_notMem (d.names.take k) hdots
    rw [List.take_append_drop] at hplace
    rw [straight, hplace, List.drop_left]

end

end Package

/-! ## Settings -/

namespace FileTree

section
variable {t : FileTree} {p : Path} (habs : p.isAbsolute = true) (cwd : List Text)
include habs

theorem locate_of_absolute : t.locate cwd p.toText = t.locate [] p.toText :=
  locate_of_slash (Path.head?_toText habs)

theorem isFile_of_absolute : t.isFile cwd p.toText = t.isFile [] p.toText := by
  rw [isFile, isFile, locate_of_absolute habs]

theorem read_of_absolute : t.read cwd p.toText = t.read [] p.toText := by
  rw [read, read, locate_of_absolute habs]

/-- A search upward from an absolute path does not depend on where the reader is. -/
theorem nearestFile?_of_absolute (name : Text) :
    t.nearestFile? cwd p ⟨.here, [name]⟩ = t.nearestFile? [] p ⟨.here, [name]⟩ := by
  have hpaths : ∀ paths : List Path, (∀ q ∈ paths, q.isAbsolute = true) →
      t.firstFile? cwd paths = t.firstFile? [] paths := by
    intro paths hall
    induction paths with
    | nil => rfl
    | cons q rest ih =>
      rw [firstFile?, firstFile?, isFile_of_absolute (hall q List.mem_cons_self),
        ih fun q' hq' => hall q' (List.mem_cons_of_mem _ hq')]
  refine hpaths _ fun q hq => ?_
  obtain ⟨ancestor, hancestor, rfl⟩ := List.mem_map.mp hq
  obtain ⟨k, -, rfl⟩ := List.mem_map.mp hancestor
  exact habs

end

end FileTree

namespace Settings

/-- The table of a settings file, if the file can be read and has it. -/
def tableOf? (table : List Text) (f : File) : Option Fields :=
  if f.mode.readable then (Layer.fieldsIn ⟨⟨.here, []⟩, table⟩ f.content).toOption else none

/-- The settings that files stand for, each with the names that lead to its table. -/
def settingsOf? (files : List (List Text × File)) : Option Settings :=
  (files.mapM fun file => tableOf? file.1 file.2).bind fun tables =>
    (ofFields (tables.foldl Fields.update [])).toOption

/-- The settings files that are passed last on the way along some names. -/
def filesAlong (t : FileTree) (names : List Text) : List (List Text × File) :=
  ((t.passed? projectFile names).map fun found => (projectTable, found.2)).toList
    ++ ((t.passed? ownFile names).map fun found => ([], found.2)).toList

theorem toOption_load (source : Text) (fields : Fields) :
    (load source fields).toOption = (ofFields fields).toOption := by
  rw [load]
  cases ofFields fields with
  | ok => rfl
  | error => rfl

section
variable {t : FileTree} {cwd : Path} {layers : List Layer} {files : List (List Text × File)}
  (h : List.Forall₂ (fun layer (file : List Text × File) =>
    (layer.load t cwd.names).toOption = tableOf? file.1 file.2) layers files)
include h

theorem mapM_loaded :
    ((layers.mapM (loaded t cwd)).toOption).map (List.map Prod.snd)
      = files.mapM fun file => tableOf? file.1 file.2 := by
  induction h with
  | nil => rfl
  | @cons layer file layers files hfile _ ih =>
    rw [List.mapM_cons, List.mapM_cons, ← hfile, ← ih, loaded]
    cases layer.load t cwd.names with
    | error r => rfl
    | ok fields =>
      cases hrest : layers.mapM (loaded t cwd) with
      | error r => rfl
      | ok tables => rfl

/-- The tables of layers, as far as they can be loaded, decide what settings they stand for. -/
theorem toOption_ofLayers : (ofLayers t cwd layers).toOption = settingsOf? files := by
  rw [settingsOf?, ← mapM_loaded h, ofLayers_eq_bind]
  cases layers.mapM (loaded t cwd) with
  | error r => rfl
  | ok tables =>
    refine (toOption_load _ _).trans ?_
    rw [merge_eq]
    show _ = (ofFields ((tables.map Prod.snd).foldl Fields.update [])).toOption
    rw [List.foldl_map]

end

theorem toOption_fieldsIn (file other : Path) (table : List Text) (bytes : List UInt8) :
    (Layer.fieldsIn ⟨file, table⟩ bytes).toOption
      = (Layer.fieldsIn ⟨other, table⟩ bytes).toOption := by
  simp only [Layer.fieldsIn]
  cases Utf8.decode bytes with
  | error r => rfl
  | ok s =>
    simp only
    cases Toml.parse s with
    | error r =>
      cases r with
      | malformed => rfl
      | tooManyDigits => rfl
    | ok fields =>
      simp only
      cases Layer.follow table (.table fields) with
      | table => rfl
      | _ => rfl

section
variable {t : FileTree} {d : Path} (hd : Reached t d)
include hd

theorem toOption_load_front {name : Text} (hname : IsFileName name) (hroom : HasRoom d name)
    {k : Nat} {f : File} (hf : t.fileAt? (collapse (d.names.take k)) name = some f)
    (cwd : List Text) (table : List Text) :
    (Layer.load t cwd ⟨(front d k).child name, table⟩).toOption = tableOf? table f := by
  have habs : ((front d k).child name).isAbsolute = true := hd.absolute
  rw [Layer.load, FileTree.isFile_of_absolute habs, FileTree.read_of_absolute habs,
    FileTree.isFile_front hd hname hroom, FileTree.read_front hd hname hroom hf, hf, tableOf?]
  simp only [Option.isSome_some]
  split
  · next hread =>
    split at hread
    · cases hread
    · next hmode =>
      rw [if_neg hmode]
      rfl
  · next hread =>
    split at hread
    · next hmode =>
      cases hread
      rw [if_pos hmode]
      exact toOption_fieldsIn _ _ _ _
    · cases hread

/-- The layer of the file that is found stands for what the file that is passed last holds. -/
theorem forall₂_found {name : Text} (hname : IsFileName name) (hroom : HasRoom d name)
    (cwd : Path) (table : List Text) :
    List.Forall₂ (fun layer (file : List Text × File) =>
        (Layer.load t cwd.names layer).toOption = tableOf? file.1 file.2)
      ((t.passed? name d.names).map fun found =>
        (⟨(front d found.1).child name, table⟩ : Layer)).toList
      ((t.passed? name d.names).map fun found => (table, found.2)).toList := by
  cases hfound : t.passed? name d.names with
  | none => exact .nil
  | some found =>
    obtain ⟨-, hf, -⟩ := FileTree.lastPassed?_eq_some_iff.mp hfound
    exact .cons (toOption_load_front hd hname hroom hf cwd.names table) .nil

end

/-- The settings for a spelled directory are those of the files that are passed last. -/
theorem toOption_above {t : FileTree} {cwd directory : Path}
    (hd : Reached t (directory.absolute cwd))
    (hproject : HasRoom (directory.absolute cwd) projectFile)
    (hown : HasRoom (directory.absolute cwd) ownFile) :
    (above t cwd directory).toOption
      = settingsOf? (filesAlong t (directory.absolute cwd).names) := by
  have hname : IsFileName projectFile := by decide
  have hname' : IsFileName ownFile := by decide
  have hlayers : layersAbove t cwd directory = .ok
      (((t.passed? projectFile (directory.absolute cwd).names).map fun found =>
          (⟨(front (directory.absolute cwd) found.1).child projectFile, projectTable⟩ : Layer)).toList
        ++ ((t.passed? ownFile (directory.absolute cwd).names).map fun found =>
          (⟨(front (directory.absolute cwd) found.1).child ownFile, []⟩ : Layer)).toList) := by
    have htext : Path.ofText projectFile = ⟨.here, [projectFile]⟩ := by decide
    have htext' : Path.ofText ownFile = ⟨.here, [ownFile]⟩ := by decide
    have hsearch := (FileTree.nearestFile?_of_absolute hd.absolute cwd.names projectFile).trans
      (FileTree.nearestFile?_of_reached hd hname hproject)
    have hsearch' := (FileTree.nearestFile?_of_absolute hd.absolute cwd.names ownFile).trans
      (FileTree.nearestFile?_of_reached hd hname' hown)
    rw [layersAbove, htext, htext', hsearch, hsearch']
    simp only [bind, Except.bind, Option.map_map]
    rfl
  rw [above, hlayers]
  simp only
  exact toOption_ofLayers (List.rel_append (forall₂_found hd hname hproject cwd projectTable)
    (forall₂_found hd hname' hown cwd []))

end Settings

/-! ## The main statement -/

open Package (along straight)

/-- The directory that the first `k` of some names lead to has been left again: it is no ancestor of
where all of them lead. -/
def Left (names : List Text) (k : Nat) : Prop :=
  ¬ collapse (names.take k) <+: collapse names

theorem passed?_straight {t : FileTree} {d : Path} {name : Text} {k : Nat} {f : File}
    (hfile : t.passed? name d.names = some (k, f)) (hleft : ¬ Left d.names k) :
    t.passed? name (straight d).names = some ((collapse (d.names.take k)).length, f) :=
  FileTree.passed?_collapse_of_prefix hfile (not_not.mp hleft)

/-- The same file is passed last along the path without `..`, unless its directory has been left. -/
theorem map_passed?_straight {t : FileTree} {d : Path} {name : Text}
    (hleft : ∀ k f, t.passed? name d.names = some (k, f) → ¬ Left d.names k) {α : Type}
    (g : File → α) :
    ((t.passed? name d.names).map fun found => g found.2)
      = (t.passed? name (straight d).names).map fun found => g found.2 := by
  cases hfile : t.passed? name d.names with
  | none => rw [straight, FileTree.passed?_collapse_of_none hfile]
  | some found => rw [passed?_straight hfile (hleft _ _ hfile)]; rfl

theorem resolved_of_isAbsolute {p cwd : Path} (habs : (p.absolute cwd).isAbsolute = true) :
    (p.resolved cwd).absolute cwd = straight (p.absolute cwd) :=
  if_pos habs

/-- A file stands at a path that does not end in `..`. -/
theorem ne_dots_of_locate {t : FileTree} {d : Path} {name : Text} {place : List Text} {f : File}
    (hd : Reached t d) (hplace : place = collapse (d.names ++ [name]))
    (hnode : t.node? place = some (.file f)) : name ≠ ['.', '.'] := by
  rintro rfl
  rw [Path.collapse_concat, if_pos rfl, List.dropLast_eq_take] at hplace
  have hdirectory := hd.straight.directories ((collapse d.names).length - 1)
  rw [FileTree.collapse_take_collapse, ← hplace, hnode] at hdirectory
  cases hdirectory

/-- Which files count for a path that is spelled with `..`, and when they are those that count for
the path without it.  A search finds the file that is passed last, which is the nearest one unless
its directory has been left again.  The package is then the same as long as the names behind the
manifest do not lead back; without a usable manifest it is the last name of the directory as it is
spelled.  The settings are the same unless the directory of a settings file has been left again. -/
theorem spelling_of_paths {t : FileTree} {cwd : Path} (hcwd : cwd.IsPlain)
    (htop : cwd.isAbsolute = true) :
    -- searches
    (∀ d name, Reached t d → IsFileName name → HasRoom d name →
      t.nearestFile? [] d ⟨.here, [name]⟩ = .ok ((t.passed? name d.names).map fun found =>
        (front d found.1).child name) ∧
      t.nearestFile? [] (straight d) ⟨.here, [name]⟩
        = .ok ((t.passed? name (straight d).names).map fun found =>
          (front (straight d) found.1).child name) ∧
      (t.passed? name d.names = none → t.passed? name (straight d).names = none) ∧
      ∀ k f, t.passed? name d.names = some (k, f) → ¬ Left d.names k →
        t.passed? name (straight d).names = some ((collapse (d.names.take k)).length, f)) ∧
    -- packages
    (∀ p d name place f, p.IsPlain → p.absolute cwd = d.child name →
      t.locate [] (p.absolute cwd).toText = .ok (place, .file f) → HasRoom d Manifest.fileName →
      Package.ofFile t cwd p = .ok (along t d) ∧
      Package.ofFile t cwd (p.resolved cwd) = .ok (along t (straight d)) ∧
      (∀ k g m, t.passed? Manifest.fileName d.names = some (k, g) → ¬ Left d.names k →
        Manifest.moduleOf? g = some m →
        (along t d = along t (straight d) ↔ ['.', '.'] ∉ d.names.drop k)) ∧
      ((∀ k g, t.passed? Manifest.fileName d.names = some (k, g) →
          ¬ Left d.names k ∧ Manifest.moduleOf? g = none) →
        (along t d = along t (straight d) ↔ d.names.getLast? ≠ some ['.', '.']))) ∧
    -- settings
    ∀ r place, r.IsPlain → t.locate [] (r.absolute cwd).toText = .ok (place, .directory) →
      HasRoom (r.absolute cwd) Settings.projectFile → HasRoom (r.absolute cwd) Settings.ownFile →
      (Settings.above t cwd r).toOption
        = Settings.settingsOf? (Settings.filesAlong t (r.absolute cwd).names) ∧
      (Settings.above t cwd (r.resolved cwd)).toOption
        = Settings.settingsOf? (Settings.filesAlong t (r.resolved cwd).names) ∧
      ((∀ name ∈ [Settings.projectFile, Settings.ownFile], ∀ k f,
          t.passed? name (r.absolute cwd).names = some (k, f) → ¬ Left (r.absolute cwd).names k) →
        (Settings.above t cwd r).toOption
          = (Settings.above t cwd (r.resolved cwd)).toOption) := by
  have hroomy : ∀ {d : Path} {name : Text}, Reached t d → HasRoom d name →
      HasRoom (straight d) name :=
    fun hd hroom => hroom.of_sublist hd.absolute (Path.collapse_sublist _)
  refine ⟨fun d name hd hname hroom => ⟨?_, ?_, ?_, ?_⟩,
    fun p d name place f hplain hfile hlocate hroom => ?_,
    fun r place hplain hlocate hproject hown => ?_⟩
  · exact FileTree.nearestFile?_of_reached hd hname hroom
  · exact FileTree.nearestFile?_of_reached hd.straight hname (hroomy hd hroom)
  · exact FileTree.passed?_collapse_of_none
  · exact fun k f => passed?_straight
  · have habs : (p.absolute cwd).isAbsolute = true := Path.isAbsolute_absolute htop
    have hchild : (d.child name).IsPlain := hfile ▸ hplain.absolute hcwd
    have hresolved := resolved_of_isAbsolute habs
    rw [hfile] at hlocate habs hresolved
    obtain ⟨hd, hplace, hnode, -⟩ := FileTree.reached_of_locate_child hchild habs hlocate
    have hname := ne_dots_of_locate hd hplace hnode
    have hstraight : (straight (d.child name)).parent = straight d := by
      rw [straight, Path.names_child, Path.collapse_concat, if_neg hname]
      exact Path.parent_child (straight d) name
    refine ⟨?_, ?_, fun k g m hmanifest hleft hmodule => ?_, fun hunusable => ?_⟩
    · rw [Package.ofFile, hfile, Path.parent_child, Package.ofDirectory_of_reached hd hroom]
    · rw [Package.ofFile, hresolved, hstraight]
      exact Package.ofDirectory_of_reached hd.straight (hroomy hd hroom)
    · rw [along, along, hmanifest, passed?_straight hmanifest hleft]
      simp only [hmodule, Option.elim_some]
      exact Package.within_straight hd.plain
    · rw [← Package.fallback_straight hd.plain]
      cases hmanifest : t.passed? Manifest.fileName d.names with
      | none =>
        have hnone := FileTree.passed?_collapse_of_none hmanifest
        rw [along, along, hmanifest, straight, hnone]
      | some found =>
        obtain ⟨k, g⟩ := found
        obtain ⟨hleft, hmodule⟩ := hunusable k g hmanifest
        rw [along, along, hmanifest, passed?_straight hmanifest hleft]
        simp only [hmodule, Option.elim_none]
  · have habs : (r.absolute cwd).isAbsolute = true := Path.isAbsolute_absolute htop
    have hd := FileTree.reached_of_locate (hplain.absolute hcwd) habs hlocate
    have hresolved := resolved_of_isAbsolute habs
    have hsettings := Settings.toOption_above hd hproject hown
    have hsettings' : (Settings.above t cwd (r.resolved cwd)).toOption
        = Settings.settingsOf? (Settings.filesAlong t (r.resolved cwd).names) := by
      rw [Settings.toOption_above, hresolved]
      · rfl
      · exact hresolved ▸ hd.straight
      · exact hresolved ▸ hroomy hd hproject
      · exact hresolved ▸ hroomy hd hown
    refine ⟨hsettings, hsettings', fun hleft => ?_⟩
    have hproject := map_passed?_straight (hleft _ List.mem_cons_self)
      fun f => (Settings.projectTable, f)
    have hown := map_passed?_straight (hleft _ (List.mem_cons_of_mem _ List.mem_cons_self))
      fun f => (([] : List Text), f)
    rw [hsettings, hsettings', Settings.filesAlong, hproject, hown]
    rfl

/-- A tree with a manifest and a settings file at `/w`, and two directories there, one of which holds
a file. -/
def sharedManifest : FileTree :=
  let file (content : String) : Node := .file ⟨Utf8.encode content.toList, .plain, none⟩
  ⟨[([['w']], .directory), ([['w'], "go.mod".toList], file "module m\n"),
    ([['w'], ".goescape.toml".toList], file "emoji = false\n"), ([['w'], ['a']], .directory),
    ([['w'], ['b']], .directory), ([['w'], ['b'], "x.go".toList], file "package b\n")]⟩

/-- From `/w`, the file `b/x.go` may also be spelled `a/../b/x.go`, and `/w` may be spelled
`a/..`. -/
theorem spelling_of_paths_of_sharedManifest :
    let cwd : Path := ⟨.top, [['w']]⟩
    let p := Path.ofText "a/../b/x.go".toList
    let r := Path.ofText "a/..".toList
    Package.ofFile sharedManifest cwd p = .ok "m/b".toList ∧
      Package.ofFile sharedManifest cwd (p.resolved cwd) = .ok "m/b".toList ∧
      (Settings.above sharedManifest cwd r).toOption
        = (Settings.above sharedManifest cwd (r.resolved cwd)).toOption := by
  intro cwd p r
  have hcwd : cwd.IsPlain := Path.isPlain_ofText "/w".toList
  let d : Path := ⟨.top, [['w'], ['a'], ['.', '.'], ['b']]⟩
  let f : File := ⟨Utf8.encode "package b\n".toList, .plain, none⟩
  let g : File := ⟨Utf8.encode "module m\n".toList, .plain, none⟩
  obtain ⟨-, hpackages, hsettings⟩ := spelling_of_paths (t := sharedManifest) hcwd rfl
  have hlocate : sharedManifest.locate [] (p.absolute cwd).toText
      = .ok ([['w'], ['b'], "x.go".toList], .file f) := by decide +kernel
  have hroom : bytesOf (d.child Manifest.fileName).toText ≤ FileTree.pathLimit := by decide
  obtain ⟨hspelled, hresolved, hnamed, -⟩ :=
    hpackages p d "x.go".toList _ f (Path.isPlain_ofText _) rfl hlocate hroom
  have hmanifest : sharedManifest.passed? Manifest.fileName d.names = some (3, g) := by
    decide +kernel
  have hsame := (hnamed 3 g ['m'] hmanifest (not_not.mpr (by decide)) (by decide +kernel)).mpr
    (by decide)
  have halong : along sharedManifest d = "m/b".toList := by decide +kernel
  refine ⟨hspelled.trans (congrArg _ halong), ?_, ?_⟩
  · rw [hresolved, ← hsame, halong]
  · have hreached : sharedManifest.locate [] (r.absolute cwd).toText = .ok ([['w']], .directory) := by
      decide +kernel
    have hproject : bytesOf ((r.absolute cwd).child Settings.projectFile).toText
        ≤ FileTree.pathLimit := by decide
    have hown : bytesOf ((r.absolute cwd).child Settings.ownFile).toText
        ≤ FileTree.pathLimit := by decide
    obtain ⟨-, -, hagree⟩ :=
      hsettings r _ (Path.isPlain_ofText _) hreached hproject hown
    refine hagree fun name hname k found hfile => ?_
    have hplaces : ∀ name ∈ [Settings.projectFile, Settings.ownFile],
        (sharedManifest.passed? name (r.absolute cwd).names).all fun found => found.1 == 3 := by
      decide +kernel
    have hk := hplaces name hname
    rw [hfile, Option.all_some, beq_iff_eq] at hk
    cases hk
    exact not_not.mpr (by decide)

/-- A tree with a manifest and a settings file at `/w/a`, and a file at `/w`. -/
def leftManifest : FileTree :=
  let file (content : String) : Node := .file ⟨Utf8.encode content.toList, .plain, none⟩
  ⟨[([['w']], .directory), ([['w'], ['a']], .directory),
    ([['w'], ['a'], "go.mod".toList], file "module other\n"),
    ([['w'], ['a'], ".goescape.toml".toList], file "emoji = false\n"),
    ([['w'], "x.go".toList], file "package w\n")]⟩

/-- The package of a file whose path leads into a directory and back is named after the manifest of
that directory, and its settings are those of that directory. -/
theorem left_manifest_counts :
    let cwd : Path := ⟨.top, [['w']]⟩
    let p := Path.ofText "a/../x.go".toList
    let r := Path.ofText "a/..".toList
    leftManifest.locate [] (p.absolute cwd).toText = .ok ([['w'], "x.go".toList],
        .file ⟨Utf8.encode "package w\n".toList, .plain, none⟩) ∧
      p.resolved cwd = ⟨.top, [['w'], "x.go".toList]⟩ ∧
      Package.ofFile leftManifest cwd p = .ok "other/..".toList ∧
      Package.ofFile leftManifest cwd (p.resolved cwd) = .ok ['w'] ∧
      ((Settings.above leftManifest cwd r).toOption.map Settings.emoji) = some false ∧
      ((Settings.above leftManifest cwd (r.resolved cwd)).toOption.map Settings.emoji) = some true := by
  intro cwd p r
  refine ⟨?_, ?_, ?_, ?_, ?_, ?_⟩
  · decide +kernel
  · decide
  · decide +kernel
  · decide +kernel
  · decide +kernel
  · decide +kernel

end Marginalia
